import Signalweave.Inference.Broadcasts

/-!
# What the coordinator has encoded

Nothing that a provider or a tool has answered is looked at before it is sent. What does not meet
the rules of the protocol meets the writer of the recipient.
-/

namespace Signalweave.Inference

open Protocol (CodecLimits ControlPayload Envelope)
open Transport

variable {σ : Type} {coordinator : Coordinator σ} {state state' : Inferring}

/-- The envelope that is to be sent. -/
def sentEnvelope : WorkerRequest → Option Envelope
  | .sendToConnection _ envelope => some envelope
  | .broadcastToSpace _ envelope _ => some envelope
  | _ => none

/-- What is to be sent passes the outbound check of the default codec. -/
def Passes (request : WorkerRequest) : Prop :=
  ∀ envelope, sentEnvelope request = some envelope →
    ({} : CodecLimits).validateOutbound envelope = .ok ()

/-- Everything sent so far can be encoded. -/
def Inferring.Encodable (state : Inferring) : Prop := ∀ request ∈ state.sent, Passes request

/-! ## Replies to a request that has been decoded -/

/-- An inference request that the default codec has decoded. -/
structure Asked (source : Envelope) : Prop where
  accepted : ({} : CodecLimits).Accepts source
  requested : ∃ capability deadlineMs input,
    source.message = .control (.inferenceRequested capability deadlineMs input)

/-- What the protocol asks of the payload of a reply, its size included. -/
def Fits : ControlPayload → Prop
  | .inferenceAccepted _ => True
  | .inferenceProgress percent => percent ≤ 100
  | .inferenceStreamChunk _ chunk _ => chunk.length ≤ 262144
  | .inferenceCompleted result | .toolCallCompleted _ result => result.length ≤ 262144
  | .inferenceFailed reason => reason ≠ "" ∧ reason.utf8ByteSize ≤ 262144
  | .inferenceExpired reason => reason.utf8ByteSize ≤ 262144
  | .toolCallProposed toolId toolVersion arguments _ =>
    toolId ≠ "" ∧ toolVersion ≠ 0 ∧ toolId.utf8ByteSize + arguments.length ≤ 262144
  | .toolCallAccepted toolId => toolId ≠ "" ∧ toolId.utf8ByteSize ≤ 262144
  | .toolCallRejected code reason => code ≠ .unknown ∧ reason.utf8ByteSize ≤ 262144
  | _ => False

theorem Asked.scope {source : Envelope} (h : Asked source) :
    Protocol.SpaceScope source ∧ source.correlationId ≠ some 0 := by
  obtain ⟨capability, deadlineMs, input, hmessage⟩ := h.requested
  have hmeaning := h.accepted.meaning
  simp only [Protocol.validate, hmessage, Protocol.validateControl,
    Protocol.validateInferenceControl, Except.bind_eq_ok, Protocol.rejectZeroOptionalIds_eq_ok,
    Protocol.requireSpaceScope_eq_ok] at hmeaning
  obtain ⟨-, ⟨-, -, hcorrelation⟩, -, -, -, ⟨hscope, -⟩, -⟩ := hmeaning
  exact ⟨hscope, hcorrelation⟩

/-- The payloads a coordinator sends. -/
def isAnswer : ControlPayload → Bool
  | .inferenceAccepted _ | .inferenceProgress _ | .inferenceStreamChunk .. | .inferenceCompleted _
  | .inferenceFailed _ | .inferenceExpired _ | .toolCallProposed .. | .toolCallAccepted _
  | .toolCallRejected .. | .toolCallCompleted .. => true
  | _ => false

/-- The scope and the class of a reply are always right. -/
theorem validate_replyEnvelope {source : Envelope} (h : Asked source) {entity : EntityId}
    (hentity : entity.get ≠ 0) {payload : ControlPayload} (hanswer : isAnswer payload = true) :
    Protocol.validate (replyEnvelope source entity payload) =
      Protocol.validateInferenceControl (replyEnvelope source entity payload) payload := by
  obtain ⟨-, hcorrelation⟩ := h.scope
  have hids : Protocol.rejectZeroOptionalIds (replyEnvelope source entity payload) = .ok () := by
    simp [replyEnvelope, hentity, hcorrelation]
  have hdelivery : Protocol.validateDelivery (replyEnvelope source entity payload) = .ok () := by
    rw [Protocol.validateDelivery_eq_ok]
    cases payload <;> first | rfl | exact absurd hanswer Bool.false_ne_true
  unfold Protocol.validate
  rw [hids, hdelivery]
  cases payload <;> first | rfl | exact absurd hanswer Bool.false_ne_true

theorem validateOutbound_replyEnvelope {source : Envelope} (h : Asked source) {entity : EntityId}
    (hentity : entity.get ≠ 0) {payload : ControlPayload} (hanswer : isAnswer payload = true) :
    ({} : CodecLimits).validateOutbound (replyEnvelope source entity payload) = .ok () ↔
      Fits payload := by
  have hscope : Protocol.requireSpaceScope (replyEnvelope source entity payload) false true =
      .ok () := by
    obtain ⟨⟨hn, hs, hp, he⟩, -⟩ := h.scope
    rw [Protocol.requireSpaceScope_eq_ok]
    exact ⟨⟨hn, hs, hp, he⟩, rfl, fun _ => hentity⟩
  have hchecks : ({} : CodecLimits).validateOutbound (replyEnvelope source entity payload) =
      Protocol.validate (replyEnvelope source entity payload) >>= fun _ =>
        CodecLimits.enforcePayloadLimit {} payload.variableLen := by
    cases payload <;> rfl
  have hsize : ({} : CodecLimits).enforcePayloadLimit payload.variableLen = .ok () ↔
      payload.variableLen ≤ 262144 := CodecLimits.enforcePayloadLimit_eq_ok
  rw [hchecks, validate_replyEnvelope h hentity hanswer]
  unfold Protocol.validateInferenceControl
  simp only [hscope, Except.bind_eq_ok, hsize]
  cases payload <;>
    first
      | exact absurd hanswer Bool.false_ne_true
      | simp [Fits, ControlPayload.variableLen, Protocol.validateToolCallProposed, and_assoc]

/-! ## Events -/

/-- What a tool has answered can be said. -/
def ToolCallOutcome.Sayable : ToolCallOutcome → Prop
  | .completed _ result => result.length ≤ 262144
  | .rejected _ reason => reason.utf8ByteSize ≤ 262144

/-- What a provider has answered can be said, and so can what a tool answers to it. -/
def InferenceEvent.Sayable (coordinator : Coordinator σ) (world : σ) : InferenceEvent → Prop
  | .progress percent => percent ≤ 100
  | .streamChunk _ chunk _ => chunk.length ≤ 262144
  | .completed result => result.length ≤ 262144
  | .failed reason => reason ≠ "" ∧ reason.utf8ByteSize ≤ 262144
  | .toolCallProposed proposal =>
    proposal.toolId ≠ "" ∧ proposal.toolVersion ≠ 0 ∧
      proposal.toolId.utf8ByteSize + proposal.arguments.length ≤ 262144 ∧
        (coordinator.tools.evaluate coordinator.invocationContext proposal world).Sayable

theorem passes_reply {request : WorkerRequest} {source : Envelope} {payload : ControlPayload}
    (hsent : sentEnvelope request = some (replyEnvelope source coordinator.aiEntity payload))
    (h : Asked source) (hanswer : isAnswer payload = true) : Passes request ↔ Fits payload := by
  rw [← validateOutbound_replyEnvelope h coordinator.aiEntity_ne_zero hanswer, Passes, hsent]
  exact ⟨fun hpasses => hpasses _ rfl, fun hvalid _ heq => Option.some.inj heq ▸ hvalid⟩

theorem isAnswer_of_mem {proposal : ToolCallProposal} {outcome : ToolCallOutcome}
    {payload : ControlPayload} (h : payload ∈ toolCallPayloads proposal outcome) :
    isAnswer payload = true := by
  cases outcome <;> simp only [toolCallPayloads, List.mem_cons, List.not_mem_nil, or_false] at h
  · rcases h with rfl | rfl | rfl <;> rfl
  · rcases h with rfl | rfl <;> rfl

theorem fits_toolCallPayloads {proposal : ToolCallProposal} {outcome : ToolCallOutcome} :
    (∀ payload ∈ toolCallPayloads proposal outcome, Fits payload) ↔
      proposal.toolId ≠ "" ∧ proposal.toolVersion ≠ 0 ∧
        proposal.toolId.utf8ByteSize + proposal.arguments.length ≤ 262144 ∧ outcome.Sayable := by
  cases outcome with
  | completed newRevision result =>
    simp only [toolCallPayloads, List.forall_mem_cons, Fits, ToolCallOutcome.Sayable]
    constructor
    · rintro ⟨⟨hid, hversion, hsize⟩, -, hresult, -⟩
      exact ⟨hid, hversion, hsize, hresult⟩
    · rintro ⟨hid, hversion, hsize, hresult⟩
      exact ⟨⟨hid, hversion, hsize⟩, ⟨hid, by omega⟩, hresult, List.forall_mem_nil _⟩
  | rejected code reason =>
    have hcode : mapRejectionCode code ≠ .unknown := by cases code <;> decide
    simp only [toolCallPayloads, List.forall_mem_cons, Fits, ToolCallOutcome.Sayable]
    constructor
    · rintro ⟨⟨hid, hversion, hsize⟩, ⟨-, hreason⟩, -⟩
      exact ⟨hid, hversion, hsize, hreason⟩
    · rintro ⟨hid, hversion, hsize, hreason⟩
      exact ⟨⟨hid, hversion, hsize⟩, ⟨hcode, hreason⟩, List.forall_mem_nil _⟩

/-- What is sent about an event passes where the event can be said. -/
theorem passes_handleEvent {run : InferenceRun} (h : Asked run.source) {event : InferenceEvent}
    {world : σ} :
    (∀ request ∈ coordinator.handleEvent run world event, Passes request) ↔
      event.Sayable coordinator world := by
  cases event with
  | toolCallProposed proposal =>
    simp only [Coordinator.handleEvent, handleToolCall_eq, List.forall_mem_map]
    rw [InferenceEvent.Sayable, ← fits_toolCallPayloads]
    constructor
    · intro hpasses payload hin
      exact (passes_reply rfl h (isAnswer_of_mem hin)).mp (hpasses payload hin)
    · intro hfits payload hin
      exact (passes_reply rfl h (isAnswer_of_mem hin)).mpr (hfits payload hin)
  | _ =>
    simp only [Coordinator.handleEvent, List.forall_mem_singleton]
    refine (passes_reply rfl h ?_).trans Iff.rfl
    rfl

/-! ## Whole runs -/

/-- Every run goes back to a request. -/
def Inferring.AllAsked (state : Inferring) : Prop := ∀ run ∈ state.runs, Asked run.source

/-- An event that a run comes to in time can be said. -/
def InferenceInput.sayable (coordinator : Coordinator σ) (state : Inferring) :
    InferenceInput σ → Prop
  | .inbound .. => True
  | .advance index now world => ∀ run event rest, state.runs[index]? = some run →
    run.events = event :: rest → now ≤ run.deadline → event.Sayable coordinator world

theorem Inferring.Encodable.append (h : state.Encodable) {sent : List WorkerRequest}
    {runs : List InferenceRun} :
    Inferring.Encodable { runs, sent := state.sent ++ sent } ↔
      ∀ request ∈ sent, Passes request := by
  constructor
  · intro hafter request hin
    exact hafter request (List.mem_append_right _ hin)
  · intro hnew request hin
    rcases List.mem_append.mp hin with hold | hin
    · exact h request hold
    · exact hnew request hin

namespace Coordinator.Stepped

variable {input : InferenceInput σ}

theorem allAsked (hstep : coordinator.Stepped state input state') (h : state.AllAsked) :
    state'.AllAsked := by
  cases hstep with
  | @start requester now envelope capability deadlineMs input hmessage =>
    intro run hin
    rcases List.mem_append.mp hin with hold | hnew
    · exact h run hold
    · obtain rfl := List.mem_singleton.mp hnew
      exact ⟨envelope.2, capability, deadlineMs, input, hmessage⟩
  | full | skip | idle => exact h
  | finish | expire => exact fun other hin => h other (List.mem_of_mem_eraseIdx hin)
  | @handle index now world run event rest hrun hevents hintime =>
    intro other hin
    rcases List.mem_or_eq_of_mem_set hin with hold | rfl
    · exact h other hold
    · exact h run (List.mem_of_getElem? hrun)

theorem encodable_iff (hstep : coordinator.Stepped state input state') (hasked : state.AllAsked)
    (h : state.Encodable) : state'.Encodable ↔ input.sayable coordinator state := by
  cases hstep with
  | @start requester now envelope capability deadlineMs input hmessage =>
    have hsource : Asked envelope.1 := ⟨envelope.2, capability, deadlineMs, input, hmessage⟩
    rw [h.append, List.forall_mem_singleton, passes_reply rfl hsource rfl]
    exact Iff.rfl
  | @full requester now envelope capability deadlineMs input hmessage =>
    have hsource : Asked envelope.1 := ⟨envelope.2, capability, deadlineMs, input, hmessage⟩
    rw [h.append, List.forall_mem_singleton, passes_reply rfl hsource rfl]
    exact iff_of_true ⟨by decide, by decide⟩ trivial
  | skip => exact iff_of_true h trivial
  | idle hrun =>
    refine iff_of_true h fun run event rest hat => ?_
    cases hrun.symm.trans hat
  | finish hrun hevents =>
    refine iff_of_true h fun run event rest hat hnext => ?_
    obtain rfl := Option.some.inj (hrun.symm.trans hat)
    cases hevents.symm.trans hnext
  | @expire index now world run event rest hrun hevents hpassed =>
    have hsource := hasked run (List.mem_of_getElem? hrun)
    have hexpired : "deadline passed before delivery".utf8ByteSize ≤ 262144 := by decide
    rw [h.append, List.forall_mem_singleton, passes_reply rfl hsource rfl]
    refine iff_of_true hexpired fun other _ _ hat _ hintime => ?_
    obtain rfl := Option.some.inj (hrun.symm.trans hat)
    exact absurd hpassed (Nat.not_lt.mpr hintime)
  | @handle index now world run event rest hrun hevents hintime =>
    rw [h.append, passes_handleEvent (hasked run (List.mem_of_getElem? hrun))]
    constructor
    · intro hsayable other _ _ hat hnext _
      obtain rfl := Option.some.inj (hrun.symm.trans hat)
      exact (List.cons.inj (hevents.symm.trans hnext)).1 ▸ hsayable
    · intro hsayable
      exact hsayable run event rest hrun hevents hintime

end Coordinator.Stepped

/-- Everything that is sent can be encoded exactly as long as every event that is handled in time
can be said. -/
theorem run_encodable_iff (coordinator : Coordinator σ) (inputs : List (InferenceInput σ)) :
    Transition.Always coordinator.step Inferring.Encodable {} inputs ↔
      Transition.Meets coordinator.step
        (fun state input => input.sayable coordinator state) {} inputs := by
  refine Transition.always_iff_meets (J := Inferring.AllAsked) ?_ ?_ ?_ ?_ inputs
  · exact fun state input hasked => (Coordinator.step_stepped input).allAsked hasked
  · exact fun state input hasked hencodable =>
      (Coordinator.step_stepped input).encodable_iff hasked hencodable
  · exact fun run hin => absurd hin List.not_mem_nil
  · exact fun request hin => absurd hin List.not_mem_nil

/-- A provider that fails without a reason has an envelope sent that cannot be encoded. -/
theorem run_not_encodable :
    ¬ ∀ (coordinator : Coordinator Unit) (inputs : List (InferenceInput Unit)),
      (Transition.run coordinator.step {} inputs).Encodable := by
  intro hall
  have hencodable := hall (Sample.answering [.failed ""]) Sample.asked
  have hpasses := hencodable ((Sample.answering [.failed ""]).reply ⟨7⟩ Sample.elsewhere
    (.inferenceFailed "")) (List.mem_cons_of_mem _ List.mem_cons_self)
  have hvalid := hpasses _ rfl
  revert hvalid
  decide +kernel

end Signalweave.Inference
