import Signalweave.Inference.Coordinator
import Signalweave.Library.Transition

/-!
# What the coordinator broadcasts

A tool call is announced to everybody who is subscribed to the space of the identity. The envelope
has the scope that the requester has written, which is the scope of that space only where the
requester has named it.
-/

namespace Signalweave.Inference

open Protocol (ControlPayload Envelope)
open Transport

/-! ## Scopes -/

/-- The envelope has the scope of the space of the identity. -/
structure AiIdentityConfig.Scopes (identity : AiIdentityConfig) (envelope : Envelope) : Prop where
  namespaceId : envelope.namespaceId = identity.namespaceId.get
  sessionId : envelope.sessionId = identity.session.get
  spaceId : envelope.spaceId = identity.space.get
  spaceEpoch : envelope.spaceEpoch = identity.spaceEpoch.get

instance {identity : AiIdentityConfig} {envelope : Envelope} :
    Decidable (identity.Scopes envelope) :=
  decidable_of_iff (envelope.namespaceId = identity.namespaceId.get ∧
      envelope.sessionId = identity.session.get ∧ envelope.spaceId = identity.space.get ∧
        envelope.spaceEpoch = identity.spaceEpoch.get)
    ⟨fun ⟨hn, hs, hp, he⟩ => ⟨hn, hs, hp, he⟩, fun ⟨hn, hs, hp, he⟩ => ⟨hn, hs, hp, he⟩⟩

variable {σ : Type} {coordinator : Coordinator σ} {state state' : Inferring}

/-- Everything broadcast so far goes to the space of the identity and has its scope. -/
def Inferring.Intact (coordinator : Coordinator σ) (state : Inferring) : Prop :=
  ∀ space envelope excluded, .broadcastToSpace space envelope excluded ∈ state.sent →
    space = coordinator.identity.spaceKey ∧ coordinator.identity.Scopes envelope

/-- A run that comes to a proposal in time is one whose requester has named the space of the
identity. -/
def InferenceInput.keepsScope (coordinator : Coordinator σ) (state : Inferring) :
    InferenceInput σ → Prop
  | .inbound .. => True
  | .advance index now _ => ∀ run proposal rest, state.runs[index]? = some run →
    run.events = .toolCallProposed proposal :: rest → now ≤ run.deadline →
      coordinator.identity.Scopes run.source

theorem scopes_replyEnvelope {identity : AiIdentityConfig} {source : Envelope} {entity : EntityId}
    {payload : ControlPayload} :
    identity.Scopes (replyEnvelope source entity payload) ↔ identity.Scopes source :=
  ⟨fun ⟨hn, hs, hp, he⟩ => ⟨hn, hs, hp, he⟩, fun ⟨hn, hs, hp, he⟩ => ⟨hn, hs, hp, he⟩⟩

/-- What is told of a tool call: the proposal, and what has become of it. -/
def toolCallPayloads (proposal : ToolCallProposal) : ToolCallOutcome → List ControlPayload
  | .completed newRevision result =>
    [.toolCallProposed proposal.toolId proposal.toolVersion proposal.arguments
        proposal.expectedRevision,
      .toolCallAccepted proposal.toolId, .toolCallCompleted newRevision result]
  | .rejected code reason =>
    [.toolCallProposed proposal.toolId proposal.toolVersion proposal.arguments
        proposal.expectedRevision,
      .toolCallRejected (mapRejectionCode code) reason]

theorem handleToolCall_eq {source : Envelope} {proposal : ToolCallProposal} {world : σ} :
    coordinator.handleToolCall source proposal world =
      (toolCallPayloads proposal (coordinator.tools.evaluate coordinator.invocationContext proposal
        world)).map (coordinator.broadcast source) := by
  unfold Coordinator.handleToolCall
  cases coordinator.tools.evaluate coordinator.invocationContext proposal world <;> rfl

theorem exists_mem_toolCallPayloads (proposal : ToolCallProposal) (outcome : ToolCallOutcome) :
    ∃ payload, payload ∈ toolCallPayloads proposal outcome := by
  cases outcome <;> exact ⟨_, List.mem_cons_self⟩

/-- A tool call broadcasts with the scope of the source. -/
theorem handleToolCall_scopes_iff {source : Envelope} {proposal : ToolCallProposal} {world : σ} :
    (∀ space envelope excluded, .broadcastToSpace space envelope excluded ∈
        coordinator.handleToolCall source proposal world →
      space = coordinator.identity.spaceKey ∧ coordinator.identity.Scopes envelope) ↔
        coordinator.identity.Scopes source := by
  rw [handleToolCall_eq]
  constructor
  · intro h
    obtain ⟨payload, hin⟩ := exists_mem_toolCallPayloads proposal
      (coordinator.tools.evaluate coordinator.invocationContext proposal world)
    have hscopes := (h _ _ _ (List.mem_map.mpr ⟨payload, hin, rfl⟩)).2
    exact scopes_replyEnvelope.mp hscopes
  · intro h space envelope excluded hin
    obtain ⟨payload, -, heq⟩ := List.mem_map.mp hin
    injection heq with hspace henvelope
    subst hspace henvelope
    exact ⟨rfl, scopes_replyEnvelope.mpr h⟩

/-- The other events are answered to the requester alone. -/
theorem handleEvent_scopes_iff {run : InferenceRun} {event : InferenceEvent} {world : σ} :
    (∀ space envelope excluded, .broadcastToSpace space envelope excluded ∈
        coordinator.handleEvent run world event →
      space = coordinator.identity.spaceKey ∧ coordinator.identity.Scopes envelope) ↔
        ∀ proposal, event = .toolCallProposed proposal →
          coordinator.identity.Scopes run.source := by
  cases event with
  | toolCallProposed proposal =>
    refine handleToolCall_scopes_iff.trans ⟨fun h _ _ => h, fun h => h proposal rfl⟩
  | _ => exact iff_of_true (fun _ _ _ hin => by cases List.mem_singleton.mp hin) nofun

theorem Inferring.Intact.append (h : state.Intact coordinator) {sent : List WorkerRequest}
    {runs : List InferenceRun} :
    Inferring.Intact coordinator { runs, sent := state.sent ++ sent } ↔
      ∀ space envelope excluded, .broadcastToSpace space envelope excluded ∈ sent →
        space = coordinator.identity.spaceKey ∧ coordinator.identity.Scopes envelope := by
  constructor
  · intro hafter space envelope excluded hin
    exact hafter space envelope excluded (List.mem_append_right _ hin)
  · intro hnew space envelope excluded hin
    rcases List.mem_append.mp hin with hold | hin
    · exact h space envelope excluded hold
    · exact hnew space envelope excluded hin

theorem Inferring.Intact.reply (h : state.Intact coordinator) {runs : List InferenceRun}
    {requester : ConnectionId} {source : Envelope} {payload : ControlPayload} :
    Inferring.Intact coordinator
      { runs, sent := state.sent ++ [coordinator.reply requester source payload] } :=
  h.append.mpr fun _ _ _ hin => by cases List.mem_singleton.mp hin

/-! ## What a step can do -/

/-- The steps of the coordinator, with what each of them has found. -/
inductive Coordinator.Stepped (coordinator : Coordinator σ) (state : Inferring) :
    InferenceInput σ → Inferring → Prop
  | start {requester : ConnectionId} {now : Instant}
      {envelope : { envelope : Envelope // ({} : Protocol.CodecLimits).Accepts envelope }}
      {capability : String} {deadlineMs : Nat} {input : List UInt8}
      (hmessage : envelope.1.message =
        .control (.inferenceRequested capability deadlineMs input)) :
      Stepped coordinator state (.inbound requester envelope now)
        { runs := state.runs ++
            [coordinator.startInference requester envelope.1 capability deadlineMs input now]
          sent := state.sent ++ [coordinator.reply requester envelope.1 (.inferenceAccepted 0)] }
  | full {requester : ConnectionId} {now : Instant}
      {envelope : { envelope : Envelope // ({} : Protocol.CodecLimits).Accepts envelope }}
      {capability : String} {deadlineMs : Nat} {input : List UInt8}
      (hmessage : envelope.1.message =
        .control (.inferenceRequested capability deadlineMs input)) :
      Stepped coordinator state (.inbound requester envelope now)
        { runs := state.runs
          sent := state.sent ++ [coordinator.reply requester envelope.1
            (.inferenceFailed "inference provider queue is full")] }
  | finish {index : Nat} {now : Instant} {world : σ} {run : InferenceRun}
      (hrun : state.runs[index]? = some run) (hevents : run.events = []) :
      Stepped coordinator state (.advance index now world)
        { state with runs := state.runs.eraseIdx index }
  | expire {index : Nat} {now : Instant} {world : σ} {run : InferenceRun} {event : InferenceEvent}
      {rest : List InferenceEvent} (hrun : state.runs[index]? = some run)
      (hevents : run.events = event :: rest) (hpassed : run.deadline < now) :
      Stepped coordinator state (.advance index now world)
        { runs := state.runs.eraseIdx index
          sent := state.sent ++ [coordinator.reply run.requester run.source
            (.inferenceExpired "deadline passed before delivery")] }
  | handle {index : Nat} {now : Instant} {world : σ} {run : InferenceRun} {event : InferenceEvent}
      {rest : List InferenceEvent} (hrun : state.runs[index]? = some run)
      (hevents : run.events = event :: rest) (hintime : now ≤ run.deadline) :
      Stepped coordinator state (.advance index now world)
        { runs := state.runs.set index { run with events := rest }
          sent := state.sent ++ coordinator.handleEvent run world event }
  | skip {requester : ConnectionId} {now : Instant}
      {envelope : { envelope : Envelope // ({} : Protocol.CodecLimits).Accepts envelope }} :
      Stepped coordinator state (.inbound requester envelope now) state
  | idle {index : Nat} {now : Instant} {world : σ} (hrun : state.runs[index]? = none) :
      Stepped coordinator state (.advance index now world) state

theorem Coordinator.step_stepped (input : InferenceInput σ) :
    Stepped coordinator state input (coordinator.step state input) := by
  cases input with
  | inbound requester envelope now =>
    unfold Coordinator.step Coordinator.acceptOrReject
    dsimp only
    split
    · rename_i hmessage
      split
      · exact .start hmessage
      · exact .full hmessage
    · exact .skip
  | advance index now world =>
    unfold Coordinator.step Coordinator.advance
    dsimp only
    cases hrun : state.runs[index]? with
    | none => exact .idle hrun
    | some run =>
      dsimp only
      cases hevents : run.events with
      | nil => exact .finish hrun hevents
      | cons event rest =>
        dsimp only
        split
        · rename_i hpassed
          exact .expire hrun hevents hpassed
        · rename_i hintime
          exact .handle hrun hevents (Nat.not_lt.mp hintime)

theorem Coordinator.Stepped.intact_iff {input : InferenceInput σ}
    (hstep : coordinator.Stepped state input state') (h : state.Intact coordinator) :
    state'.Intact coordinator ↔ input.keepsScope coordinator state := by
  cases hstep with
  | start | full => exact iff_of_true h.reply trivial
  | skip => exact iff_of_true h trivial
  | idle hrun =>
    refine iff_of_true h fun run proposal rest hat => ?_
    cases hrun.symm.trans hat
  | finish hrun hevents =>
    refine iff_of_true h fun run proposal rest hat hproposed => ?_
    obtain rfl := Option.some.inj (hrun.symm.trans hat)
    cases hevents.symm.trans hproposed
  | expire hrun hevents hpassed =>
    refine iff_of_true h.reply fun run proposal rest hat hproposed hintime => ?_
    obtain rfl := Option.some.inj (hrun.symm.trans hat)
    exact absurd hpassed (Nat.not_lt.mpr hintime)
  | handle hrun hevents hintime =>
    rw [h.append, handleEvent_scopes_iff]
    constructor
    · intro hscope run proposal rest hat hproposed _
      obtain rfl := Option.some.inj (hrun.symm.trans hat)
      exact hscope proposal (List.cons.inj (hevents.symm.trans hproposed)).1
    · rintro hscope proposal rfl
      exact hscope _ proposal _ hrun hevents hintime

/-! ## What does not depend on the scope -/

/-- Two inputs that differ at most in what surrounds the request: its scope and its sender's
entity. -/
inductive InferenceInput.Same : InferenceInput σ → InferenceInput σ → Prop
  | inbound {requester : ConnectionId} {now : Instant}
      {envelope envelope' : { envelope : Envelope // ({} : Protocol.CodecLimits).Accepts envelope }}
      (message : envelope'.1.message = envelope.1.message)
      (correlation : envelope'.1.correlationId = envelope.1.correlationId) :
      Same (.inbound requester envelope now) (.inbound requester envelope' now)
  | advance {index : Nat} {now : Instant} {world : σ} :
      Same (.advance index now world) (.advance index now world)

/-- The envelope with another scope. -/
def withScope (envelope : Envelope) (namespaceId sessionId spaceId spaceEpoch : Nat) : Envelope :=
  { envelope with namespaceId, sessionId, spaceId, spaceEpoch }

/-- What is to be sent, without its scope. -/
def unscoped : WorkerRequest → WorkerRequest
  | .sendToConnection connection envelope =>
    .sendToConnection connection (withScope envelope 0 0 0 0)
  | .broadcastToSpace space envelope excluded =>
    .broadcastToSpace space (withScope envelope 0 0 0 0) excluded
  | request => request

/-- What is broadcast, with the scope of the identity. -/
def AiIdentityConfig.rescoped (identity : AiIdentityConfig) : WorkerRequest → WorkerRequest
  | .broadcastToSpace space envelope excluded =>
    .broadcastToSpace space (withScope envelope identity.namespaceId.get identity.session.get
      identity.space.get identity.spaceEpoch.get) excluded
  | request => request

/-- The request is for all subscribers of a space. -/
def isBroadcast : WorkerRequest → Bool
  | .broadcastToSpace .. => true
  | _ => false

namespace Inferring

/-- What has been broadcast, in order. -/
def broadcasts (state : Inferring) : List WorkerRequest := state.sent.filter isBroadcast

/-- Two states that agree in all but scopes. -/
structure Alike (state state' : Inferring) : Prop where
  runs : state'.runs.map (fun run =>
      (run.requester, run.source.correlationId, run.deadline, run.events)) =
    state.runs.map fun run => (run.requester, run.source.correlationId, run.deadline, run.events)
  sent : state'.sent.map unscoped = state.sent.map unscoped

theorem Intact.broadcasts_eq (h : state.Intact coordinator) :
    state.broadcasts =
      ((state.sent.map unscoped).filter isBroadcast).map coordinator.identity.rescoped := by
  unfold broadcasts
  have hsent := h
  unfold Intact at hsent
  generalize state.sent = sent at hsent
  induction sent with
  | nil => rfl
  | cons request rest ih =>
    have ih := ih fun space envelope excluded hin =>
      hsent space envelope excluded (List.mem_cons_of_mem _ hin)
    cases request with
    | broadcastToSpace space envelope excluded =>
      obtain ⟨-, hn, hs, hp, he⟩ := hsent space envelope excluded List.mem_cons_self
      show _ :: _ = _ :: _
      rw [ih]
      congr 2
      cases envelope
      simp_all [withScope]
    | _ => exact ih

/-- Where all broadcasts have the scope of the identity, they are the same in both states. -/
theorem Alike.broadcasts_eq (h : state.Alike state') (hintact : state.Intact coordinator)
    (hintact' : state'.Intact coordinator) : state'.broadcasts = state.broadcasts := by
  rw [hintact.broadcasts_eq, hintact'.broadcasts_eq, h.sent]

end Inferring

theorem withScope_replyEnvelope {source source' : Envelope} {entity : EntityId}
    {payload : ControlPayload} (h : source'.correlationId = source.correlationId) :
    withScope (replyEnvelope source' entity payload) 0 0 0 0 =
      withScope (replyEnvelope source entity payload) 0 0 0 0 := by
  unfold replyEnvelope withScope
  rw [h]

theorem unscoped_reply {source source' : Envelope} {requester : ConnectionId}
    {payload : ControlPayload} (h : source'.correlationId = source.correlationId) :
    unscoped (coordinator.reply requester source' payload) =
      unscoped (coordinator.reply requester source payload) := by
  simp only [Coordinator.reply, unscoped, withScope_replyEnvelope h]

theorem unscoped_broadcast {source source' : Envelope} {payload : ControlPayload}
    (h : source'.correlationId = source.correlationId) :
    unscoped (coordinator.broadcast source' payload) =
      unscoped (coordinator.broadcast source payload) := by
  simp only [Coordinator.broadcast, unscoped, withScope_replyEnvelope h]

theorem unscoped_handleEvent {run run' : InferenceRun} {event : InferenceEvent} {world : σ}
    (hrequester : run'.requester = run.requester)
    (h : run'.source.correlationId = run.source.correlationId) :
    (coordinator.handleEvent run' world event).map unscoped =
      (coordinator.handleEvent run world event).map unscoped := by
  cases event with
  | toolCallProposed proposal =>
    simp only [Coordinator.handleEvent, handleToolCall_eq, List.map_map]
    apply List.map_congr_left
    intro payload _
    exact unscoped_broadcast h
  | _ => simp [Coordinator.handleEvent, hrequester, unscoped_reply h]

namespace Inferring.Alike

/-- What one request has to say is in both states the same, up to its scope. -/
theorem add (h : state.Alike state') {runs runs' : List InferenceRun}
    {sent sent' : List WorkerRequest}
    (hruns : runs'.map (fun run => (run.requester, run.source.correlationId, run.deadline,
      run.events)) = runs.map fun run => (run.requester, run.source.correlationId, run.deadline,
        run.events))
    (hsent : sent'.map unscoped = sent.map unscoped) :
    Inferring.Alike { runs, sent := state.sent ++ sent }
      { runs := runs', sent := state'.sent ++ sent' } where
  runs := hruns
  sent := by rw [List.map_append, List.map_append, h.sent, hsent]

theorem acceptOrReject (h : state.Alike state') {requester : ConnectionId} {now : Instant}
    {envelope envelope' : Envelope} (hmessage : envelope'.message = envelope.message)
    (hcorrelation : envelope'.correlationId = envelope.correlationId) :
    (coordinator.acceptOrReject state requester envelope now).Alike
      (coordinator.acceptOrReject state' requester envelope' now) := by
  have hlength : state'.runs.length = state.runs.length := by
    simpa using congrArg List.length h.runs
  unfold Coordinator.acceptOrReject
  rw [hmessage, hlength]
  split
  · split
    · refine h.add ?_ ?_
      · rw [List.map_append, List.map_append, h.runs]
        simp [Coordinator.startInference, hcorrelation]
      · simp [unscoped_reply hcorrelation]
    · exact h.add h.runs (by simp [unscoped_reply hcorrelation])
  · exact h

theorem advance (h : state.Alike state') (index : Nat) (now : Instant) (world : σ) :
    (coordinator.advance state index now world).Alike
      (coordinator.advance state' index now world) := by
  have hat := congrArg (fun runs => runs[index]?) h.runs
  simp only [List.getElem?_map] at hat
  unfold Coordinator.advance
  cases hrun : state.runs[index]? with
  | none =>
    have hrun' : state'.runs[index]? = none := by simpa [hrun] using hat
    rw [hrun']
    exact h
  | some run =>
    rw [hrun, Option.map_some] at hat
    obtain ⟨run', hrun', heq⟩ := Option.map_eq_some_iff.mp hat
    obtain ⟨hrequester, hcorrelation, hdeadline, hevents⟩ := by simpa using heq
    simp only [hrun', hdeadline, hevents]
    cases run.events with
    | nil =>
      refine ⟨?_, h.sent⟩
      rw [← List.eraseIdx_map, ← List.eraseIdx_map, h.runs]
    | cons event rest =>
      dsimp only
      split
      · refine h.add ?_ ?_
        · rw [← List.eraseIdx_map, ← List.eraseIdx_map, h.runs]
        · rw [hrequester, List.map_singleton, List.map_singleton, unscoped_reply hcorrelation]
      · refine h.add ?_ ?_
        · rw [List.map_set, List.map_set, h.runs, hrequester, hcorrelation]
        · exact unscoped_handleEvent hrequester hcorrelation

theorem step (h : state.Alike state') {input input' : InferenceInput σ}
    (hsame : input.Same input') :
    (coordinator.step state input).Alike (coordinator.step state' input') := by
  cases hsame with
  | inbound message correlation => exact h.acceptOrReject message correlation
  | advance => exact h.advance _ _ _

theorem run (h : state.Alike state') {inputs inputs' : List (InferenceInput σ)}
    (hsame : List.Forall₂ InferenceInput.Same inputs inputs') :
    (Transition.run coordinator.step state inputs).Alike
      (Transition.run coordinator.step state' inputs') := by
  induction hsame generalizing state state' with
  | nil => exact h
  | cons hfirst _ ih => exact ih (h.step hfirst)

end Inferring.Alike

/-! ## Whole runs -/

/-- Everything that is broadcast has the scope of the identity exactly as long as every proposal
that is handled in time comes from a request that names it; and then the broadcasts do not depend on
what else the requests have written. -/
theorem run_intact_iff (coordinator : Coordinator σ) (inputs : List (InferenceInput σ)) :
    (Transition.Always coordinator.step (Inferring.Intact coordinator) {} inputs ↔
      Transition.Meets coordinator.step
        (fun state input => input.keepsScope coordinator state) {} inputs) ∧
    ∀ inputs', List.Forall₂ InferenceInput.Same inputs inputs' →
      Transition.Meets coordinator.step
        (fun state input => input.keepsScope coordinator state) {} inputs →
      Transition.Meets coordinator.step
        (fun state input => input.keepsScope coordinator state) {} inputs' →
      (Transition.run coordinator.step {} inputs').broadcasts =
        (Transition.run coordinator.step {} inputs).broadcasts := by
  have hiff : ∀ inputs : List (InferenceInput σ),
      Transition.Always coordinator.step (Inferring.Intact coordinator) {} inputs ↔
        Transition.Meets coordinator.step
          (fun state input => input.keepsScope coordinator state) {} inputs := by
    intro inputs
    refine Transition.always_iff_meets (J := fun _ => True) (fun _ _ _ => trivial) ?_ trivial
      ?_ inputs
    · exact fun state input _ hintact => (Coordinator.step_stepped input).intact_iff hintact
    · intro space envelope excluded hin
      cases hin
  refine ⟨hiff inputs, fun inputs' hsame hmeets hmeets' => ?_⟩
  have halike : Inferring.Alike {} {} := ⟨rfl, rfl⟩
  exact (halike.run hsame).broadcasts_eq ((hiff inputs).mpr hmeets).last
    ((hiff inputs').mpr hmeets').last

namespace Sample

open Stateful WovenCore

/-- The identity of the first connection, in the first space of the session. -/
def identity : AiIdentityConfig where
  namespaceId := ⟨1⟩
  session := ⟨1⟩
  space := ⟨1⟩
  spaceEpoch := ⟨1⟩

/-- A coordinator whose tools are the diagnostic one and whose provider gives these events. -/
def answering (events : List InferenceEvent) : Coordinator Unit where
  identity
  aiConnection := ⟨1⟩
  aiEntity := ⟨1⟩
  provider := fun _ => events
  tools := { tools := .ofList [((⟨"diagnostics.report", 1⟩ : ToolKey), diagnosticTool)] }
  queueCapacity := 4
  established :=
    ⟨Transition.run Signalweave.step Signalweave.Sample.core Signalweave.Sample.setup, _,
      Signalweave.Sample.reachable _, rfl⟩

/-- A request of somebody who names another session. -/
def elsewhere : Envelope where
  protocolVersion := Protocol.protocolVersion
  deliveryClass := .reliableOrdered
  namespaceId := 9
  sessionId := 9
  spaceId := 9
  entityId := some 9
  spaceEpoch := 9
  message := .control (.inferenceRequested "language.dialogue" 0 [])

theorem accepts_elsewhere : ({} : Protocol.CodecLimits).Accepts elsewhere where
  version := rfl
  kind := by decide
  delivery := by decide
  payload := nofun
  meaning := by decide +kernel

/-- The request comes in, and its run comes to its first event. -/
def asked : List (InferenceInput Unit) :=
  [.inbound ⟨7⟩ ⟨elsewhere, accepts_elsewhere⟩ 0, .advance 0 0 ()]

/-- A proposal for the diagnostic tool. -/
def report : ToolCallProposal where
  toolId := "diagnostics.report"
  toolVersion := 1
  arguments := []
  expectedRevision := 0

/-- The same request, of somebody who names this scope. -/
def requestTo (scope : Nat) : Envelope := withScope elsewhere scope scope scope scope

theorem accepts_requestTo {scope : Nat} (hmeaning : Protocol.validate (requestTo scope) = .ok ()) :
    ({} : Protocol.CodecLimits).Accepts (requestTo scope) where
  version := rfl
  kind := nofun
  delivery := nofun
  payload := nofun
  meaning := hmeaning

/-- Two requests come in. The first one names the space of the identity, and its run comes to its
proposal in time. The run of the second one does not. -/
def lateSecond (scope : Nat) (hmeaning : Protocol.validate (requestTo scope) = .ok ()) :
    List (InferenceInput Unit) :=
  [.inbound ⟨7⟩ ⟨requestTo 1, accepts_requestTo (by decide +kernel)⟩ 0,
    .inbound ⟨8⟩ ⟨requestTo scope, accepts_requestTo hmeaning⟩ 0, .advance 0 0 (),
    .advance 1 (defaultDeadline + 1) ()]

theorem lateSecond_keepsScope (scope : Nat)
    (hmeaning : Protocol.validate (requestTo scope) = .ok ()) :
    Transition.Meets (answering [.toolCallProposed report]).step
      (fun state input => input.keepsScope (answering [.toolCallProposed report]) state) {}
        (lateSecond scope hmeaning) := by
  refine ⟨trivial, trivial, ?_, ?_, trivial⟩
  · rintro run proposal rest hrun - -
    obtain rfl := Option.some.inj hrun
    exact ⟨rfl, rfl, rfl, rfl⟩
  · rintro run proposal rest hrun - hintime
    obtain rfl := Option.some.inj hrun
    exact absurd hintime (Nat.not_le_of_lt (Nat.zero_add defaultDeadline ▸ Nat.lt_succ_self _))

end Sample

/-- What the second request names is not to be seen. -/
theorem run_intact_iff_lateSecond :
    let coordinator := Sample.answering [.toolCallProposed Sample.report]
    let first := Sample.lateSecond 8 (by decide +kernel)
    let second := Sample.lateSecond 9 (by decide +kernel)
    (Transition.run coordinator.step {} first).broadcasts.length = 3 ∧
      Transition.Always coordinator.step (Inferring.Intact coordinator) {} first ∧
      (Transition.run coordinator.step {} second).broadcasts =
        (Transition.run coordinator.step {} first).broadcasts := by
  intro coordinator first second
  have hsame : List.Forall₂ InferenceInput.Same first second :=
    .cons (.inbound rfl rfl) (.cons (.inbound rfl rfl) (.cons .advance (.cons .advance .nil)))
  obtain ⟨hiff, hindependent⟩ := run_intact_iff coordinator first
  exact ⟨by decide +kernel, hiff.mpr (Sample.lateSecond_keepsScope 8 _),
    hindependent second hsame (Sample.lateSecond_keepsScope 8 _)
      (Sample.lateSecond_keepsScope 9 _)⟩

/-- A request that names another session has the space of the identity told of a tool call there. -/
theorem run_not_intact :
    ¬ ∀ (coordinator : Coordinator Unit) (inputs : List (InferenceInput Unit)),
      (Transition.run coordinator.step {} inputs).Intact coordinator := by
  intro hall
  have hintact := hall (Sample.answering [.toolCallProposed Sample.report]) Sample.asked
  have hscopes := (hintact (Signalweave.Sample.spaceKey 1)
    (replyEnvelope Sample.elsewhere ⟨1⟩ (.toolCallAccepted "diagnostics.report")) none ?_).2
  · exact absurd hscopes.namespaceId (by decide)
  · exact List.mem_cons_of_mem _ (List.mem_cons_of_mem _ List.mem_cons_self)

end Signalweave.Inference
