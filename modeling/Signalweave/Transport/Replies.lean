import Signalweave.Core.Numbered
import Signalweave.Core.Texts
import Signalweave.Protocol.Agreement
import Signalweave.Transport.Spawning

/-!
# Replies (`woven-transport`)

What `handle_authenticated` makes of an envelope: it asks the worker for something, refuses the
envelope or drops it. What the worker answers becomes the replies to the client, and what a request
changes is announced to others. All of these envelopes the codec has to encode, each by the rules of
its own kind. The queued messages that are flushed after a request are not among them.
-/

open Std

namespace Signalweave

open Stateful WovenCore

namespace Transport

open Protocol (CodecLimits EntityLeaveReason Envelope MessageKind ProtocolErrorCode)

/-- `Display` of an error. -/
def TransportError.text : TransportError → String
  | .workerUnavailable => "core worker is unavailable"
  | .core error => "core error: " ++ error.debug
  | .unknownConnection => "connection is not registered for direct delivery"

/-- The code that a client is told. -/
def TransportError.code : TransportError → ProtocolErrorCode
  | .core error => coreErrorCode error
  | .workerUnavailable | .unknownConnection => .internal

/-- What becomes of an envelope before the worker is asked. -/
inductive Handling where
  | drop
  | refuse
  | ask (request : WorkerRequest)

/-- What a request meets that is not in its envelope: who has sent it and whether there is a sink
for inference, what the environment supplies to its command, what its fan-out finds at each call,
whether the worker answers, and how much room there is for the replies. -/
structure Surroundings where
  connection : ConnectionId
  sink : Bool
  now : Instant
  call : Nat
  clock : ReleaseClock
  works : List ((ConnectionId → Bool) × ReleaseClock)
  answers : Bool
  room : Nat

/-- `handle_authenticated` as far as to the question to the worker. -/
def handling (met : Surroundings) (envelope : Envelope) : Handling :=
  let connection := met.connection
  let session := envelopeSession envelope
  match envelope.message with
  | .control (.inferenceRequested ..) | .control (.inferenceCancelled _) =>
    -- The sink takes it, or it is lost for want of room there.
    if met.sink then .drop else .refuse
  | .control (.snapshotRequest _) => .ask (.command (.snapshot connection session))
  | .control .subscribeSpace =>
    .ask (.subscribeAndSpawn connection (envelopeSpace envelope) ⟨envelope.spaceEpoch⟩)
  | .control (.joinSession _) => .ask (.command (.joinSession connection session))
  | .control (.leaveSession _) => .ask (.command (.leaveSession connection session met.now))
  | .control (.unsubscribeSpace _) =>
    .ask (.command (.unsubscribe connection (envelopeSpace envelope)))
  | .control (.spaceTransition fromSpaceId toSpaceId toSpaceEpoch) =>
    match envelope.entityId with
    | none => .drop
    | some entity => .ask (.command (.transitionEntity
      { connection
        session
        entity := ⟨entity⟩
        sourceSpace := ⟨fromSpaceId⟩
        sourceEpoch := ⟨envelope.spaceEpoch⟩
        destinationSpace := ⟨toSpaceId⟩
        destinationEpoch := ⟨toSpaceEpoch⟩ }))
  | .reliableEvent _ | .entityState _ =>
    match publishRequest connection envelope with
    | none => .drop
    | some request => .ask (.command (.publish request met.now met.call met.clock))
  | _ => .refuse

/-- `WorkerHandle::execute`, where nothing comes back from a worker that is gone. -/
def executed : Option WorkerReply → Except TransportError CommandResult
  | some (.command (.ok result)) => .ok result
  | some (.command (.error error)) => .error (.core error)
  | _ => .error .workerUnavailable

/-- `WorkerHandle::subscribe_and_spawn` -/
def spawned : Option WorkerReply → Except TransportError EntityId
  | some (.spawned (.ok entity)) => .ok entity
  | some (.spawned (.error error)) => .error (.core error)
  | _ => .error .workerUnavailable

/-- The answer to a message that the transport does not handle. -/
def unsupportedEnvelope (envelope : Envelope) : Envelope :=
  errorEnvelope envelope.messageKind .unsupportedMessage
    "message is not implemented by this transport"

/-- The request with the snapshot in place of its message. -/
def snapshotEnvelope (float : F64 → String) (envelope : Envelope) (snapshot : SessionSnapshot) :
    Envelope :=
  { envelope with
    message := .snapshot { typeId := 1, bytes := (snapshot.debug float).toUTF8.data.toList } }

/-- The request with its acceptance in place of its message. -/
def acceptedEnvelope (envelope : Envelope) : Envelope :=
  { envelope with
    message := .control (.subscriptionAccepted envelope.spaceId envelope.spaceEpoch)
    deliveryClass := .reliableOrdered }

/-- What the client is sent when the worker has answered. `float` writes out a floating-point
number. -/
def replies (float : F64 → String) (envelope : Envelope) (reply : Option WorkerReply) :
    List Envelope :=
  match envelope.message with
  | .control (.snapshotRequest _) =>
    match executed reply with
    | .ok (.snapshot snapshot) => [snapshotEnvelope float envelope snapshot]
    | .ok _ => []
    | .error error => [errorEnvelope .snapshotRequest .internal error.text]
  | .control .subscribeSpace =>
    match spawned reply with
    | .ok entity => [acceptedEnvelope envelope,
        entityEnteredEnvelope (envelopeSpace envelope) ⟨envelope.spaceEpoch⟩ entity]
    | .error error => [errorEnvelope .subscribeSpace error.code error.text]
  | _ =>
    match executed reply with
    | .ok _ => []
    | .error error => [errorEnvelope envelope.messageKind error.code error.text]

namespace Serving

/-- A worker between two requests. -/
def idle (worker : Worker) : Serving where
  worker
  opened := worker.core
  places := placeIn worker.core

end Serving

/-- The worker at the end of a request and of its fan-out. -/
def Worker.serve (worker : Worker) (request : WorkerRequest)
    (works : List ((ConnectionId → Bool) × ReleaseClock)) : Serving :=
  Transition.run Serving.step (.idle worker)
    (.request request :: works.map fun work => .work work.1 work.2)

/-- `handle_authenticated`: what it puts on write channels. The replies are sent one after the other
until there is no room, what announces the effects of the request is put on the channels of
others. -/
def handleAuthenticated (float : F64 → String) (worker : Worker) (met : Surroundings)
    (envelope : Envelope) : List Envelope :=
  match handling met envelope with
  | .drop => []
  | .refuse => [unsupportedEnvelope envelope].take met.room
  | .ask request =>
    let served := worker.serve request met.works
    served.sent.map Prod.snd ++
      (replies float envelope (if met.answers then served.reply else none)).take met.room

/-! ## What the codec encodes -/

/-- The default codec encodes the envelope. -/
def Passes (envelope : Envelope) : Prop :=
  ({} : CodecLimits).validateOutbound envelope = .ok ()

section Passes

variable {envelope : Envelope} {space : SpaceKey} {epoch : SpaceEpoch} {entity : EntityId}

theorem validate_lifecycleEnvelope {payload : Protocol.ControlPayload}
    (h : PlaceNumbered space epoch entity)
    (hdelivers : payload.messageKind.delivers .reliableOrdered = true) :
    Protocol.validate (lifecycleEnvelope space epoch entity payload) = .ok () ↔
      Protocol.validateControl (lifecycleEnvelope space epoch entity payload) payload = .ok () := by
  have hids : Protocol.rejectZeroOptionalIds (lifecycleEnvelope space epoch entity payload) =
      .ok () := by
    rw [Protocol.rejectZeroOptionalIds_eq_ok]
    exact ⟨nofun, fun hzero => h.entity (Option.some.inj hzero), nofun⟩
  have hdelivery : Protocol.validateDelivery (lifecycleEnvelope space epoch entity payload) =
      .ok () := Protocol.validateDelivery_eq_ok.mpr hdelivers
  unfold Protocol.validate
  rw [hids, hdelivery]
  rfl

theorem requireSpaceScope_lifecycleEnvelope {payload : Protocol.ControlPayload}
    (h : PlaceNumbered space epoch entity) :
    Protocol.requireSpaceScope (lifecycleEnvelope space epoch entity payload) false true =
      .ok () :=
  Protocol.requireSpaceScope_eq_ok.mpr
    ⟨⟨h.namespaceId, h.session, h.space, h.epoch⟩, rfl, fun _ => h.entity⟩

theorem passes_entityEntered (h : PlaceNumbered space epoch entity) :
    Passes (entityEnteredEnvelope space epoch entity) := by
  refine CodecLimits.validateOutbound_eq_ok.mpr ⟨rfl, nofun, ?_, Nat.zero_le _⟩
  refine (validate_lifecycleEnvelope h rfl).mpr ?_
  unfold Protocol.validateControl
  dsimp only
  rw [requireSpaceScope_lifecycleEnvelope h]
  exact Protocol.rejectZeroOption_eq_ok.mpr fun hzero => h.entity (Option.some.inj hzero)

theorem passes_entityLeft {reason : EntityLeaveReason} (h : PlaceNumbered space epoch entity)
    (hreason : reason ≠ .unknown) : Passes (entityLeftEnvelope space epoch entity reason) := by
  refine CodecLimits.validateOutbound_eq_ok.mpr ⟨rfl, nofun, ?_, Nat.zero_le _⟩
  refine (validate_lifecycleEnvelope h rfl).mpr ?_
  unfold Protocol.validateControl
  dsimp only
  rw [requireSpaceScope_lifecycleEnvelope h]
  exact if_neg hreason

theorem passes_errorEnvelope {related : MessageKind} {code : ProtocolErrorCode} {text : String}
    (hcode : code ≠ .unknown) (hlen : text.utf8ByteSize ≤ 256 * 1024) :
    Passes (errorEnvelope related code text) := by
  refine CodecLimits.validateOutbound_eq_ok.mpr ⟨rfl, nofun, ?_, hlen⟩
  unfold errorEnvelope
  generalize hkind : (if related = .unknown then MessageKind.protocolError else related) = kind
  have hknown : kind ≠ .unknown := by
    rw [← hkind]
    split
    · exact nofun
    · assumption
  simp [Protocol.validate, Envelope.control, Envelope.messageKind,
    Protocol.MessagePayload.messageKind, Protocol.ControlPayload.messageKind,
    MessageKind.delivers, Protocol.validateControl, Protocol.validateProtocolError,
    Protocol.validateOptionalScope, hcode, hknown]

theorem coreErrorCode_ne_unknown (error : CoreError) : coreErrorCode error ≠ .unknown := by
  cases error <;> exact nofun

theorem TransportError.code_ne_unknown (error : TransportError) : error.code ≠ .unknown := by
  cases error with
  | core error => exact coreErrorCode_ne_unknown error
  | _ => exact nofun

theorem TransportError.size_text_le (error : TransportError) :
    error.text.utf8ByteSize ≤ 256 * 1024 := by
  cases error with
  | workerUnavailable => decide
  | unknownConnection => decide
  | core error =>
    have hdebug := error.size_debug_le
    rw [text, String.utf8ByteSize_append]
    have hprefixed : "core error: ".utf8ByteSize = 12 := by decide
    omega

/-- What a decoded envelope has passed. -/
theorem valid_of_decode {library : Protocol.FlatBuffers} {limits : CodecLimits}
    {frame : List UInt8} (h : library.decode limits frame = .ok envelope) :
    envelope.protocolVersion = Protocol.protocolVersion ∧
      Protocol.validate envelope = .ok () := by
  obtain ⟨wire, -, hdecoded⟩ := Protocol.FlatBuffers.decode_eq_ok h
  have haccepts := CodecLimits.accepts_of_decodeVerified hdecoded
  exact ⟨haccepts.version, haccepts.meaning⟩

theorem length_utf8 (text : String) : text.toUTF8.data.toList.length = text.utf8ByteSize := rfl

theorem passes_snapshotEnvelope {float : F64 → String} {snapshot : SessionSnapshot}
    {afterServerTick : Option Nat} (hversion : envelope.protocolVersion = Protocol.protocolVersion)
    (hvalid : Protocol.validate envelope = .ok ())
    (hmessage : envelope.message = .control (.snapshotRequest afterServerTick)) :
    Passes (snapshotEnvelope float envelope snapshot) ↔ snapshot.textSize float ≤ 256 * 1024 := by
  have hcontrol := Protocol.validateControl_of_validate hvalid hmessage
  simp only [Protocol.validateControl, Except.bind_eq_ok, Protocol.requireSpaceScope_eq_ok]
    at hcontrol
  obtain ⟨-, ⟨hscope, hchannel, -⟩, -⟩ := hcontrol
  have hnonzero := Protocol.ids_of_validate hvalid
  have hdelivers := Protocol.delivers_of_validate hvalid
  rw [Envelope.messageKind, hmessage] at hdelivers
  have hreliable : envelope.deliveryClass = .reliableOrdered := beq_iff_eq.mp hdelivers
  have hmeaning : Protocol.validate (snapshotEnvelope float envelope snapshot) = .ok () := by
    have hids : Protocol.rejectZeroOptionalIds (snapshotEnvelope float envelope snapshot) =
        .ok () := Protocol.rejectZeroOptionalIds_eq_ok.mpr hnonzero
    have hdelivery : Protocol.validateDelivery (snapshotEnvelope float envelope snapshot) =
        .ok () := Protocol.validateDelivery_eq_ok.mpr (beq_iff_eq.mpr hreliable)
    have hscoped : Protocol.requireSpaceScope (snapshotEnvelope float envelope snapshot) true
        false = .ok () :=
      Protocol.requireSpaceScope_eq_ok.mpr ⟨⟨hscope.namespaceId, hscope.sessionId,
        hscope.spaceId, hscope.spaceEpoch⟩, hchannel, fun h => absurd h Bool.false_ne_true⟩
    unfold Protocol.validate
    rw [hids, hdelivery]
    show (Protocol.requireSpaceScope _ true false >>= fun _ => _) = _
    rw [hscoped]
    rfl
  have hlength : (snapshotEnvelope float envelope snapshot).message.variableLen =
      snapshot.textSize float := (length_utf8 _).trans (snapshot.size_debug float)
  unfold Passes
  rw [CodecLimits.validateOutbound_eq_ok, hlength]
  refine ⟨fun h => h.2.2.2, fun hlen => ⟨hversion, ?_, hmeaning, hlen⟩⟩
  intro hnone
  rw [show (snapshotEnvelope float envelope snapshot).deliveryClass = _ from hreliable] at hnone
  cases hnone

theorem passes_acceptedEnvelope (hversion : envelope.protocolVersion = Protocol.protocolVersion)
    (hvalid : Protocol.validate envelope = .ok ())
    (hmessage : envelope.message = .control .subscribeSpace) :
    Passes (acceptedEnvelope envelope) := by
  have hcontrol := Protocol.validateControl_of_validate hvalid hmessage
  obtain ⟨hscope, hchannel, -⟩ := Protocol.requireSpaceScope_eq_ok.mp hcontrol
  have hnonzero := Protocol.ids_of_validate hvalid
  refine CodecLimits.validateOutbound_eq_ok.mpr ⟨hversion, nofun, ?_, Nat.zero_le _⟩
  have hids : Protocol.rejectZeroOptionalIds (acceptedEnvelope envelope) = .ok () :=
    Protocol.rejectZeroOptionalIds_eq_ok.mpr hnonzero
  have hdelivery : Protocol.validateDelivery (acceptedEnvelope envelope) = .ok () := rfl
  have hscoped : Protocol.requireSpaceScope (acceptedEnvelope envelope) true false = .ok () :=
    Protocol.requireSpaceScope_eq_ok.mpr ⟨⟨hscope.namespaceId, hscope.sessionId, hscope.spaceId,
      hscope.spaceEpoch⟩, hchannel, nofun⟩
  unfold Protocol.validate
  rw [hids, hdelivery]
  show Protocol.validateControl (acceptedEnvelope envelope)
    (.subscriptionAccepted envelope.spaceId envelope.spaceEpoch) = .ok ()
  unfold Protocol.validateControl
  dsimp only
  rw [hscoped]
  simp [hscope.spaceId, hscope.spaceEpoch, acceptedEnvelope]

end Passes

/-! ## What is announced -/

/-- A call of a fan-out to a space, with an envelope that can be encoded. -/
def Task.Announces : Task → Prop
  | .distribute _ envelope _ => Passes envelope
  | .deliver _ _ => False
  | .cleanup _ => True

theorem announces_distributeRemoved {core : WovenCore} (h : Reachable core)
    {summary : CleanupSummary} {reason : EntityLeaveReason} (hreason : reason ≠ .unknown)
    (hfrom : ∀ entry ∈ summary.removedEntities, entry.From core) :
    ∀ task ∈ distributeRemovedEntities summary reason, task.Announces := by
  intro task htask
  obtain ⟨entry, hentry, rfl⟩ := List.mem_map.mp htask
  exact passes_entityLeft ((hfrom entry hentry).numbered h) hreason

namespace Serving

variable {state : Serving} {reply : Option WorkerReply}

/-- A request on its way through its fan-out: the answer is there, and whatever has been sent and is
to be sent can be encoded. -/
structure Passing (state : Serving) (reply : Option WorkerReply) : Prop where
  core : Reachable state.worker.core
  answer : state.reply = reply
  tasks : ∀ task ∈ state.tasks, task.Announces
  sent : ∀ entry ∈ state.sent, Passes entry.2

theorem announces_cleanup (h : Reachable state.worker.core) {rest : List Task}
    (hrest : ∀ task ∈ rest, task.Announces) (connection : ConnectionId) (clock : ReleaseClock) :
    ∀ task ∈ (state.cleanupDeadConnection connection clock rest).tasks, task.Announces := by
  have hdrained := Command.reachable_handle h (.drainOutbound connection)
  have hfrom := @transportLost_from _ connection clock hdrained.sound.consistent
  unfold cleanupDeadConnection
  dsimp only
  split
  · rename_i summary core' hresult
    obtain ⟨lost, hlost, heq⟩ := returns_map.mp hresult
    cases heq
    have hreason : EntityLeaveReason.disconnected ≠ .unknown := nofun
    intro task htask
    rcases List.mem_append.mp htask with htask | htask
    · exact announces_distributeRemoved hdrained hreason (hfrom.returns hlost) task htask
    · exact hrest task htask
  · exact hrest
  · exact hrest

theorem Passing.work (h : state.Passing reply) (accepts : ConnectionId → Bool)
    (clock : ReleaseClock) : (state.work accepts clock).Passing reply := by
  have hcore : Reachable (state.work accepts clock).worker.core :=
    reachable_step h.core (.work accepts clock)
  have htasks := h.tasks
  unfold Serving.work at hcore ⊢
  cases hcalls : state.tasks with
  | nil => exact h
  | cons call rest =>
    rw [hcalls] at hcore htasks
    have hrest : ∀ task ∈ rest, task.Announces := fun task hin =>
      htasks task (List.mem_cons_of_mem _ hin)
    cases call with
    | distribute space envelope excluded =>
      refine ⟨hcore, h.answer, ?_, ?_⟩
      · intro task htask
        rcases List.mem_append.mp htask with htask | htask
        · obtain ⟨_, -, rfl⟩ := List.mem_map.mp htask
          trivial
        · exact hrest task htask
      · intro entry hentry
        rcases List.mem_append.mp hentry with hentry | hentry
        · exact h.sent entry hentry
        · obtain ⟨_, -, rfl⟩ := List.mem_map.mp hentry
          exact htasks _ List.mem_cons_self
    | deliver connection envelope => exact (htasks _ List.mem_cons_self).elim
    | cleanup connection =>
      refine ⟨hcore, ?_, announces_cleanup h.core hrest connection clock, ?_⟩
      · rw [← h.answer]
        unfold cleanupDeadConnection
        dsimp only
        split <;> rfl
      · intro entry hentry
        apply h.sent
        revert hentry
        unfold cleanupDeadConnection
        dsimp only
        split <;> exact id

theorem Passing.run (h : state.Passing reply)
    (works : List ((ConnectionId → Bool) × ReleaseClock)) :
    (Transition.run step state (works.map fun work => .work work.1 work.2)).Passing reply := by
  induction works generalizing state with
  | nil => exact h
  | cons work rest ih =>
    have hworked := h.work work.1 work.2
    exact ih ⟨hworked.core, hworked.answer, hworked.tasks, hworked.sent⟩

end Serving

/-! ## What is asked -/

namespace Worker

variable {worker : Worker} {connection : ConnectionId} {key : SessionKey} {space : SpaceKey}
  {epoch : SpaceEpoch} {entity : EntityId}

/-- What does not bear on the registry announces nothing. -/
theorem announces_plainCommand {command : Command} (h : lifecycleAction command = .none) :
    ∀ task ∈ (worker.handle (.command command)).2.1, task.Announces := by
  unfold handle
  intro task htask
  cases hresult : command.handle worker.core with
  | ok result core =>
    simp only [hresult, h] at htask
    cases htask
  | error error core =>
    simp only [hresult] at htask
    cases htask

theorem announces_leaveSession (h : Reachable worker.core) {now : Instant} :
    ∀ task ∈ (worker.handle (.command (.leaveSession connection key now))).2.1,
      task.Announces := by
  have hreason : EntityLeaveReason.removed ≠ .unknown := nofun
  apply handle_of_ends (P := fun answer => ∀ task ∈ answer.2.1, task.Announces) rfl
    leaveSession_ends
  · rintro summary core' ⟨hallowed, -, rfl⟩
    exact announces_distributeRemoved h hreason (from_leave h.sound.consistent hallowed.member)
  · intro error core' _ task htask
    cases htask

theorem announces_unsubscribe :
    ∀ task ∈ (worker.handle (.command (.unsubscribe connection space))).2.1,
      task.Announces := by
  apply handle_of_ends (P := fun answer => ∀ task ∈ answer.2.1, task.Announces) rfl
    unsubscribe_ends
  · intro summary core' hsummary task htask
    have hnone : distributeRemovedEntities summary .removed = [] := by
      rw [distributeRemovedEntities, hsummary.1, List.map_nil]
    have hin : task ∈ distributeRemovedEntities summary .removed := htask
    rw [hnone] at hin
    cases hin
  · intro error core' _ task htask
    cases htask

theorem announces_transitionEntity {request : EntityTransitionRequest}
    (hsource : PlaceNumbered ⟨request.session, request.sourceSpace⟩ request.sourceEpoch
      request.entity)
    (hdestination : PlaceNumbered ⟨request.session, request.destinationSpace⟩
      request.destinationEpoch request.entity) :
    ∀ task ∈ (worker.handle (.command (.transitionEntity request))).2.1, task.Announces := by
  intro task htask
  rcases tasks_transitionEntity with hnone | htasks
  · rw [hnone] at htask
    cases htask
  · rw [htasks] at htask
    rcases List.mem_cons.mp htask with rfl | htask
    · exact passes_entityLeft hsource nofun
    · obtain rfl := List.mem_singleton.mp htask
      exact passes_entityEntered hdestination

theorem announces_publish {request : PublishRequest} {now : Instant} {call : Nat}
    {clock : ReleaseClock} :
    ∀ task ∈ (worker.handle (.command (.publish request now call clock))).2.1,
      task.Announces := by
  rw [tasks_publish]
  exact fun _ hin => absurd hin List.not_mem_nil

/-- The entity that is spawned, and the place it is spawned in. -/
theorem announces_subscribeAndSpawn (h : Reachable worker.core) :
    (∀ task ∈ (worker.handle (.subscribeAndSpawn connection space epoch)).2.1, task.Announces) ∧
      ∀ entity, spawned (worker.handle (.subscribeAndSpawn connection space epoch)).2.2 =
        .ok entity → PlaceNumbered space epoch entity := by
  apply handle_subscribeAndSpawn (P := fun answer => (∀ task ∈ answer.2.1, task.Announces) ∧
    ∀ entity, spawned answer.2.2 = .ok entity → PlaceNumbered space epoch entity) h
  · exact fun _ _ => ⟨fun _ hin => absurd hin List.not_mem_nil, nofun⟩
  · exact fun _ _ _ _ _ _ => ⟨fun _ hin => absurd hin List.not_mem_nil, nofun⟩
  · intro core' core'' principal hreachable _ _ _ hallowed _
    have hnumbered : PlaceNumbered space epoch ⟨core'.nextEntityId⟩ :=
      hreachable.place_numbered (Nat.ne_of_gt hreachable.sound.consistent.nextEntity)
        hallowed.installed
    constructor
    · intro task htask
      obtain rfl := List.mem_singleton.mp htask
      exact passes_entityEntered hnumbered
    · intro entity hentity
      obtain rfl := Except.ok.inj hentity
      exact hnumbered

/-- Whom the worker shows what. -/
theorem executed_snapshot {shown : SessionSnapshot} :
    executed (worker.handle (.command (.snapshot connection key))).2.2 = .ok (.snapshot shown) ↔
      Signalweave.snapshot worker.core connection key = .ok shown := by
  have hends : Ends (Command.snapshot connection key).handle worker.core
      (fun result _ => ∃ other, Signalweave.snapshot worker.core connection key = .ok other ∧
        result = .snapshot other)
      fun error _ => Signalweave.snapshot worker.core connection key = .error error := by
    simp [Command.handle]
  unfold handle
  rcases returns_or_fails (Command.snapshot connection key).handle worker.core with
    ⟨result, hreturns⟩ | ⟨error, hfails⟩
  · obtain ⟨other, hother, rfl⟩ := hends.returns hreturns
    have hresult : (Command.snapshot connection key).handle worker.core = .ok _ _ := hreturns
    simp only [hresult]
    rw [hother]
    show (Except.ok (.snapshot other) : Except TransportError CommandResult) =
      .ok (.snapshot shown) ↔ _
    constructor
    · intro h
      cases h
      rfl
    · intro h
      cases h
      rfl
  · have hresult : (Command.snapshot connection key).handle worker.core = .error _ _ := hfails
    simp only [hresult]
    rw [hends.fails hfails]
    constructor
    · intro h
      cases h
    · intro h
      cases h

end Worker

section Asked

variable {worker : Worker} {met : Surroundings} {envelope : Envelope} {request : WorkerRequest}

/-- The places of a transition are those of the envelope. -/
theorem transition_numbered {fromSpaceId toSpaceId toSpaceEpoch entity : Nat}
    (hvalid : Protocol.validate envelope = .ok ())
    (hmessage : envelope.message =
      .control (.spaceTransition fromSpaceId toSpaceId toSpaceEpoch))
    (hentity : envelope.entityId = some entity) :
    PlaceNumbered ⟨envelopeSession envelope, ⟨fromSpaceId⟩⟩ ⟨envelope.spaceEpoch⟩ ⟨entity⟩ ∧
      PlaceNumbered ⟨envelopeSession envelope, ⟨toSpaceId⟩⟩ ⟨toSpaceEpoch⟩ ⟨entity⟩ := by
  have hcontrol := Protocol.validateControl_of_validate hvalid hmessage
  simp only [Protocol.validateControl, Protocol.validateTransition, Except.bind_eq_ok,
    Protocol.requireSpaceScope_eq_ok, Protocol.requireNonzero_eq_ok] at hcontrol
  obtain ⟨-, ⟨hscope, -, hgiven⟩, -, hfrom, -, hto, -, hepoch, -⟩ := hcontrol
  have hnonzero : entity ≠ 0 := by
    have hgiven := hgiven trivial
    rwa [hentity, Option.getD_some] at hgiven
  exact ⟨⟨hscope.namespaceId, hscope.sessionId, hfrom, hscope.spaceEpoch, hnonzero⟩,
    ⟨hscope.namespaceId, hscope.sessionId, hto, hepoch, hnonzero⟩⟩

/-- Whatever is asked of the worker for a valid envelope, what it announces can be encoded. -/
theorem announces_asked (h : Reachable worker.core) (hvalid : Protocol.validate envelope = .ok ())
    (hask : handling met envelope = .ask request) :
    ∀ task ∈ (worker.handle request).2.1, task.Announces := by
  unfold handling at hask
  dsimp only at hask
  cases hmessage : envelope.message with
  | control payload =>
    rw [hmessage] at hask
    cases payload with
    | snapshotRequest | joinSession =>
      obtain rfl := Handling.ask.inj hask
      exact Worker.announces_plainCommand rfl
    | subscribeSpace =>
      obtain rfl := Handling.ask.inj hask
      exact (Worker.announces_subscribeAndSpawn h).1
    | leaveSession =>
      obtain rfl := Handling.ask.inj hask
      exact Worker.announces_leaveSession h
    | unsubscribeSpace =>
      obtain rfl := Handling.ask.inj hask
      exact Worker.announces_unsubscribe
    | spaceTransition fromSpaceId toSpaceId toSpaceEpoch =>
      dsimp only at hask
      cases hentity : envelope.entityId with
      | none =>
        rw [hentity] at hask
        cases hask
      | some entity =>
        rw [hentity] at hask
        obtain rfl := Handling.ask.inj hask
        obtain ⟨hsource, hdestination⟩ := transition_numbered hvalid hmessage hentity
        exact Worker.announces_transitionEntity hsource hdestination
    | inferenceRequested | inferenceCancelled =>
      dsimp only at hask
      split at hask <;> cases hask
    | _ => cases hask
  | entityState | reliableEvent =>
    rw [hmessage] at hask
    dsimp only at hask
    split at hask
    · cases hask
    · obtain rfl := Handling.ask.inj hask
      exact Worker.announces_publish
  | snapshot =>
    rw [hmessage] at hask
    cases hask

theorem Worker.passing_serve (h : Reachable worker.core)
    (htasks : ∀ task ∈ (worker.handle request).2.1, task.Announces)
    (works : List ((ConnectionId → Bool) × ReleaseClock)) :
    (worker.serve request works).Passing (worker.handle request).2.2 := by
  have hcore := Worker.reachable_handle h request
  have hserved : ((Serving.idle worker).serve request).look.Passing
      (worker.handle request).2.2 := by
    rw [Serving.serve_eq]
    exact ⟨hcore, rfl, htasks, List.forall_mem_nil _⟩
  exact hserved.run works

end Asked

/-! ## What is replied -/

section Replied

variable {worker : Worker} {met : Surroundings} {envelope : Envelope} {float : F64 → String}
  {reply : Option WorkerReply}

theorem passes_unsupportedEnvelope : Passes (unsupportedEnvelope envelope) :=
  passes_errorEnvelope nofun (by decide)

theorem passes_error (kind : MessageKind) (error : TransportError) :
    Passes (errorEnvelope kind error.code error.text) :=
  passes_errorEnvelope error.code_ne_unknown error.size_text_le

theorem messageKind_eq_snapshotRequest : envelope.messageKind = .snapshotRequest ↔
    ∃ afterServerTick, envelope.message = .control (.snapshotRequest afterServerTick) := by
  unfold Envelope.messageKind
  constructor
  · intro h
    cases hmessage : envelope.message with
    | control payload =>
      rw [hmessage] at h
      cases payload <;> first | exact ⟨_, rfl⟩ | cases h
    | entityState | reliableEvent | snapshot =>
      rw [hmessage] at h
      cases h
  · rintro ⟨afterServerTick, hmessage⟩
    rw [hmessage]
    rfl

/-- A subscription is accepted and the entity shown, anything else is answered by an error at
most. -/
theorem passes_replies_other (hversion : envelope.protocolVersion = Protocol.protocolVersion)
    (hvalid : Protocol.validate envelope = .ok ())
    (hspawned : ∀ entity, envelope.message = .control .subscribeSpace →
      spawned reply = .ok entity →
        PlaceNumbered (envelopeSpace envelope) ⟨envelope.spaceEpoch⟩ entity)
    (hother : envelope.messageKind ≠ .snapshotRequest) :
    ∀ sent ∈ replies float envelope reply, Passes sent := by
  unfold replies
  split
  · rename_i hmessage
    exact absurd (messageKind_eq_snapshotRequest.mpr ⟨_, hmessage⟩) hother
  · rename_i hmessage
    cases hreply : spawned reply with
    | ok entity =>
      refine List.forall_mem_cons.mpr ⟨passes_acceptedEnvelope hversion hvalid hmessage, ?_⟩
      exact List.forall_mem_singleton.mpr (passes_entityEntered (hspawned entity hmessage hreply))
    | error error => exact List.forall_mem_singleton.mpr (passes_error _ error)
  · cases executed reply with
    | ok _ => exact List.forall_mem_nil _
    | error error => exact List.forall_mem_singleton.mpr (passes_error _ error)

/-- A snapshot passes if it is small enough and there is room for it. -/
theorem passes_replies_snapshot (hversion : envelope.protocolVersion = Protocol.protocolVersion)
    (hvalid : Protocol.validate envelope = .ok ())
    (hkind : envelope.messageKind = .snapshotRequest) (room : Nat) :
    (∀ sent ∈ (replies float envelope reply).take room, Passes sent) ↔
      (0 < room → ∀ shown, executed reply = .ok (.snapshot shown) →
        shown.textSize float ≤ 256 * 1024) := by
  obtain ⟨afterServerTick, hmessage⟩ := messageKind_eq_snapshotRequest.mp hkind
  unfold replies
  simp only [hmessage]
  cases room with
  | zero => simp
  | succ room =>
    cases hreply : executed reply with
    | error error =>
      have hpasses : Passes (errorEnvelope .snapshotRequest .internal error.text) :=
        passes_errorEnvelope nofun error.size_text_le
      simp [hpasses]
    | ok result =>
      cases result with
      | snapshot shown => simp [passes_snapshotEnvelope hversion hvalid hmessage]
      | _ => simp

/-- A request for a snapshot is asked of the worker. -/
theorem handling_snapshotRequest (h : envelope.messageKind = .snapshotRequest) :
    handling met envelope =
      .ask (.command (.snapshot met.connection (envelopeSession envelope))) := by
  obtain ⟨afterServerTick, hmessage⟩ := messageKind_eq_snapshotRequest.mp h
  unfold handling
  simp only [hmessage]

theorem handling_subscribeSpace (h : envelope.message = .control .subscribeSpace) :
    handling met envelope = .ask (.subscribeAndSpawn met.connection (envelopeSpace envelope)
      ⟨envelope.spaceEpoch⟩) := by
  unfold handling
  simp only [h]

/-- The text of the snapshot that the connection may be shown of a session fits into a payload. -/
def SnapshotFits (float : F64 → String) (core : WovenCore) (connection : ConnectionId)
    (key : SessionKey) : Prop :=
  ∀ principal, SnapshotAllowed core connection key principal →
    (takeSnapshot key principal (core.connectionAt connection).subscriptions
      (core.sessionAt key)).textSize float ≤ 256 * 1024

/-- The replies to what has been asked. -/
theorem passes_asked {request : WorkerRequest} (h : Reachable worker.core)
    (hversion : envelope.protocolVersion = Protocol.protocolVersion)
    (hvalid : Protocol.validate envelope = .ok ()) (hask : handling met envelope = .ask request) :
    (∀ sent ∈ (replies float envelope (if met.answers then (worker.handle request).2.2
        else none)).take met.room, Passes sent) ↔
      (envelope.messageKind = .snapshotRequest → met.answers = true → 0 < met.room →
        SnapshotFits float worker.core met.connection (envelopeSession envelope)) := by
  by_cases hkind : envelope.messageKind = .snapshotRequest
  · rw [handling_snapshotRequest hkind] at hask
    obtain rfl := Handling.ask.inj hask
    rw [passes_replies_snapshot hversion hvalid hkind]
    by_cases hanswers : met.answers = true
    · simp only [hanswers, if_true, Worker.executed_snapshot, snapshot_eq_ok_iff, hkind,
        true_imp_iff]
      apply imp_congr_right
      intro _
      constructor
      · intro hshown principal hallowed
        exact hshown _ ⟨principal, hallowed, rfl⟩
      · rintro hfits shown ⟨principal, hallowed, rfl⟩
        exact hfits principal hallowed
    · refine iff_of_true ?_ fun _ hanswered => absurd hanswered hanswers
      rw [if_neg hanswers]
      intro _ shown hshown
      cases hshown
  · refine iff_of_true ?_ fun hsnapshot => absurd hsnapshot hkind
    intro sent hsent
    refine passes_replies_other hversion hvalid ?_ hkind sent (List.mem_of_mem_take hsent)
    intro entity hmessage hspawned
    rw [handling_subscribeSpace hmessage] at hask
    obtain rfl := Handling.ask.inj hask
    split at hspawned
    · exact (Worker.announces_subscribeAndSpawn h).2 entity hspawned
    · cases hspawned

/-- What is put on write channels for a valid envelope. -/
theorem passes_handleAuthenticated (h : Reachable worker.core)
    (hversion : envelope.protocolVersion = Protocol.protocolVersion)
    (hvalid : Protocol.validate envelope = .ok ()) :
    (∀ placed ∈ handleAuthenticated float worker met envelope, Passes placed) ↔
      (envelope.messageKind = .snapshotRequest → met.answers = true → 0 < met.room →
        SnapshotFits float worker.core met.connection (envelopeSession envelope)) := by
  have hasked : ∀ {handled}, handling met envelope = handled → handled ≠ .ask
      (.command (.snapshot met.connection (envelopeSession envelope))) →
      envelope.messageKind ≠ .snapshotRequest := by
    rintro handled hhandled hne hkind
    exact hne (hhandled.symm.trans (handling_snapshotRequest hkind))
  unfold handleAuthenticated
  cases hask : handling met envelope with
  | drop =>
    have hkind := hasked hask nofun
    exact iff_of_true (List.forall_mem_nil _) fun hsnapshot => absurd hsnapshot hkind
  | refuse =>
    have hkind := hasked hask nofun
    refine iff_of_true ?_ fun hsnapshot => absurd hsnapshot hkind
    intro placed hplaced
    obtain rfl := List.mem_singleton.mp (List.mem_of_mem_take hplaced)
    exact passes_unsupportedEnvelope
  | ask request =>
    have hpassing := Worker.passing_serve h (announces_asked h hvalid hask) met.works
    have hsent : ∀ placed ∈ (worker.serve request met.works).sent.map Prod.snd, Passes placed := by
      intro placed hplaced
      obtain ⟨entry, hentry, rfl⟩ := List.mem_map.mp hplaced
      exact hpassing.sent entry hentry
    dsimp only
    rw [List.forall_mem_append, hpassing.answer]
    exact (and_iff_right hsent).trans (passes_asked h hversion hvalid hask)

end Replied

end Transport

open Transport

namespace Sample

open Protocol (Envelope)

/-- The first connection asks for a snapshot of its session. -/
def snapshotRequested : Envelope :=
  { protocolVersion := 1, deliveryClass := .reliableOrdered, namespaceId := 1, sessionId := 1
    spaceId := 1, channelId := some 1, spaceEpoch := 1,
    message := .control (.snapshotRequest none) }

/-- Its frame. -/
def snapshotRequestedFrame : List UInt8 :=
  [124, 0, 0, 0, 48, 0, 0, 0, 87, 86, 78, 49, 0, 0, 0, 0, 36, 0, 58, 0, 0, 0, 5, 0, 6, 0, 12, 0, 20,
    0, 28, 0, 0, 0, 36, 0, 0, 0, 0, 0, 0, 0, 0, 0, 0, 0, 7, 0, 8, 0, 44, 0, 36, 0, 0, 0, 0, 15, 1,
    13, 56, 0, 0, 0, 1, 0, 0, 0, 0, 0, 0, 0, 1, 0, 0, 0, 0, 0, 0, 0, 1, 0, 0, 0, 0, 0, 0, 0, 1, 0,
    0, 0, 0, 0, 0, 0, 1, 0, 0, 0, 0, 0, 0, 0, 0, 0, 0, 0, 0, 0, 6, 0, 12, 0, 4, 0, 6, 0, 0, 0, 1, 0,
    0, 0, 0, 0, 0, 0]

/-- A library that reads the frame of the snapshot request. -/
noncomputable def snapshotLibrary : Protocol.FlatBuffers :=
  Protocol.Sample.library (Protocol.encodeEnvelope snapshotRequested) snapshotRequestedFrame

theorem snapshotLibrary_sound : snapshotLibrary.Sound :=
  Protocol.Sample.sound_library (by decide +kernel) (by decide +kernel) (by decide +kernel)
    (by decide +kernel)

theorem snapshotRequested_decoded :
    snapshotLibrary.decode {} snapshotRequestedFrame = .ok snapshotRequested :=
  Protocol.Sample.decode_library (by decide +kernel) (by decide +kernel) (by decide +kernel)

/-- Its request meets a worker that answers, and room for one envelope. -/
def alone : Surroundings :=
  { connection := ⟨1⟩, sink := false, now := 0, call := 0, clock, works := [], answers := true
    room := 1 }

/-- All numbers are written as one. -/
def one : F64 → String := fun _ => "1.0"

end Sample

/-- All that is put on write channels for an envelope that has been decoded can be encoded, but for
a snapshot that is too long. -/
theorem placed_encodable_iff {library : Protocol.FlatBuffers} {limits : Protocol.CodecLimits}
    {frame : List UInt8} {envelope : Protocol.Envelope}
    (hdecode : library.decode limits frame = .ok envelope) {worker : Worker}
    (hcore : Reachable worker.core) (float : F64 → String) (met : Surroundings) :
    (∀ placed ∈ handleAuthenticated float worker met envelope,
        ({} : Protocol.CodecLimits).validateOutbound placed = .ok ()) ↔
      (envelope.messageKind = .snapshotRequest → met.answers = true → 0 < met.room →
        SnapshotFits float worker.core met.connection (envelopeSession envelope)) := by
  obtain ⟨hversion, hvalid⟩ := valid_of_decode hdecode
  exact passes_handleAuthenticated hcore hversion hvalid

/-- Nothing is stored yet, and the snapshot is short. -/
theorem placed_encodable_iff_setup :
    SnapshotFits Sample.one (Transition.run step Sample.core Sample.setup) ⟨1⟩ Sample.session ∧
      ∀ placed ∈ handleAuthenticated Sample.one
        ⟨Transition.run step Sample.core Sample.setup, ∅, ∅⟩ Sample.alone Sample.snapshotRequested,
          ({} : Protocol.CodecLimits).validateOutbound placed = .ok () := by
  have hfits : SnapshotFits Sample.one (Transition.run step Sample.core Sample.setup) ⟨1⟩
      Sample.session := by
    intro principal hallowed
    have hprincipal : (Transition.run step Sample.core Sample.setup).authenticatedPrincipal ⟨1⟩ =
        .ok { principalId := ⟨1⟩, grants := Sample.grants } := by rfl
    obtain rfl := Except.ok.inj (hallowed.authenticated.symm.trans hprincipal)
    decide +kernel
  exact ⟨hfits, (placed_encodable_iff Sample.snapshotRequested_decoded
    (Sample.reachable Sample.setup) Sample.one Sample.alone).mpr fun _ _ _ => hfits⟩

namespace Sample

/-- A channel on which the last values are kept. -/
def stateChannel : ChannelDefinition := .relayOwned ⟨1⟩ .latestValue .stateful 65536

/-- The first connection publishes four thousand bytes of state for its entity. -/
def storing (component : Nat) : PublishRequest :=
  { connection := ⟨1⟩, session, space := ⟨1⟩, spaceEpoch := ⟨1⟩, entity := some ⟨1⟩,
    channel := ⟨1⟩, sequence := 1, delivery := .latestValue, persistence := .stateful,
    coalesceKey := some ⟨⟨1⟩, some ⟨1⟩, component⟩, payload := List.replicate 4000 0 }

/-- So many values of the entity. -/
def stored (values : Nat) : List Op :=
  setup ++ [.registerChannel stateChannel, .spawnEntity ⟨1⟩ (spaceKey 1) ⟨1⟩] ++
    (List.range values).map fun i => .publishAt (storing (i + 1)) 0 0 clock

/-- A core with so many stored values that a snapshot is longer than a frame may be. -/
def full : WovenCore := Transition.run step core (stored 22)

theorem full_config : full.config = {} := by
  decide +kernel

theorem full_shown : 88000 ≤ (snapshot full ⟨1⟩ session).toOption.elim 0
    fun shown => (shown.state.map fun state => state.payload.length).sum := by
  decide +kernel

/-- A snapshot of them has eighty eight thousand bytes of state. -/
theorem exists_full : ∃ core, Reachable core ∧ core.config = {} ∧ ∃ shown,
    snapshot core ⟨1⟩ session = .ok shown ∧
      88000 ≤ (shown.state.map fun state => state.payload.length).sum := by
  have hbytes := full_shown
  cases hshown : snapshot full ⟨1⟩ session with
  | error error =>
    rw [hshown] at hbytes
    cases hbytes
  | ok shown =>
    rw [hshown] at hbytes
    exact ⟨full, reachable _, full_config, shown, hshown, hbytes⟩

end Sample

/-- The text of a snapshot has three bytes for each byte of state. -/
theorem placed_not_encodable : ¬ ∀ (library : Protocol.FlatBuffers)
    (limits : Protocol.CodecLimits) (frame : List UInt8) (envelope : Protocol.Envelope)
    (worker : Worker) (float : F64 → String) (met : Surroundings), library.Sound →
      library.decode limits frame = .ok envelope → Reachable worker.core →
        worker.core.config = {} → ∀ placed ∈ handleAuthenticated float worker met envelope,
          ({} : Protocol.CodecLimits).validateOutbound placed = .ok () := by
  intro h
  obtain ⟨core, hreachable, hconfig, shown, hshown, hbytes⟩ := Sample.exists_full
  have hall := h Sample.snapshotLibrary {} _ _ ⟨core, ∅, ∅⟩ Sample.one Sample.alone
    Sample.snapshotLibrary_sound Sample.snapshotRequested_decoded hreachable hconfig
  have hvalid : Protocol.validate Sample.snapshotRequested = .ok () := by decide
  have hiff : (∀ placed ∈ handleAuthenticated Sample.one ⟨core, ∅, ∅⟩ Sample.alone
      Sample.snapshotRequested, Passes placed) ↔ (Sample.snapshotRequested.messageKind =
        .snapshotRequest → Sample.alone.answers = true → 0 < Sample.alone.room →
          SnapshotFits Sample.one core ⟨1⟩ Sample.session) :=
    passes_handleAuthenticated hreachable rfl hvalid
  have hfits := hiff.mp hall rfl rfl Nat.one_pos
  obtain ⟨principal, hallowed, htaken⟩ := snapshot_eq_ok_iff.mp hshown
  have hsize : 3 * (shown.state.map fun state => state.payload.length).sum ≤ 256 * 1024 := by
    rw [htaken]
    exact (SessionSnapshot.le_textSize Sample.one _).trans (hfits principal hallowed)
  exact absurd ((Nat.mul_le_mul_left 3 hbytes).trans hsize) (by decide)

end Signalweave
