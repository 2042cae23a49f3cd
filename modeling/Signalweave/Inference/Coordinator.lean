import Signalweave.Core.Effects
import Signalweave.Transport.Worker

/-!
# The inference coordinator (`woven-inference-coordinator`)

The coordinator is one more user of the worker. It has an identity of its own, with an entity in
one space; it takes the inference requests that the transports pass on, has a provider answer them,
and puts what the provider proposes to do to the tools. The runs of several requests go on next to
each other, an event at a time.
-/

open Std

namespace Signalweave.Inference

open Protocol (ControlPayload Envelope ToolCallRejectionCode)
open Stateful Transport

/-! ## What a provider is asked and answers (`woven-inference-core`) -/

/-- A tool call that a provider proposes. -/
structure ToolCallProposal where
  toolId : String
  toolVersion : Nat
  arguments : List UInt8
  expectedRevision : Nat
  deriving DecidableEq

/-- What a provider reports, step by step. -/
inductive InferenceEvent where
  | progress (percent : Nat)
  | streamChunk (sequence : Nat) (chunk : List UInt8) (isFinal : Bool)
  | toolCallProposed (proposal : ToolCallProposal)
  | completed (result : List UInt8)
  | failed (reason : String)
  deriving DecidableEq

/-- Something that a provider is told along with the input. -/
structure ContextItem where
  source : String
  bytes : List UInt8
  deriving DecidableEq

/-- What a provider is asked. -/
structure InferenceRequest where
  capability : String
  principal : PrincipalId
  actingEntity : EntityId
  deadline : Instant
  context : List ContextItem
  input : List UInt8
  streaming : Bool
  deriving DecidableEq

/-- `Provider::run`, its outcome as the list of events. -/
abbrev Provider := InferenceRequest → List InferenceEvent

/-! ## Tools (`woven-inference-tools`) -/

/-- Why a tool call is rejected. -/
inductive ToolCallRejectionReason where
  | unknownTool
  | stale
  | policyDenied
  deriving DecidableEq

/-- What has become of a tool call. -/
inductive ToolCallOutcome where
  | completed (newRevision : Nat) (result : List UInt8)
  | rejected (code : ToolCallRejectionReason) (reason : String)
  deriving DecidableEq

/-- For which connection and entity a tool is called, and where. -/
structure ToolInvocationContext where
  connection : ConnectionId
  entity : EntityId
  space : SpaceKey
  spaceEpoch : SpaceEpoch

/-- The key of the registry: a tool and its version. -/
structure ToolKey where
  id : String
  version : Nat
  deriving DecidableEq

instance : Ord ToolKey := ⟨compareLex (compareOn ToolKey.id) (compareOn ToolKey.version)⟩
instance : TransOrd ToolKey := inferInstanceAs (TransCmp (compareLex _ _))
instance : LawfulEqOrd ToolKey := LawfulEqCmp.lex (by
  rintro ⟨id, version⟩ ⟨id', version'⟩ h₁ h₂
  simp_all [compareOn])

/-- `ToolHandler::invoke`. What a tool answers may depend on the state of the world, the core and
its own included, in which it is called. -/
abbrev ToolHandler (σ : Type) := ToolInvocationContext → ToolCallProposal → σ → ToolCallOutcome

/-- The tools by id and version. -/
structure ToolRegistry (σ : Type) where
  tools : ExtTreeMap ToolKey (ToolHandler σ) := ∅

namespace ToolRegistry

variable {σ : Type}

/-- `ToolRegistry::evaluate`. -/
def evaluate (registry : ToolRegistry σ) (context : ToolInvocationContext)
    (proposal : ToolCallProposal) (world : σ) : ToolCallOutcome :=
  match registry.tools[(⟨proposal.toolId, proposal.toolVersion⟩ : ToolKey)]? with
  | none => .rejected .unknownTool
    ("no tool registered for " ++ proposal.toolId ++ "@v" ++ toString proposal.toolVersion)
  | some handler => handler context proposal world

end ToolRegistry

/-- `demo::DiagnosticTool`: accepts every proposal. -/
def diagnosticTool {σ : Type} : ToolHandler σ :=
  fun _ _ _ => .completed 0 "all systems nominal".toUTF8.toList

/-! ## The coordinator -/

/-- Where the coordinator is at home. -/
structure AiIdentityConfig where
  namespaceId : NamespaceId
  session : SessionId
  space : SpaceId
  spaceEpoch : SpaceEpoch

/-- The space of the identity. -/
def AiIdentityConfig.spaceKey (identity : AiIdentityConfig) : SpaceKey :=
  ⟨⟨identity.namespaceId, identity.session⟩, identity.space⟩

/-- A coordinator whose identity has been established: the core has spawned its entity. -/
structure Coordinator (σ : Type) where
  identity : AiIdentityConfig
  aiConnection : ConnectionId
  aiEntity : EntityId
  provider : Provider
  tools : ToolRegistry σ
  queueCapacity : Nat
  established : ∃ core core', Reachable core ∧
    Returns (spawnEntity aiConnection identity.spaceKey identity.spaceEpoch) core aiEntity core'

/-- `map_rejection_code`. -/
def mapRejectionCode : ToolCallRejectionReason → ToolCallRejectionCode
  | .unknownTool => .invalidArguments
  | .stale => .stale
  | .policyDenied => .policyDenied

/-- `delivery_class_for`: progress and chunks may be lost on the way. -/
def deliveryClassFor : ControlPayload → Protocol.DeliveryClass
  | .inferenceProgress _ | .inferenceStreamChunk .. => .bestEffortEvent
  | _ => .reliableOrdered

/-- `reply_envelope`: the scope is the one that the requester has written. -/
def replyEnvelope (source : Envelope) (aiEntity : EntityId) (payload : ControlPayload) :
    Envelope where
  protocolVersion := Protocol.protocolVersion
  deliveryClass := deliveryClassFor payload
  namespaceId := source.namespaceId
  sessionId := source.sessionId
  spaceId := source.spaceId
  entityId := some aiEntity.get
  spaceEpoch := source.spaceEpoch
  correlationId := source.correlationId
  message := .control payload

/-- `DEFAULT_DEADLINE`, ten seconds. -/
def defaultDeadline : Duration := 10 * 1000000000

/-- The run of a request: who has asked, and which events are still to be handled until when. -/
structure InferenceRun where
  requester : ConnectionId
  source : Envelope
  deadline : Instant
  events : List InferenceEvent

/-- The runs that go on, each with a permit of the queue, and what the worker has been asked to
send. -/
structure Inferring where
  runs : List InferenceRun := []
  sent : List WorkerRequest := []

/-- What happens next: a transport passes on an envelope it has decoded, or a run comes to its next
event. `world` is what a tool finds that is called for it. -/
inductive InferenceInput (σ : Type) where
  | inbound (requester : ConnectionId)
    (envelope : { envelope : Envelope // ({} : Protocol.CodecLimits).Accepts envelope })
    (now : Instant)
  | advance (index : Nat) (now : Instant) (world : σ)

namespace Coordinator

variable {σ : Type} (coordinator : Coordinator σ)

/-- `send_to_connection` of a reply. -/
def reply (requester : ConnectionId) (source : Envelope) (payload : ControlPayload) :
    WorkerRequest :=
  .sendToConnection requester (replyEnvelope source coordinator.aiEntity payload)

/-- `broadcast_to_space` of a reply, to the space of the identity. -/
def broadcast (source : Envelope) (payload : ControlPayload) : WorkerRequest :=
  .broadcastToSpace coordinator.identity.spaceKey
    (replyEnvelope source coordinator.aiEntity payload) none

/-- What a tool of this coordinator is told. -/
def invocationContext : ToolInvocationContext where
  connection := coordinator.aiConnection
  entity := coordinator.aiEntity
  space := coordinator.identity.spaceKey
  spaceEpoch := coordinator.identity.spaceEpoch

/-- `handle_tool_call`: the proposal and its outcome are broadcast. -/
def handleToolCall (source : Envelope) (proposal : ToolCallProposal) (world : σ) :
    List WorkerRequest :=
  let proposed := coordinator.broadcast source
    (.toolCallProposed proposal.toolId proposal.toolVersion proposal.arguments
      proposal.expectedRevision)
  match coordinator.tools.evaluate coordinator.invocationContext proposal world with
  | .completed newRevision result =>
    [proposed, coordinator.broadcast source (.toolCallAccepted proposal.toolId),
      coordinator.broadcast source (.toolCallCompleted newRevision result)]
  | .rejected code reason =>
    [proposed, coordinator.broadcast source (.toolCallRejected (mapRejectionCode code) reason)]

/-- The body of the loop of `run_inference`, past its deadline check. -/
def handleEvent (run : InferenceRun) (world : σ) : InferenceEvent → List WorkerRequest
  | .progress percent => [coordinator.reply run.requester run.source (.inferenceProgress percent)]
  | .streamChunk sequence chunk isFinal =>
    [coordinator.reply run.requester run.source (.inferenceStreamChunk sequence chunk isFinal)]
  | .toolCallProposed proposal => coordinator.handleToolCall run.source proposal world
  | .completed result => [coordinator.reply run.requester run.source (.inferenceCompleted result)]
  | .failed reason => [coordinator.reply run.requester run.source (.inferenceFailed reason)]

/-- `run_inference` up to its loop. -/
def startInference (requester : ConnectionId) (source : Envelope) (capability : String)
    (deadlineMs : Nat) (input : List UInt8) (now : Instant) : InferenceRun :=
  let deadline := now + if deadlineMs = 0 then defaultDeadline else deadlineMs * 1000000
  let request : InferenceRequest :=
    { capability
      principal := ⟨1⟩
      actingEntity := coordinator.aiEntity
      deadline
      context := []
      input
      streaming := true }
  { requester, source, deadline, events := coordinator.provider request }

/-- `accept_or_reject`, for what is not an inference request the match of `run_loop`. -/
def acceptOrReject (state : Inferring) (requester : ConnectionId) (envelope : Envelope)
    (now : Instant) : Inferring :=
  match envelope.message with
  | .control (.inferenceRequested capability deadlineMs input) =>
    if state.runs.length < max coordinator.queueCapacity 1 then
      { runs := state.runs ++
          [coordinator.startInference requester envelope capability deadlineMs input now]
        sent := state.sent ++ [coordinator.reply requester envelope (.inferenceAccepted 0)] }
    else
      { state with
        sent := state.sent ++ [coordinator.reply requester envelope
          (.inferenceFailed "inference provider queue is full")] }
  | _ => state

/-- One round of the loop of `run_inference`. A run that has ended gives its permit back. -/
def advance (state : Inferring) (index : Nat) (now : Instant) (world : σ) : Inferring :=
  match state.runs[index]? with
  | none => state
  | some run =>
    match run.events with
    | [] => { state with runs := state.runs.eraseIdx index }
    | event :: rest =>
      if run.deadline < now then
        { runs := state.runs.eraseIdx index
          sent := state.sent ++ [coordinator.reply run.requester run.source
            (.inferenceExpired "deadline passed before delivery")] }
      else
        { runs := state.runs.set index { run with events := rest }
          sent := state.sent ++ coordinator.handleEvent run world event }

/-- A request comes in, or a run goes on. -/
def step (state : Inferring) : InferenceInput σ → Inferring
  | .inbound requester envelope now => coordinator.acceptOrReject state requester envelope.1 now
  | .advance index now world => coordinator.advance state index now world

/-- The entity of the identity is a real one. -/
theorem aiEntity_ne_zero : coordinator.aiEntity.get ≠ 0 := by
  obtain ⟨core, core', hreach, hreturns⟩ := coordinator.established
  obtain ⟨hentity, -⟩ := spawnEntity_spawns.returns hreturns
  rw [hentity]
  exact Nat.ne_of_gt hreach.sound.consistent.nextEntity

end Coordinator

end Signalweave.Inference
