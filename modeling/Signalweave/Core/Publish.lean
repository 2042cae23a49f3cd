import Signalweave.Core.Routing

/-!
# Publishing (`publish_at`, `core.rs`)

The checks and the plan of a publication read the state only; what follows writes the journal,
the session and the queues of the recipients, and disconnects the slow ones.
-/

open Std

namespace Signalweave

/-- The last sequence stored or planned for a key: the larger one where there are two. -/
def lastSequence (stored planned : Option Nat) : Option Nat :=
  (stored.toList ++ planned.toList).max?

namespace WovenCore

/-- The part of `validate_message` that looks the entity up. -/
def checkMessageEntity (session : SessionState) (message : AuthorizedMessage) :
    Except CoreError Unit :=
  match message.entity with
  | none => .ok ()
  | some id => do
    let entity ← (session.entities[id]?).okOr (.entityNotFound id)
    if entity.space ≠ message.space ∨ entity.spaceEpoch ≠ message.spaceEpoch then
      throw (.entitySpaceMismatch id)

/-- The part of `validate_message` that compares sequence numbers. -/
def checkSequence (session : SessionState) (connection : ConnectionId)
    (message : AuthorizedMessage) (planned : ExtTreeMap SequenceKey Nat) :
    Except CoreError Unit :=
  let key := sequenceKey connection message
  match lastSequence (session.sequences[key]?) (planned[key]?) with
  | some last =>
    if message.sequence ≤ last then .error (.staleSequence message.sequence last) else .ok ()
  | none => .ok ()

/-- `validate_message`. Where the source passes no plan, the plan is empty. -/
def validateMessage (core : WovenCore) (connection : ConnectionId) (key : SessionKey)
    (message : AuthorizedMessage) (planned : ExtTreeMap SequenceKey Nat) :
    Except CoreError Unit := do
  validateAuthorizedMessageIds message
  let channel ← (core.channels[message.channel]?).okOr (.unknownChannel message.channel)
  validateChannelPolicy channel message.delivery message.persistence
  let payloadLimit := min core.config.maxPayloadBytes channel.maxPayloadBytes
  if payloadLimit < message.payload.length then
    throw (.payloadTooLarge message.payload.length payloadLimit)
  validateCoalesceKey message
  let session ← (core.sessions[key]?).okOr (.sessionNotFound key)
  let descriptor ← (session.spaces[message.space]?).okOr (.spaceNotFound ⟨key, message.space⟩)
  if descriptor.epoch ≠ message.spaceEpoch then
    throw (.spaceEpochMismatch descriptor.epoch message.spaceEpoch)
  checkMessageEntity session message
  checkSequence session connection message planned

/-- `validate_sequence_capacity`: there is room for the sequence keys that are new. -/
def validateSequenceCapacity (core : WovenCore) (key : SessionKey)
    (planned : ExtTreeMap SequenceKey Nat) : Except CoreError Unit := do
  let session ← (core.sessions[key]?).okOr (.sessionNotFound key)
  let newKeys := (planned.keys.filter fun key => key ∉ session.sequences).length
  if core.config.maxSequenceKeysPerSession < session.sequences.size + newKeys then
    throw .sequenceKeyLimitReached

/-- The running totals of `validate_state_capacity`. -/
structure StateProjection where
  entries : Nat
  bytes : Nat
  projected : ExtTreeMap StateKey Nat := ∅

/-- One round of the loop of `validate_state_capacity`. -/
def projectState (session : SessionState) (projection : StateProjection)
    (message : AuthorizedMessage) : StateProjection :=
  let key := stateKey message
  let previous :=
    (projection.projected[key]?).or ((session.state[key]?).map fun record => record.payload.length)
  { entries := previous.elim (projection.entries + 1) fun _ => projection.entries
    bytes := previous.elim projection.bytes (fun length => projection.bytes - length) +
      message.payload.length
    projected := projection.projected.insert key message.payload.length }

/-- `validate_state_capacity`: there is room for the values, by number and by size. -/
def validateStateCapacity (core : WovenCore) (key : SessionKey)
    (messages : List AuthorizedMessage) : Except CoreError Unit := do
  let session ← (core.sessions[key]?).okOr (.sessionNotFound key)
  let projection := (messages.filter fun message => message.persistence == .stateful).foldl
    (projectState session) { entries := session.state.size, bytes := session.stateBytes }
  if core.config.maxStateEntriesPerSession < projection.entries then
    throw .stateEntryLimitReached
  if core.config.maxStateBytesPerSession < projection.bytes then
    throw .stateByteLimitReached

end WovenCore

/-- What the checks of `publish_at` hand to its writes. -/
structure PublishPlan where
  messages : List AuthorizedMessage
  sequences : ExtTreeMap SequenceKey Nat

/-- The messages an authority's answer stands for, and what is planned before they are checked. -/
def authorizedPlan (config : CoreConfig) (connection : ConnectionId)
    (proposed : AuthorizedMessage) : AuthorityOutcome → Except CoreError PublishPlan
  | .accept => .ok { messages := [proposed], sequences := ∅ }
  | .reject reason => .error (.authorityRejected reason)
  | .transform transformed =>
    .ok {
      messages := [{ proposed with
        coalesceKey := transformed.coalesceKey
        payload := transformed.payload }]
      sequences := ∅ }
  | .emit emissions =>
    if config.maxAuthorityEmissions < emissions.length then
      .error .authorityEmissionLimitExceeded
    else
      .ok {
        messages := emissions.map AuthorizedMessage.fromEmission
        sequences := (∅ : ExtTreeMap SequenceKey Nat).insert (sequenceKey connection proposed)
          proposed.sequence }

namespace WovenCore

/-- The loop that checks the authorized messages, each against the plan of those before it. -/
def planSequences (core : WovenCore) (connection : ConnectionId) (key : SessionKey) :
    List AuthorizedMessage → ExtTreeMap SequenceKey Nat →
      Except CoreError (ExtTreeMap SequenceKey Nat)
  | [], planned => .ok planned
  | message :: rest, planned => do
    core.validateMessage connection key message planned
    planSequences core connection key rest
      (planned.insert (sequenceKey connection message) message.sequence)

/-- What the authority is told about a request. -/
def authorityContext (core : WovenCore) (request : PublishRequest)
    (principal : AuthenticatedPrincipal) : AuthorityContext :=
  { connection := request.connection
    principal := principal.principalId
    isSessionMember := true
    isSpaceSubscriber := true
    entityOwner := (request.entity.bind fun entity =>
      (core.sessions[request.session]?).bind fun session =>
        session.entities[entity]?).map EntityRecord.ownerConnection }

/-- The request as its authority is shown it. -/
def proposedMessage (request : PublishRequest) : ProposedMessage :=
  { space := request.space
    spaceEpoch := request.spaceEpoch
    entity := request.entity
    channel := request.channel
    sequence := request.sequence
    delivery := request.delivery
    persistence := request.persistence
    coalesceKey := request.coalesceKey
    payload := request.payload }

/-- The checks of `publish_at` before the authority is asked: the principal and the channel. -/
def checkPublish (core : WovenCore) (request : PublishRequest) :
    Except CoreError (AuthenticatedPrincipal × ChannelDefinition) := do
  validatePublishRequestIds request
  let principal ← core.authenticatedPrincipal request.connection
  requireNamespaceWrite principal request.session.namespaceId
  requireSessionWrite principal request.session
  requireSpaceWrite principal ⟨request.session, request.space⟩
  requireGrant (principal.grants.canWriteChannel ⟨request.session, request.channel⟩)
    (.channelWriteAccessDenied ⟨request.session, request.channel⟩)
  core.requireMembership request.connection request.session
  core.requireSubscription request.connection ⟨request.session, request.space⟩
  let channel ← (core.channels[request.channel]?).okOr (.unknownChannel request.channel)
  validateChannelPolicy channel request.delivery request.persistence
  let _ ← (core.sessions[request.session]?).okOr (.sessionNotFound request.session)
  core.validateMessage request.connection request.session (.fromRequest request) ∅
  return (principal, channel)

/-- Everything `publish_at` decides before it writes. -/
def planPublish (core : WovenCore) (request : PublishRequest) (call : Nat) :
    Except CoreError PublishPlan := do
  let (principal, channel) ← core.checkPublish request
  let authorityOutcome := channel.authority.evaluate call
    (core.authorityContext request principal) (proposedMessage request)
  let authorized ← authorizedPlan core.config request.connection (.fromRequest request)
    authorityOutcome
  let planned ← core.planSequences request.connection request.session authorized.messages
    authorized.sequences
  core.validateSequenceCapacity request.session planned
  core.validateStateCapacity request.session authorized.messages
  let durable := authorized.messages.filter fun message => message.persistence == .durable
  if core.journalOutbox.remainingCapacity < durable.length then
    throw .journalOutboxSaturated
  return { messages := authorized.messages, sequences := planned }

end WovenCore

/-- The state table of a session after one message. -/
def SessionState.storeState (session : SessionState) (message : AuthorizedMessage) :
    SessionState :=
  if message.persistence = .stateful then
    let key := stateKey message
    { session with
      state := session.state.insert key
        { sequence := message.sequence, payload := message.payload }
      stateBytes :=
        ((session.state[key]?).elim session.stateBytes fun previous =>
          session.stateBytes - previous.payload.length) + message.payload.length }
  else session

/-- What a plan does to the session: the sequences are recorded and the state is stored. -/
def SessionState.commit (session : SessionState) (plan : PublishPlan) : SessionState :=
  plan.messages.foldl storeState
    { session with
      sequences := plan.sequences.toList.foldl
        (fun sequences entry => sequences.insert entry.1 entry.2) session.sequences }

/-- What the fan-out sends for a plan. -/
def PublishPlan.outbound (plan : PublishPlan) (key : SessionKey) : List OutboundMessage :=
  plan.messages.map fun message => message.toOutbound key

/-- What the journal records of a plan. -/
def PublishPlan.journaled (plan : PublishPlan) (key : SessionKey) : List OutboundMessage :=
  (plan.outbound key).filter fun message => message.persistence == .durable

/-- The body of the journal loop. -/
def journalOne (_ : Unit) (message : OutboundMessage) : CoreM Unit := do
  let core ← get
  match core.journalOutbox.push { message } with
  | .error _ => throw CoreError.journalOutboxSaturated
  | .ok outbox => set { core with journalOutbox := outbox }

/-- `record_queue_result`. An eviction for a critical message is counted in two places. -/
def recordQueueResult (activity : QueueActivity) : QueuePush → QueueActivity
  | .queued => { activity with queued := activity.queued + 1 }
  | .queuedCriticalAfterEviction eviction =>
    let activity := { activity with
      queued := activity.queued + 1
      criticalEvictions := activity.criticalEvictions + 1 }
    match eviction with
    | .latest _ => { activity with evictedLatest := activity.evictedLatest + 1 }
    | .bestEffort => { activity with droppedBestEffort := activity.droppedBestEffort + 1 }
  | .replacedLatest => { activity with replacedLatest := activity.replacedLatest + 1 }
  | .evictedLatest _ => { activity with evictedLatest := activity.evictedLatest + 1 }
  | .evictedBestEffortForLatest | .droppedBestEffort =>
    { activity with droppedBestEffort := activity.droppedBestEffort + 1 }
  | .droppedLatest => { activity with droppedLatest := activity.droppedLatest + 1 }
  | .criticalCapacityExhausted =>
    { activity with criticalCapacityExhausted := activity.criticalCapacityExhausted + 1 }

/-- What the fan-out keeps next to the core: the outcome and the recipients found slow. -/
structure FanOut where
  outcome : PublishOutcome
  disconnected : ExtTreeSet ConnectionId := ∅

/-- Whether a message is put to a recipient at all: it is not yet found slow, it is connected and
authenticated, and its principal may read the message. -/
def FanOut.attempts (fan : FanOut) (core : WovenCore) (key : SessionKey)
    (outbound : OutboundMessage) (recipient : ConnectionId) : Option ConnectionState :=
  if recipient ∈ fan.disconnected then none
  else (core.connections[recipient]?).filter fun connection =>
    connection.authenticated.any fun principal =>
      canReceive principal key outbound.space outbound.channel

/-- The body of the fan-out loop. -/
def deliver (key : SessionKey) (outbound : OutboundMessage) (fan : FanOut)
    (recipient : ConnectionId) : CoreM FanOut := do
  let core ← get
  match fan.attempts core key outbound recipient with
  | none => return fan
  | some connection =>
    match connection.outbound.push outbound with
    | .error error => throw (CoreError.queue error)
    | .ok (result, queue) =>
      set (core.modifyConnection recipient fun connection => { connection with outbound := queue })
      return {
        outcome := { fan.outcome with
          recipientAttempts := fan.outcome.recipientAttempts + 1
          queues := recordQueueResult fan.outcome.queues result }
        disconnected :=
          if result = .criticalCapacityExhausted then fan.disconnected.insert recipient
          else fan.disconnected }

/-- The recipients of a message in the session it is published to. -/
def WovenCore.recipients (core : WovenCore) (key : SessionKey) (outbound : OutboundMessage) :
    List ConnectionId :=
  ((core.sessions[key]?).elim ∅ fun session => routingRecipients session outbound).toList

/-- The fan-out of one message. -/
def deliverAll (key : SessionKey) (fan : FanOut) (outbound : OutboundMessage) : CoreM FanOut := do
  let core ← get
  (core.recipients key outbound).foldlM (deliver key outbound) fan

/-- The loop over the connections found slow. -/
def disconnectSlow (clock : ReleaseClock) (outcome : PublishOutcome) (connection : ConnectionId) :
    CoreM PublishOutcome := do
  let core ← get
  if connection ∈ core.connections then
    let _ ← transportLost connection clock
    return { outcome with
      disconnectedSlowConsumers := outcome.disconnectedSlowConsumers ++ [connection] }
  else return outcome

/-- The rate limiter of the publishing connection, which is asked before anything else. -/
def admitPublish (connection : ConnectionId) (now : Instant) : CoreM Unit := do
  let core ← get
  let state ← (core.connections[connection]?).okOr (CoreError.unknownConnection connection)
  let limiter ← state.rateLimiter.admitAt core.config.publishRateLimit now
  set (core.modifyConnection connection fun state => { state with rateLimiter := limiter })

/-- The writes of `publish_at`. -/
def commitPublish (key : SessionKey) (plan : PublishPlan) (clock : ReleaseClock) :
    CoreM PublishOutcome := do
  (plan.journaled key).foldlM journalOne ()
  withSession key fun session => session.commit plan
  let fan ← (plan.outbound key).foldlM (deliverAll key)
    { outcome := { authorizedMessages := plan.messages.length } }
  fan.disconnected.toList.foldlM (disconnectSlow clock) fan.outcome

/-- `call` numbers the question to the authority, `clock` holds the readings of the clock that
the release of a slow consumer's lease takes. -/
def publishAt (request : PublishRequest) (now : Instant) (call : Nat) (clock : ReleaseClock) :
    CoreM PublishOutcome := do
  validateConnectionId request.connection
  admitPublish request.connection now
  let core ← get
  let plan ← core.planPublish request call
  commitPublish request.session plan clock

end Signalweave
