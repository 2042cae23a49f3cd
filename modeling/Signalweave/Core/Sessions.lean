import Signalweave.Core.Removal

/-!
# Channels, sessions, connections and memberships (`core.rs`)

The operations on the core that neither touch spaces nor entities on their own: registration and
provisioning, admission, connecting, joining and leaving, subscribing, and draining a queue.
-/

open Std

namespace Signalweave

/-- `register_channel`. -/
def registerChannel (channel : ChannelDefinition) : CoreM Unit := do
  requireNonzero channel.id.get .channel
  if channel.maxPayloadBytes = 0 then
    throw (CoreError.invalidChannelLimit channel.id)
  let core ← get
  if channel.id ∈ core.channels then
    throw (CoreError.channelAlreadyRegistered channel.id)
  if core.channels.size = core.config.maxChannels then
    throw CoreError.channelLimitReached
  set { core with channels := core.channels.insert channel.id channel }

/-- `provision_session`. -/
def provisionSession (key : SessionKey) : CoreM Unit := do
  validateSessionKey key
  let core ← get
  if key ∈ core.sessions then
    throw (CoreError.sessionAlreadyProvisioned key)
  if core.sessions.size = core.config.maxSessions then
    throw CoreError.sessionLimitReached
  set { core with sessions := core.sessions.insert key {} }

/-- `configure_session_admission`. -/
def configureSessionAdmission (key : SessionKey) (metadata : AdmissionMetadata)
    (policy : QueuePolicy) (capacity : CapacityUpdate) : CoreM Unit := do
  validateSessionKey key
  let core ← get
  if key ∉ core.sessions then
    throw (CoreError.sessionNotFound key)
  if metadata.session ≠ key then
    throw (CoreError.invalidAdmissionLease key)
  if key ∈ core.admissions then
    throw (CoreError.admissionAlreadyConfigured key)
  set { core with
    admissions := core.admissions.insert key
      (AdmissionController.new metadata policy capacity { metadata }) }

/-- `apply_session_capacity_at`. -/
def applySessionCapacityAt (key : SessionKey) (update : CapacityUpdate) (now : Instant) :
    CoreM AdmissionSnapshot := do
  validateSessionKey key
  let core ← get
  let controller ← (core.admissions[key]?).okOr (CoreError.admissionLeaseRequired key)
  let (snapshot, controller) := controller.applyCapacityAt update now
  set { core with admissions := core.admissions.insert key controller }
  return snapshot

/-- `request_session_admission_at`: a lease that is granted waits for the join. -/
def requestSessionAdmissionAt (connection : ConnectionId) (key : SessionKey)
    (idempotencyKey : IdempotencyKey) (now : Instant) : CoreM JoinDecision := do
  validateConnectionId connection
  validateSessionKey key
  let core ← get
  let principal ← core.authenticatedPrincipal connection
  requireNamespaceRead principal key.namespaceId
  requireSessionRead principal key
  let controller ← (core.admissions[key]?).okOr (CoreError.admissionLeaseRequired key)
  let (decision, controller) := controller.requestJoinAt
    { principal := principal.principalId, idempotencyKey := some idempotencyKey } now
  set { core with
    admissions := core.admissions.insert key controller
    pendingAdmissions :=
      match decision with
      | .admitted lease => core.pendingAdmissions.insert (connection, key) lease
      | _ => core.pendingAdmissions }
  return decision

/-- `transport_connected`. -/
def transportConnected : CoreM ConnectionId := do
  let core ← get
  if core.connections.size = core.config.maxConnections then
    throw CoreError.connectionLimitReached
  let id : ConnectionId := ⟨core.nextConnectionId⟩
  let next ← (checkedSucc core.nextConnectionId).okOr CoreError.idExhausted
  set { core with nextConnectionId := next }
  match OutboundQueue.new core.config.outboundQueue with
  | .error error => throw (CoreError.invalidQueueConfig error)
  | .ok outbound =>
    modify fun core => { core with connections := core.connections.insert id { outbound } }
    return id

/-- `authenticate`: a connection shows one principal, once and for all. -/
def authenticate (connection : ConnectionId) (credentials : Credentials) :
    CoreM PrincipalId := do
  validateConnectionId connection
  let core ← get
  let state ← (core.connections[connection]?).okOr (CoreError.unknownConnection connection)
  if state.authenticated.isSome then
    throw CoreError.alreadyAuthenticated
  match core.authenticator.authenticate credentials with
  | .error error => throw (CoreError.authenticationFailed error)
  | .ok principal =>
    requireNonzero principal.principalId.get .principal
    withConnection connection fun state => { state with authenticated := some principal }
    return principal.principalId

/-- `join_session_unchecked_admission`. -/
def joinSessionUncheckedAdmission (connection : ConnectionId) (key : SessionKey) :
    CoreM Unit := do
  validateConnectionId connection
  validateSessionKey key
  let core ← get
  let principal ← core.authenticatedPrincipal connection
  requireNamespaceRead principal key.namespaceId
  requireSessionRead principal key
  if key ∉ core.sessions then
    throw (CoreError.sessionNotFound key)
  let state ← (core.connections[connection]?).okOr (CoreError.unknownConnection connection)
  if key ∈ state.memberships then
    return
  if state.memberships.size = core.config.maxMembershipsPerConnection then
    throw CoreError.membershipLimitReached
  withConnection connection fun state =>
    { state with memberships := state.memberships.insert key }
  withSession key fun session => { session with members := session.members.insert connection }

/-- `join_session`, for a session without admission. -/
def joinSession (connection : ConnectionId) (key : SessionKey) : CoreM Unit := do
  let core ← get
  if key ∈ core.admissions then
    throw (CoreError.admissionLeaseRequired key)
  joinSessionUncheckedAdmission connection key

/-- `join_session_with_admission`: the lease has to be the one that waits for the join. -/
def joinSessionWithAdmission (connection : ConnectionId) (key : SessionKey)
    (lease : AdmissionLease) : CoreM Unit := do
  validateConnectionId connection
  validateSessionKey key
  let core ← get
  let principal ← core.authenticatedPrincipal connection
  if lease.session ≠ key ∨ lease.principal ≠ principal.principalId then
    throw (CoreError.invalidAdmissionLease key)
  match core.admissionLeases[(connection, key)]? with
  | some bound => if bound = lease then return else throw (CoreError.invalidAdmissionLease key)
  | none =>
    if core.pendingAdmissions[(connection, key)]? ≠ some lease then
      throw (CoreError.invalidAdmissionLease key)
    let controller ← (core.admissions[key]?).okOr (CoreError.admissionLeaseRequired key)
    if !controller.hasActiveLease lease || core.admissionLeases.toList.any (·.2 == lease) then
      throw (CoreError.invalidAdmissionLease key)
    joinSessionUncheckedAdmission connection key
    modify fun core => { core with
      pendingAdmissions := core.pendingAdmissions.erase (connection, key)
      admissionLeases := core.admissionLeases.insert (connection, key) lease }

/-- `now` is the reading of the clock that the release of the lease takes. -/
def leaveSession (connection : ConnectionId) (key : SessionKey) (now : Instant) :
    CoreM CleanupSummary := do
  validateConnectionId connection
  validateSessionKey key
  let core ← get
  core.requireMembership connection key
  let (summary, core) := (core.releaseSessionAdmission connection key .intentional
    now).detachConnectionFromSession connection key
  set core
  return summary

/-- `subscribe`. -/
def subscribe (connection : ConnectionId) (spaceKey : SpaceKey) : CoreM Unit := do
  validateConnectionId connection
  validateSpaceKey spaceKey
  let core ← get
  let principal ← core.authenticatedPrincipal connection
  requireNamespaceRead principal spaceKey.session.namespaceId
  requireSessionRead principal spaceKey.session
  requireSpaceRead principal spaceKey
  core.requireMembership connection spaceKey.session
  let state ← (core.connections[connection]?).okOr (CoreError.unknownConnection connection)
  if spaceKey ∈ state.subscriptions then
    return
  if state.subscriptions.size = core.config.maxSubscriptionsPerConnection then
    throw CoreError.subscriptionLimitReached
  let session ← (core.sessions[spaceKey.session]?).okOr
    (CoreError.sessionNotFound spaceKey.session)
  if spaceKey.space ∉ session.spaces then
    throw (CoreError.spaceNotFound spaceKey)
  withConnection connection fun state =>
    { state with subscriptions := state.subscriptions.insert spaceKey }
  let core ← get
  let session ← (core.sessions[spaceKey.session]?).okOr
    (CoreError.sessionNotFound spaceKey.session)
  if spaceKey.space ∉ session.subscribers then
    throw (CoreError.spaceNotFound spaceKey)
  set (core.modifySession spaceKey.session fun session => { session with
    subscribers := session.subscribers.modify spaceKey.space fun subscribers =>
      subscribers.insert connection })

/-- Whether a queued message belongs to a space, at whatever epoch. -/
def OutboundMessage.inSpace (message : OutboundMessage) (spaceKey : SpaceKey) : Bool :=
  message.inSession spaceKey.session && message.space == spaceKey.space

/-- `unsubscribe`. -/
def unsubscribe (connection : ConnectionId) (spaceKey : SpaceKey) : CoreM CleanupSummary := do
  validateConnectionId connection
  validateSpaceKey spaceKey
  let core ← get
  let _ ← core.authenticatedPrincipal connection
  let state ← (core.connections[connection]?).okOr (CoreError.unknownConnection connection)
  if spaceKey ∈ state.subscriptions then
    set ((core.modifySession spaceKey.session fun session => { session with
      subscribers := session.subscribers.modify spaceKey.space fun subscribers =>
        subscribers.erase connection }).modifyConnection connection fun state =>
      { state with subscriptions := state.subscriptions.erase spaceKey }.purgeOutbound
        fun message => message.inSpace spaceKey)
    return {
      subscriptionsRemoved := 1
      queuedMessagesDiscarded := state.outbound.purgedBy fun message => message.inSpace spaceKey }
  return {}

/-- `drain_outbound`. -/
def drainOutbound (connection : ConnectionId) : CoreM (List OutboundMessage) := do
  validateConnectionId connection
  let core ← get
  let state ← (core.connections[connection]?).okOr (CoreError.unknownConnection connection)
  set (core.modifyConnection connection fun state =>
    { state with outbound := state.outbound.drain.2 })
  return state.outbound.drain.1

/-- `pop_journal_record`. -/
def popJournalRecord : CoreM (Option JournalRecord) := do
  let core ← get
  set { core with journalOutbox := core.journalOutbox.pop.2 }
  return core.journalOutbox.pop.1

end Signalweave
