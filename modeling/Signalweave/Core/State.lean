import Signalweave.Auth
import Signalweave.Authority
import Signalweave.Queue
import Signalweave.Journal
import Signalweave.Admission

/-!
# The state of the core (`core.rs`)

Configuration, errors, requests, the per-connection and per-session records and `WovenCore`
itself. A `usize` is a natural number: the collections it counts fit in memory. The `u64`
counters of connections and entities keep their checked increment.
-/

open Std

namespace Signalweave

/-- How many publications of a connection a window of time admits. -/
structure PublishRateLimit where
  maxPublishes : Nat := 256
  window : Duration := 1000000000
  deriving DecidableEq

/-- The limits of a core, with their defaults. -/
structure CoreConfig where
  outboundQueue : OutboundQueueConfig := {}
  publishRateLimit : PublishRateLimit := {}
  maxConnections : Nat := 4096
  maxSessions : Nat := 1024
  maxChannels : Nat := 1024
  maxMembershipsPerConnection : Nat := 32
  maxSubscriptionsPerConnection : Nat := 128
  maxOwnedEntitiesPerConnection : Nat := 256
  maxPayloadBytes : Nat := 64 * 1024
  maxSpacesPerSession : Nat := 1024
  maxSpaceEpochTombstonesPerSession : Nat := 4096
  maxEntitiesPerSession : Nat := 16384
  maxStateEntriesPerSession : Nat := 65536
  maxStateBytesPerSession : Nat := 64 * 1024 * 1024
  maxSequenceKeysPerSession : Nat := 131072
  maxAuthorityEmissions : Nat := 16
  journalOutboxCapacity : Nat := 1024
  deriving DecidableEq

/-- `IdKind`: the kinds of identifier whose zero value is reserved. -/
inductive IdKind where
  | namespaceId
  | session
  | space
  | entity
  | connection
  | principal
  | channel
  | spaceEpoch
  deriving DecidableEq

/-- Why an operation of the core is refused. -/
inductive CoreError where
  | invalidConfiguration
  | invalidQueueConfig (error : QueueConfigError)
  | reservedZeroId (kind : IdKind)
  | authenticationFailed (error : AuthError)
  | authenticationRequired
  | alreadyAuthenticated
  | unknownConnection (connection : ConnectionId)
  | connectionLimitReached
  | namespaceReadAccessDenied (id : NamespaceId)
  | namespaceWriteAccessDenied (id : NamespaceId)
  | sessionReadAccessDenied (session : SessionKey)
  | sessionWriteAccessDenied (session : SessionKey)
  | spaceReadAccessDenied (space : SpaceKey)
  | spaceWriteAccessDenied (space : SpaceKey)
  | channelWriteAccessDenied (channel : ChannelScope)
  | unknownChannel (channel : ChannelId)
  | channelAlreadyRegistered (channel : ChannelId)
  | channelLimitReached
  | invalidChannelLimit (channel : ChannelId)
  | channelPolicyMismatch (channel : ChannelId)
      (expectedDelivery receivedDelivery : DeliveryClass)
      (expectedPersistence receivedPersistence : PersistenceClass)
  | sessionNotFound (session : SessionKey)
  | sessionAlreadyProvisioned (session : SessionKey)
  | sessionLimitReached
  | sessionMembershipRequired (session : SessionKey)
  | membershipLimitReached
  | spaceNotFound (space : SpaceKey)
  | spaceAlreadyExists (space : SpaceKey)
  | spaceLimitReached
  | spaceIdHistoryLimitReached
  | invalidSpace (error : SpaceValidationError)
  | parentSpaceNotFound (space : SpaceId)
  | parentAnchorNotFound (entity : EntityId)
  | parentAnchorInWrongSpace (entity : EntityId) (expected : SpaceId)
  | epochDidNotAdvance (current proposed : SpaceEpoch)
  | spaceEpochMismatch (expected received : SpaceEpoch)
  | subscriptionRequired (space : SpaceKey)
  | subscriptionLimitReached
  | entityLimitReached
  | ownedEntityLimitReached
  | entityNotFound (entity : EntityId)
  | entityNotOwned (entity : EntityId)
  | entitySpaceMismatch (entity : EntityId)
  | invalidEntityPosition (error : PositionValidationError)
  | spatialCellOutOfRange
  | stateEntryLimitReached
  | stateByteLimitReached
  | sequenceKeyLimitReached
  | payloadTooLarge (actual limit : Nat)
  | missingCoalesceKey
  | invalidCoalesceKey
  | staleSequence (received last : Nat)
  | publishRateLimited (retryAfter : Duration)
  | rateLimitClockRegressed
  | authorityRejected (reason : AuthorityRejection)
  | authorityEmissionLimitExceeded
  | journalOutboxSaturated
  | idExhausted
  | admissionAlreadyConfigured (session : SessionKey)
  | admissionLeaseRequired (session : SessionKey)
  | invalidAdmissionLease (session : SessionKey)
  | queue (error : QueueError)
  deriving DecidableEq

/-- `PublishRateLimit::validate`. -/
def PublishRateLimit.validate (policy : PublishRateLimit) : Except CoreError PublishRateLimit :=
  if policy.maxPublishes = 0 ∨ policy.window = 0 then .error .invalidConfiguration
  else .ok policy

/-- `CoreConfig::validate`. -/
def CoreConfig.validate (config : CoreConfig) : Except CoreError CoreConfig := do
  match config.outboundQueue.validate with
  | .error error => throw (.invalidQueueConfig error)
  | .ok _ => pure ()
  let _ ← config.publishRateLimit.validate
  if config.maxConnections = 0 ∨ config.maxSessions = 0 ∨ config.maxChannels = 0 ∨
      config.maxMembershipsPerConnection = 0 ∨ config.maxSubscriptionsPerConnection = 0 ∨
      config.maxOwnedEntitiesPerConnection = 0 ∨ config.maxPayloadBytes = 0 ∨
      config.maxSpacesPerSession = 0 ∨ config.maxSpaceEpochTombstonesPerSession = 0 ∨
      config.maxEntitiesPerSession = 0 ∨ config.maxStateEntriesPerSession = 0 ∨
      config.maxStateBytesPerSession = 0 ∨ config.maxSequenceKeysPerSession = 0 ∨
      config.maxAuthorityEmissions = 0 ∨
      config.maxSpaceEpochTombstonesPerSession < config.maxSpacesPerSession then
    throw .invalidConfiguration
  return config

/-- What a connection asks to publish. -/
structure PublishRequest where
  connection : ConnectionId
  session : SessionKey
  space : SpaceId
  spaceEpoch : SpaceEpoch
  entity : Option EntityId
  channel : ChannelId
  sequence : Nat
  delivery : DeliveryClass
  persistence : PersistenceClass
  coalesceKey : Option CoalesceKey
  payload : List UInt8
  deriving DecidableEq

/-- What has become of the messages of a publication in the queues of their recipients. -/
structure QueueActivity where
  queued : Nat := 0
  criticalEvictions : Nat := 0
  replacedLatest : Nat := 0
  evictedLatest : Nat := 0
  droppedLatest : Nat := 0
  droppedBestEffort : Nat := 0
  criticalCapacityExhausted : Nat := 0
  deriving DecidableEq

/-- The answer to a publication. -/
structure PublishOutcome where
  authorizedMessages : Nat := 0
  recipientAttempts : Nat := 0
  queues : QueueActivity := {}
  disconnectedSlowConsumers : List ConnectionId := []
  deriving DecidableEq

/-- An entity that has been removed, and where it was. -/
structure RemovedEntity where
  entity : EntityId
  session : SessionKey
  space : SpaceId
  spaceEpoch : SpaceEpoch
  deriving DecidableEq

/-- Which entity is to move, from which incarnation of a space into which. -/
structure EntityTransitionRequest where
  connection : ConnectionId
  session : SessionKey
  entity : EntityId
  sourceSpace : SpaceId
  sourceEpoch : SpaceEpoch
  destinationSpace : SpaceId
  destinationEpoch : SpaceEpoch
  deriving DecidableEq

/-- A move that has been made. -/
structure EntityTransition where
  entity : EntityId
  session : SessionKey
  sourceSpace : SpaceId
  sourceEpoch : SpaceEpoch
  destinationSpace : SpaceId
  destinationEpoch : SpaceEpoch
  deriving DecidableEq

/-- What an operation has taken away. -/
structure CleanupSummary where
  membershipsRemoved : Nat := 0
  subscriptionsRemoved : Nat := 0
  entitiesRemoved : Nat := 0
  spacesRemoved : Nat := 0
  queuedMessagesDiscarded : Nat := 0
  removedEntities : List RemovedEntity := []
  deriving DecidableEq

/-- Two summaries together. -/
def CleanupSummary.add (summary other : CleanupSummary) : CleanupSummary :=
  { membershipsRemoved := summary.membershipsRemoved + other.membershipsRemoved
    subscriptionsRemoved := summary.subscriptionsRemoved + other.subscriptionsRemoved
    entitiesRemoved := summary.entitiesRemoved + other.entitiesRemoved
    spacesRemoved := summary.spacesRemoved + other.spacesRemoved
    queuedMessagesDiscarded := summary.queuedMessagesDiscarded + other.queuedMessagesDiscarded
    removedEntities := summary.removedEntities ++ other.removedEntities }

/-- When the current window began, and how many publications it has admitted. -/
structure ConnectionRateLimiter where
  windowStarted : Option Instant := none
  publishes : Nat := 0
  deriving DecidableEq

/-- `ConnectionRateLimiter::admit`. Its errors leave the limiter as it was. -/
def ConnectionRateLimiter.admitAt (limiter : ConnectionRateLimiter) (policy : PublishRateLimit)
    (now : Instant) : Except CoreError ConnectionRateLimiter :=
  match limiter.windowStarted with
  | none => .ok { windowStarted := some now, publishes := 1 }
  | some started => do
    let elapsed ← (Instant.checkedDurationSince now started).okOr .rateLimitClockRegressed
    if policy.window ≤ elapsed then
      return { windowStarted := some now, publishes := 1 }
    if limiter.publishes = policy.maxPublishes then
      throw (.publishRateLimited (policy.window - elapsed))
    return { limiter with publishes := limiter.publishes + 1 }

/-- What the core keeps for a connection. -/
structure ConnectionState where
  authenticated : Option AuthenticatedPrincipal := none
  memberships : ExtTreeSet SessionKey := ∅
  subscriptions : ExtTreeSet SpaceKey := ∅
  ownedEntities : Nat := 0
  rateLimiter : ConnectionRateLimiter := {}
  outbound : OutboundQueue

/-- An entity: whose it is, and where. -/
structure EntityRecord where
  id : EntityId
  ownerConnection : ConnectionId
  ownerPrincipal : PrincipalId
  space : SpaceId
  spaceEpoch : SpaceEpoch
  position : Option EntityPosition
  deriving DecidableEq

/-- `SpatialCell`: grid coordinates of two or three dimensions. -/
inductive SpatialCell where
  | cartesian2D (x y : Int)
  | cartesian3D (x y z : Int)
  deriving DecidableEq

/-- The variant and the coordinates of a cell, in the order the derived comparison reads them. -/
def SpatialCell.coordinates : SpatialCell → Nat × Int × Int × Int
  | .cartesian2D x y => (0, x, y, 0)
  | .cartesian3D x y z => (1, x, y, z)

theorem SpatialCell.coordinates_injective : Function.Injective SpatialCell.coordinates := by
  intro a b h
  cases a <;> cases b <;> simp_all [coordinates]

instance : Ord SpatialCell := ⟨compareOn SpatialCell.coordinates⟩
instance : TransOrd SpatialCell := inferInstanceAs (TransCmp (compareOn _))
instance : LawfulEqOrd SpatialCell := LawfulEqCmp.on SpatialCell.coordinates_injective

/-- A cell of the grid of a space incarnation. -/
structure SpatialCellKey where
  space : SpaceId
  spaceEpoch : SpaceEpoch
  cell : SpatialCell
  deriving DecidableEq

/-- By space, incarnation and cell. -/
def SpatialCellKey.cmp : SpatialCellKey → SpatialCellKey → Ordering :=
  compareLex (compareOn SpatialCellKey.space)
    (compareLex (compareOn SpatialCellKey.spaceEpoch) (compareOn SpatialCellKey.cell))

instance : Ord SpatialCellKey := ⟨SpatialCellKey.cmp⟩
instance : TransOrd SpatialCellKey := inferInstanceAs (TransCmp (compareLex _ (compareLex _ _)))
instance : LawfulEqOrd SpatialCellKey := LawfulEqCmp.lex (by
  rintro ⟨s, e, c⟩ ⟨s', e', c'⟩ h₁ h₂
  simp_all [compareOn, compareLex_eq_eq])

/-- What a stored value is the state of. -/
structure StateKey where
  space : SpaceId
  spaceEpoch : SpaceEpoch
  entity : Option EntityId
  channel : ChannelId
  component : Nat
  deriving DecidableEq

/-- By space, incarnation, entity, channel and component. -/
def StateKey.cmp : StateKey → StateKey → Ordering :=
  compareLex (compareOn StateKey.space)
    (compareLex (compareOn StateKey.spaceEpoch)
      (compareLex (compareOn StateKey.entity)
        (compareLex (compareOn StateKey.channel) (compareOn StateKey.component))))

instance : Ord StateKey := ⟨StateKey.cmp⟩
instance : TransOrd StateKey :=
  inferInstanceAs (TransCmp (compareLex _ (compareLex _ (compareLex _ (compareLex _ _)))))
instance : LawfulEqOrd StateKey := LawfulEqCmp.lex (by
  rintro ⟨s, e, i, c, n⟩ ⟨s', e', i', c', n'⟩ h₁ h₂
  simp_all [compareOn, compareLex_eq_eq])

/-- What a connection numbers its messages by. -/
structure SequenceKey where
  connection : ConnectionId
  space : SpaceId
  spaceEpoch : SpaceEpoch
  entity : Option EntityId
  channel : ChannelId
  component : Nat
  deriving DecidableEq

/-- By connection, space, incarnation, entity, channel and component. -/
def SequenceKey.cmp : SequenceKey → SequenceKey → Ordering :=
  compareLex (compareOn SequenceKey.connection)
    (compareLex (compareOn SequenceKey.space)
      (compareLex (compareOn SequenceKey.spaceEpoch)
        (compareLex (compareOn SequenceKey.entity)
          (compareLex (compareOn SequenceKey.channel) (compareOn SequenceKey.component)))))

instance : Ord SequenceKey := ⟨SequenceKey.cmp⟩
instance : TransOrd SequenceKey :=
  inferInstanceAs (TransCmp
    (compareLex _ (compareLex _ (compareLex _ (compareLex _ (compareLex _ _))))))
instance : LawfulEqOrd SequenceKey := LawfulEqCmp.lex (by
  rintro ⟨o, s, e, i, c, n⟩ ⟨o', s', e', i', c', n'⟩ h₁ h₂
  simp_all [compareOn, compareLex_eq_eq])

/-- A stored value with its sequence number. -/
structure StateRecord where
  sequence : Nat
  payload : List UInt8
  deriving DecidableEq

/-- What the core keeps for a session. -/
structure SessionState where
  members : ExtTreeSet ConnectionId := ∅
  spaces : ExtTreeMap SpaceId SpaceDescriptor := ∅
  spaceEpochTombstones : ExtTreeMap SpaceId SpaceEpoch := ∅
  subscribers : ExtTreeMap SpaceId (ExtTreeSet ConnectionId) := ∅
  entities : ExtTreeMap EntityId EntityRecord := ∅
  entityCells : ExtTreeMap EntityId SpatialCellKey := ∅
  cellEntities : ExtTreeMap SpatialCellKey (ExtTreeSet EntityId) := ∅
  sequences : ExtTreeMap SequenceKey Nat := ∅
  state : ExtTreeMap StateKey StateRecord := ∅
  stateBytes : Nat := 0

namespace SessionState

/-- The sum `recompute_state_bytes` takes over the stored records. -/
def storedBytes (session : SessionState) : Nat :=
  OrderedMap.total (fun _ record => record.payload.length) session.state

/-- `recompute_state_bytes`. -/
def recomputeStateBytes (session : SessionState) : SessionState :=
  { session with stateBytes := session.storedBytes }

/-- Take an entity out of its cell, and the cell out of the grid once it is empty. -/
def removeEntityFromCell (session : SessionState) (entity : EntityId) : SessionState :=
  match session.entityCells[entity]? with
  | none => session
  | some cell =>
    let remaining := (session.cellEntities[cell]?).map (·.erase entity)
    { session with
      entityCells := session.entityCells.erase entity
      cellEntities :=
        match remaining with
        | none => session.cellEntities
        | some entities =>
          if entities.isEmpty then session.cellEntities.erase cell
          else session.cellEntities.insert cell entities }

/-- Put an entity into a cell. -/
def insertEntityIntoCell (session : SessionState) (entity : EntityId) (cell : SpatialCellKey) :
    SessionState :=
  { session with
    entityCells := session.entityCells.insert entity cell
    cellEntities := session.cellEntities.insert cell
      (((session.cellEntities[cell]?).getD ∅).insert entity) }

end SessionState

/-- A message as the authority of its channel has let it through. -/
structure AuthorizedMessage where
  space : SpaceId
  spaceEpoch : SpaceEpoch
  entity : Option EntityId
  channel : ChannelId
  sequence : Nat
  delivery : DeliveryClass
  persistence : PersistenceClass
  coalesceKey : Option CoalesceKey
  payload : List UInt8
  deriving DecidableEq

namespace AuthorizedMessage

/-- A message that is let through as it is. -/
def fromRequest (request : PublishRequest) : AuthorizedMessage :=
  { space := request.space
    spaceEpoch := request.spaceEpoch
    entity := request.entity
    channel := request.channel
    sequence := request.sequence
    delivery := request.delivery
    persistence := request.persistence
    coalesceKey := request.coalesceKey
    payload := request.payload }

/-- A message that the authority sends instead. -/
def fromEmission (emission : AuthorityEmission) : AuthorizedMessage :=
  { space := emission.space
    spaceEpoch := emission.spaceEpoch
    entity := emission.entity
    channel := emission.channel
    sequence := emission.sequence
    delivery := emission.delivery
    persistence := emission.persistence
    coalesceKey := emission.coalesceKey
    payload := emission.payload }

/-- The message with its session, as it is queued for recipients. -/
def toOutbound (message : AuthorizedMessage) (session : SessionKey) : OutboundMessage :=
  { namespaceId := session.namespaceId
    session := session.session
    space := message.space
    spaceEpoch := message.spaceEpoch
    entity := message.entity
    channel := message.channel
    sequence := message.sequence
    delivery := message.delivery
    persistence := message.persistence
    coalesceKey := message.coalesceKey
    payload := message.payload }

end AuthorizedMessage

/-- The permits of admission are kept by connection and session. -/
instance transOrdPermit : TransOrd (ConnectionId × SessionKey) := inferInstance

/-- The whole core. -/
structure WovenCore where
  authenticator : Authenticator
  config : CoreConfig
  nextConnectionId : Nat := 1
  nextEntityId : Nat := 1
  connections : ExtTreeMap ConnectionId ConnectionState := ∅
  sessions : ExtTreeMap SessionKey SessionState := ∅
  channels : ExtTreeMap ChannelId ChannelDefinition := ∅
  admissions : ExtTreeMap SessionKey AdmissionController := ∅
  pendingAdmissions : ExtTreeMap (ConnectionId × SessionKey) AdmissionLease := ∅
  admissionLeases : ExtTreeMap (ConnectionId × SessionKey) AdmissionLease := ∅
  journalOutbox : JournalOutbox

/-- A `&mut self` method of the core: what it wrote before an error stays written. -/
abbrev CoreM := EStateM CoreError WovenCore

/-- `u64::checked_add(1)`. -/
def checkedSucc (value : Nat) : Option Nat :=
  if value + 1 < 2 ^ 64 then some (value + 1) else none

/-- `WovenCore::new`. -/
def WovenCore.new (authenticator : Authenticator) (config : CoreConfig) :
    Except CoreError WovenCore := do
  let config ← config.validate
  return { authenticator, config, journalOutbox := { capacity := config.journalOutboxCapacity } }

namespace WovenCore

/-- Change one session, if it is there. -/
def modifySession (core : WovenCore) (key : SessionKey) (f : SessionState → SessionState) :
    WovenCore :=
  { core with sessions := core.sessions.modify key f }

/-- Change one connection, if it is there. -/
def modifyConnection (core : WovenCore) (connection : ConnectionId)
    (f : ConnectionState → ConnectionState) : WovenCore :=
  { core with connections := core.connections.modify connection f }

/-- `connections.values_mut()`. -/
def mapConnections (core : WovenCore) (f : ConnectionId → ConnectionState → ConnectionState) :
    WovenCore :=
  { core with connections := core.connections.map f }

end WovenCore

/-- `self.sessions.get_mut(&key).ok_or(SessionNotFound(key))?`, then the change. -/
def withSession (key : SessionKey) (f : SessionState → SessionState) : CoreM Unit := do
  let core ← get
  let _ ← (core.sessions[key]?).okOr (CoreError.sessionNotFound key)
  set (core.modifySession key f)

/-- `self.connections.get_mut(&connection).ok_or(UnknownConnection(connection))?`, then the
change. -/
def withConnection (connection : ConnectionId) (f : ConnectionState → ConnectionState) :
    CoreM Unit := do
  let core ← get
  let _ ← (core.connections[connection]?).okOr (CoreError.unknownConnection connection)
  set (core.modifyConnection connection f)

end Signalweave
