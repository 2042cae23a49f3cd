import Signalweave.Core.View

/-!
# The changes an operation is made of

Every operation is a list of elementary changes, each between two states in which all indexes
agree. A change carries the checks that the operation has made for it; an invariant is proved
once for each change and then holds along every operation.
-/

open Std

namespace Signalweave

/-- What an entity's transition does to its session. -/
def SessionState.transition (session : SessionState) (request : EntityTransitionRequest) :
    SessionState :=
  ((session.removeEntityFromCell request.entity).modifyEntity request.entity
    request.place).leaveBehind request

namespace WovenCore

/-- `request_session_admission_at` once its checks have passed. -/
def requestAdmission (core : WovenCore) (connection : ConnectionId) (key : SessionKey)
    (answer : JoinDecision × AdmissionController) : WovenCore :=
  { core with
    admissions := core.admissions.insert key answer.2
    pendingAdmissions :=
      match answer.1 with
      | .admitted lease => core.pendingAdmissions.insert (connection, key) lease
      | _ => core.pendingAdmissions }

/-- A pending lease becomes the bound lease of a connection. -/
def bindLease (core : WovenCore) (connection : ConnectionId) (key : SessionKey)
    (lease : AdmissionLease) : WovenCore :=
  { core with
    pendingAdmissions := core.pendingAdmissions.erase (connection, key)
    admissionLeases := core.admissionLeases.insert (connection, key) lease }

/-- What `join_session` writes. -/
def join (core : WovenCore) (connection : ConnectionId) (key : SessionKey) : WovenCore :=
  (core.modifyConnection connection fun state =>
    { state with memberships := state.memberships.insert key }).modifySession key
      fun session => { session with members := session.members.insert connection }

/-- What `subscribe` writes. -/
def subscribe (core : WovenCore) (connection : ConnectionId) (spaceKey : SpaceKey) : WovenCore :=
  (core.modifyConnection connection fun state =>
    { state with subscriptions := state.subscriptions.insert spaceKey }).modifySession
      spaceKey.session fun session => { session with
        subscribers := session.subscribers.modify spaceKey.space fun subscribers =>
          subscribers.insert connection }

/-- What `unsubscribe` writes. -/
def unsubscribe (core : WovenCore) (connection : ConnectionId) (spaceKey : SpaceKey) :
    WovenCore :=
  (core.modifySession spaceKey.session fun session => { session with
    subscribers := session.subscribers.modify spaceKey.space fun subscribers =>
      subscribers.erase connection }).modifyConnection connection fun state =>
        { state with subscriptions := state.subscriptions.erase spaceKey }.purgeOutbound
          fun message => message.inSpace spaceKey

/-- What `spawn_entity` writes. -/
def spawn (core : WovenCore) (connection : ConnectionId) (spaceKey : SpaceKey)
    (epoch : SpaceEpoch) (principal : AuthenticatedPrincipal) : WovenCore :=
  let id : EntityId := ⟨core.nextEntityId⟩
  ({ core with nextEntityId := core.nextEntityId + 1 }.modifySession spaceKey.session
    fun session => { session with
      entities := session.entities.insert id
        { id, ownerConnection := connection, ownerPrincipal := principal.principalId,
          space := spaceKey.space, spaceEpoch := epoch, position := none } }).modifyConnection
    connection fun state => { state with ownedEntities := state.ownedEntities + 1 }

/-- What `transition_entity` writes. -/
def transition (core : WovenCore) (request : EntityTransitionRequest) : WovenCore :=
  (core.modifySession request.session fun session => session.transition request).mapConnections
    fun _ state => state.purgeOutbound fun message => message.leftBehind request

/-- The queues without the messages of a space. -/
def purgeSpace (core : WovenCore) (spaceKey : SpaceKey) : WovenCore :=
  core.mapConnections fun _ state => state.purgeOutbound fun message => message.inSpace spaceKey

/-- `advance_space_epoch` once the entities of the space are removed. -/
def advanceEpoch (core : WovenCore) (key : SessionKey) (space : SpaceId)
    (proposed : SpaceEpoch) : WovenCore :=
  (core.purgeSpace ⟨key, space⟩).modifySession key fun session =>
    session.advanceEpoch space proposed

/-- What a plan writes before the fan-out. -/
def commitPlan (core : WovenCore) (key : SessionKey) (plan : PublishPlan) : WovenCore :=
  { core with
    journalOutbox := { core.journalOutbox with
      records := core.journalOutbox.records ++
        (plan.journaled key).map JournalRecord.mk } }.modifySession key
    fun session => session.commit plan

/-- The release of a lease together with the detachment it belongs to. -/
def leave (core : WovenCore) (connection : ConnectionId) (key : SessionKey)
    (reason : ReleaseReason) (now : Instant) : WovenCore :=
  ((core.releaseSessionAdmission connection key reason now).detachConnectionFromSession
    connection key).2

end WovenCore

/-- The operation lets a connection join a session. -/
def Op.joins : Op → ConnectionId → SessionKey → Prop
  | .joinSession c k, connection, key
  | .joinSessionWithAdmission c k _, connection, key => c = connection ∧ k = key
  | _, _, _ => False

/-- The operation removes entities of a session. -/
def Op.removes : Op → SessionKey → Prop
  | .removeEntity _ k _, key | .advanceSpaceEpoch k _ _, key => k = key
  | _, _ => False

/-- The operation may lose a connection: a publication loses those it finds slow. -/
def Op.loses : Op → ConnectionId → Prop
  | .transportLost c _, connection => c = connection
  | .publishAt _ _ _ _, _ => True
  | _, _ => False

/-- The operation is a publication. -/
def Op.publishes : Op → Prop
  | .publishAt _ _ _ _ => True
  | _ => False

/-- The operation may take a connection out of a session. -/
def Op.detaches : Op → ConnectionId → SessionKey → Prop
  | .leaveSession c k _, connection, key => c = connection ∧ k = key
  | op, connection, _ => op.loses connection

theorem Op.loses.detaches {op : Op} {connection : ConnectionId} (h : op.loses connection)
    (key : SessionKey) : op.detaches connection key := by
  cases op <;> first | exact h | exact h.elim

/-- The elementary changes of an operation. -/
inductive Change : Op → WovenCore → WovenCore → Prop
  | registerChannel {core} (channel : ChannelDefinition) (fresh : channel.id ∉ core.channels)
      (room : core.channels.size ≠ core.config.maxChannels) :
      Change (.registerChannel channel) core
        { core with channels := core.channels.insert channel.id channel }
  | provisionSession {core} (key : SessionKey) (fresh : key ∉ core.sessions)
      (room : core.sessions.size ≠ core.config.maxSessions) :
      Change (.provisionSession key) core { core with sessions := core.sessions.insert key {} }
  | configureAdmission {core} (key : SessionKey) (metadata : AdmissionMetadata)
      (policy : QueuePolicy) (capacity : CapacityUpdate) (provisioned : key ∈ core.sessions)
      (own : metadata.session = key) (fresh : key ∉ core.admissions) :
      Change (.configureSessionAdmission key metadata policy capacity) core
        { core with
          admissions := core.admissions.insert key (.new metadata policy capacity { metadata }) }
  | applyCapacity {core} (key : SessionKey) (update : CapacityUpdate) (now : Instant)
      (controller : AdmissionController) (found : core.admissions[key]? = some controller) :
      Change (.applySessionCapacityAt key update now) core
        { core with
          admissions := core.admissions.insert key (controller.applyCapacityAt update now).2 }
  | requestAdmission {core} (connection : ConnectionId) (key : SessionKey)
      (idempotencyKey : IdempotencyKey) (now : Instant) (principal : AuthenticatedPrincipal)
      (controller : AdmissionController)
      (authenticated : core.authenticatedPrincipal connection = .ok principal)
      (found : core.admissions[key]? = some controller) :
      Change (.requestSessionAdmissionAt connection key idempotencyKey now) core
        (core.requestAdmission connection key (controller.requestJoinAt
          { principal := principal.principalId, idempotencyKey := some idempotencyKey } now))
  | bindLease {core} (connection : ConnectionId) (key : SessionKey) (lease : AdmissionLease)
      (principal : AuthenticatedPrincipal) (controller : AdmissionController)
      (authenticated : core.authenticatedPrincipal connection = .ok principal)
      (own : lease.principal = principal.principalId)
      (unbound : core.admissionLeases[(connection, key)]? = none)
      (pending : core.pendingAdmissions[(connection, key)]? = some lease)
      (found : core.admissions[key]? = some controller)
      (active : controller.hasActiveLease lease = true)
      (unshared : ∀ slot : ConnectionId × SessionKey, core.admissionLeases[slot]? ≠ some lease) :
      Change (.joinSessionWithAdmission connection key lease) core
        (core.bindLease connection key lease)
  | join {op core} (connection : ConnectionId) (key : SessionKey) (asked : op.joins connection key)
      (principal : AuthenticatedPrincipal)
      (authenticated : core.authenticatedPrincipal connection = .ok principal)
      (readsNamespace : principal.grants.canReadNamespace key.namespaceId = true)
      (readsSession : principal.grants.canReadSession key = true)
      (provisioned : key ∈ core.sessions)
      (bound : key ∈ core.admissions → (connection, key) ∈ core.admissionLeases)
      (room : (core.connectionAt connection).memberships.size ≠
        core.config.maxMembershipsPerConnection) :
      Change op core (core.join connection key)
  | installSpace {core} (key : SessionKey) (descriptor : SpaceDescriptor)
      (session : SessionState) (found : core.sessions[key]? = some session)
      (valid : descriptor.validate = .ok ()) (fresh : descriptor.id ∉ session.spaces)
      (room : session.spaces.size ≠ core.config.maxSpacesPerSession)
      (history : checkSpaceHistory core.config session descriptor = .ok ())
      (parent : checkParent session descriptor = .ok ()) :
      Change (.installSpace key descriptor) core
        (core.modifySession key fun session => session.installSpace descriptor)
  | removeEntities {op core} (key : SessionKey) (initial : ExtTreeSet EntityId)
      (asked : op.removes key) :
      Change op core (core.dropRemoved key (core.removalOf key initial))
  | purgeSpace {core} (key : SessionKey) (space : SpaceId) (proposed : SpaceEpoch)
      (gone : space ∉ (core.sessionAt key).spaces) :
      Change (.advanceSpaceEpoch key space proposed) core (core.purgeSpace ⟨key, space⟩)
  | advanceEpoch {core} (key : SessionKey) (space : SpaceId) (proposed : SpaceEpoch)
      (descriptor : SpaceDescriptor)
      (found : (core.sessionAt key).spaces[space]? = some descriptor)
      (later : descriptor.epoch < proposed)
      (empty : ∀ (id : EntityId) (record : EntityRecord),
        (core.sessionAt key).entities[id]? = some record → record.space ≠ space) :
      Change (.advanceSpaceEpoch key space proposed) core (core.advanceEpoch key space proposed)
  | takeConnectionId {core} :
      Change .transportConnected core { core with nextConnectionId := core.nextConnectionId + 1 }
  | connect {core} (outbound : OutboundQueue)
      (queue : OutboundQueue.new core.config.outboundQueue = .ok outbound)
      (room : core.connections.size ≠ core.config.maxConnections) :
      Change .transportConnected core
        { core with
          nextConnectionId := core.nextConnectionId + 1
          connections := core.connections.insert ⟨core.nextConnectionId⟩ { outbound } }
  | authenticate {core} (connection : ConnectionId) (credentials : Credentials)
      (state : ConnectionState) (principal : AuthenticatedPrincipal)
      (found : core.connections[connection]? = some state) (fresh : state.authenticated = none) :
      Change (.authenticate connection credentials) core
        (core.modifyConnection connection fun state =>
          { state with authenticated := some principal })
  | leave {op core} (connection : ConnectionId) (key : SessionKey) (reason : ReleaseReason)
      (now : Instant) (asked : op.detaches connection key)
      (member : key ∈ (core.connectionAt connection).memberships) :
      Change op core (core.leave connection key reason now)
  | subscribe {core} (connection : ConnectionId) (spaceKey : SpaceKey)
      (member : spaceKey.session ∈ (core.connectionAt connection).memberships)
      (installed : spaceKey.space ∈ (core.sessionAt spaceKey.session).spaces)
      (room : (core.connectionAt connection).subscriptions.size ≠
        core.config.maxSubscriptionsPerConnection) :
      Change (.subscribe connection spaceKey) core (core.subscribe connection spaceKey)
  | unsubscribe {core} (connection : ConnectionId) (spaceKey : SpaceKey)
      (subscribed : spaceKey ∈ (core.connectionAt connection).subscriptions) :
      Change (.unsubscribe connection spaceKey) core (core.unsubscribe connection spaceKey)
  | spawn {core} (connection : ConnectionId) (spaceKey : SpaceKey) (epoch : SpaceEpoch)
      (principal : AuthenticatedPrincipal)
      (member : spaceKey.session ∈ (core.connectionAt connection).memberships)
      (provisioned : spaceKey.session ∈ core.sessions)
      (installed : (core.sessionAt spaceKey.session).Installed spaceKey.space epoch)
      (roomOwned : (core.connectionAt connection).ownedEntities ≠
        core.config.maxOwnedEntitiesPerConnection)
      (room : (core.sessionAt spaceKey.session).entities.size ≠
        core.config.maxEntitiesPerSession) :
      Change (.spawnEntity connection spaceKey epoch) core
        (core.spawn connection spaceKey epoch principal)
  | move {core} (connection : ConnectionId) (key : SessionKey) (entity : EntityId)
      (position : EntityPosition) (cell : Option SpatialCellKey) (session : SessionState)
      (record : EntityRecord)
      (descriptor : SpaceDescriptor) (found : core.sessions[key]? = some session)
      (entityFound : session.entities[entity]? = some record)
      (spaceFound : session.spaces[record.space]? = some descriptor)
      (valid : position.validateForFrame descriptor.localFrame = .ok ())
      (indexed : spatialCellFor position descriptor record.spaceEpoch = .ok cell) :
      Change (.updateEntityPosition connection key entity position) core
        (core.modifySession key fun session =>
          (session.moveToCell entity cell).modifyEntity entity fun record =>
            { record with position := some position })
  | transition {core} (request : EntityTransitionRequest)
      (checked : core.checkTransition request = .ok ())
      (moves : request.sourceSpace ≠ request.destinationSpace) :
      Change (.transitionEntity request) core (core.transition request)
  | limit {core} (request : PublishRequest) (now : Instant) (call : Nat) (clock : ReleaseClock)
      (limiter : ConnectionRateLimiter) :
      Change (.publishAt request now call clock) core
        (core.modifyConnection request.connection fun state =>
          { state with rateLimiter := limiter })
  | commit {core} (request : PublishRequest) (now : Instant) (call : Nat) (clock : ReleaseClock)
      (plan : PublishPlan) (planned : core.planPublish request call = .ok plan) :
      Change (.publishAt request now call clock) core (core.commitPlan request.session plan)
  | deliver {core} (request : PublishRequest) (now : Instant) (call : Nat)
      (clock : ReleaseClock) (message : AuthorizedMessage) (recipient : ConnectionId)
      (principal : AuthenticatedPrincipal) (result : QueuePush) (queue : OutboundQueue)
      (subscribed : ⟨request.session, message.space⟩ ∈
        (core.connectionAt recipient).subscriptions)
      (authenticated : (core.connectionAt recipient).authenticated = some principal)
      (allowed : canReceive principal request.session message.space message.channel = true)
      (scope : (core.sessionAt request.session).InScope message.space message.spaceEpoch
        message.entity)
      (pushed : (core.connectionAt recipient).outbound.push
        (message.toOutbound request.session) = .ok (result, queue)) :
      Change (.publishAt request now call clock) core (core.modifyConnection recipient fun state =>
        { state with outbound := queue })
  | drain {core} (connection : ConnectionId) :
      Change (.drainOutbound connection) core (core.modifyConnection connection fun state =>
        { state with outbound := state.outbound.drain.2 })
  | popJournal {core} :
      Change .popJournalRecord core { core with journalOutbox := core.journalOutbox.pop.2 }
  | releasePending {op core} (connection : ConnectionId) (key : SessionKey) (now : Instant)
      (asked : op.loses connection) :
      Change op core (core.releasePendingAdmission connection key now)
  | disconnect {op core} (connection : ConnectionId) (asked : op.loses connection)
      (left : ∀ key, key ∉ (core.connectionAt connection).memberships)
      (unbound : ∀ key, (connection, key) ∉ core.pendingAdmissions) :
      Change op core { core with connections := core.connections.erase connection }

/-- Any number of changes of one operation. -/
def Changes (op : Op) : WovenCore → WovenCore → Prop := Relation.ReflTransGen (Change op)

namespace Changes

variable {op : Op} {core core' core'' : WovenCore}

@[simp] theorem refl : Changes op core core := Relation.ReflTransGen.refl

theorem single (h : Change op core core') : Changes op core core' := Relation.ReflTransGen.single h

theorem trans (h : Changes op core core') (h' : Changes op core' core'') :
    Changes op core core'' := Relation.ReflTransGen.trans h h'

theorem tail (h : Changes op core core') (h' : Change op core' core'') :
    Changes op core core'' := Relation.ReflTransGen.tail h h'

/-- What a change keeps, an operation keeps. -/
theorem invariant {P : WovenCore → Prop}
    (hchange : ∀ core core', Change op core core' → P core → P core')
    (h : Changes op core core') (hp : P core) : P core' := by
  induction h with
  | refl => exact hp
  | tail _ hlast ih => exact hchange _ _ hlast ih

end Changes

end Signalweave
