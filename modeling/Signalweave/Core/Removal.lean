import Signalweave.Core.Checks
import Signalweave.Library.Fixpoint

/-!
# Removal of entities, anchored spaces and connections (`core.rs`)

`remove_entities_and_anchored_spaces`, what a leave and a disconnect build on it, and the
release of admission leases. None of these methods can fail, except that `transport_lost` looks
its connection up again at the end.
-/

open Std

namespace Signalweave

/-- The two sets the removal loop grows. -/
structure Removal where
  entities : ExtTreeSet EntityId
  spaces : ExtTreeSet SpaceId

namespace SessionState

/-- Whether the removal loop adds a space: its anchor or its parent space is removed. -/
def anchoredIn (descriptor : SpaceDescriptor) (entities : ExtTreeSet EntityId)
    (spaces : ExtTreeSet SpaceId) : Bool :=
  descriptor.parent.any fun parent =>
    entities.contains parent.anchorEntity || spaces.contains parent.parentSpace

/-- The first inner loop. It reads the set it is growing. -/
def growSpaces (entities : ExtTreeSet EntityId) (descriptors : List SpaceDescriptor)
    (spaces : ExtTreeSet SpaceId) : ExtTreeSet SpaceId :=
  OrderedSet.growAlong (fun descriptor spaces => anchoredIn descriptor entities spaces)
    SpaceDescriptor.id descriptors spaces

/-- The second inner loop. -/
def growEntities (spaces : ExtTreeSet SpaceId) (records : List EntityRecord)
    (entities : ExtTreeSet EntityId) : ExtTreeSet EntityId :=
  OrderedSet.growAlong (fun record _ => spaces.contains record.space) EntityRecord.id records
    entities

/-- One round of the removal loop. -/
def cascadeRound (session : SessionState) (removal : Removal) : Removal :=
  let spaces := growSpaces removal.entities (session.spaces.toList.map Prod.snd) removal.spaces
  { entities := growEntities spaces (session.entities.toList.map Prod.snd) removal.entities
    spaces := spaces }

/-- The test that ends the loop. -/
def sameSize (before now : Removal) : Bool :=
  before.spaces.size == now.spaces.size && before.entities.size == now.entities.size

/-- The removal loop. Each round but the last adds a space or an entity of the session. -/
def cascade (session : SessionState) (initial : ExtTreeSet EntityId) : Removal :=
  Fixpoint.untilStable session.cascadeRound sameSize
    (session.spaces.size + session.entities.size + 1) { entities := initial, spaces := ∅ }

/-- What is removed of one space: its descriptor, which leaves a tombstone, and its subscribers. -/
def removeSpace (session : SessionState) (space : SpaceId) : SessionState :=
  { session with
    spaces := session.spaces.erase space
    spaceEpochTombstones :=
      match session.spaces[space]? with
      | some descriptor => session.spaceEpochTombstones.insert descriptor.id descriptor.epoch
      | none => session.spaceEpochTombstones
    subscribers := session.subscribers.erase space }

/-- Whether a key over a space and an optional entity is free of everything removed. -/
def keptBy (removal : Removal) (space : SpaceId) (entity : Option EntityId) : Bool :=
  !removal.spaces.contains space && entity.all fun entity => !removal.entities.contains entity

/-- The removed entities leave their cells and then the entity table. -/
def dropEntities (session : SessionState) (removal : Removal) : SessionState :=
  let session := removal.entities.toList.foldl removeEntityFromCell session
  { session with
    entities := session.entities.filter fun id _ => !removal.entities.contains id }

/-- State and sequences keep the keys that name nothing removed. -/
def dropKeys (session : SessionState) (removal : Removal) : SessionState :=
  let session := { session with
    state := session.state.filter fun key _ => keptBy removal key.space key.entity }
  let session := session.recomputeStateBytes
  { session with
    sequences := session.sequences.filter fun key _ => keptBy removal key.space key.entity }

/-- What the removal leaves of the session. -/
def dropRemoved (session : SessionState) (removal : Removal) : SessionState :=
  (removal.spaces.toList.foldl removeSpace (session.dropEntities removal)).dropKeys removal

/-- The removed entities that the session still holds, in the order of their ids. -/
def removedRecords (session : SessionState) (removal : Removal) : List EntityRecord :=
  (session.entities.toList.map Prod.snd).filter fun record => removal.entities.contains record.id

/-- The entry of `removed_owners` for one connection, zero where it has none. -/
def removedOwned (session : SessionState) (removal : Removal) (owner : ConnectionId) : Nat :=
  ((session.removedRecords removal).filter fun record => record.ownerConnection == owner).length

end SessionState

/-- Whether a queued message belongs to a session. -/
def OutboundMessage.inSession (message : OutboundMessage) (key : SessionKey) : Bool :=
  message.namespaceId == key.namespaceId && message.session == key.session

/-- Whether the removal discards a queued message of the session. -/
def OutboundMessage.removedBy (message : OutboundMessage) (key : SessionKey) (removal : Removal) :
    Bool :=
  message.inSession key &&
    (removal.spaces.contains message.space ||
      message.entity.any fun entity => removal.entities.contains entity)

namespace ConnectionState

/-- Drop messages from the queue of the connection. -/
def purgeOutbound (state : ConnectionState) (shouldRemove : OutboundMessage → Bool) :
    ConnectionState :=
  { state with outbound := state.outbound.purge shouldRemove }

/-- What the removal leaves of a connection that owned `owned` of the removed entities. -/
def dropRemoved (state : ConnectionState) (key : SessionKey) (removal : Removal) (owned : Nat) :
    ConnectionState :=
  { state with
    ownedEntities := state.ownedEntities - owned
    subscriptions := state.subscriptions.filter fun space =>
      space.session ≠ key || !removal.spaces.contains space.space }.purgeOutbound
    fun message => message.removedBy key removal

/-- What a leave takes from the connection itself. -/
def leave (state : ConnectionState) (key : SessionKey) : ConnectionState :=
  { state with
    memberships := state.memberships.erase key
    subscriptions := state.subscriptions.filter fun space => space.session ≠ key }.purgeOutbound
    fun message => message.inSession key

end ConnectionState

/-- What a leave takes from the session itself. -/
def SessionState.leave (session : SessionState) (connection : ConnectionId) : SessionState :=
  { session with
    members := session.members.erase connection
    subscribers := session.subscribers.map fun _ subscribers => subscribers.erase connection
    sequences := session.sequences.filter fun key _ => key.connection ≠ connection }

namespace WovenCore

/-- The messages a purge of every queue discards. -/
def purgedMessages (core : WovenCore) (shouldRemove : OutboundMessage → Bool) : Nat :=
  OrderedMap.total (fun _ state => state.outbound.purgedBy shouldRemove) core.connections

/-- The removal loop of a session, where the session exists. -/
def removalOf (core : WovenCore) (key : SessionKey) (initial : ExtTreeSet EntityId) : Removal :=
  match core.sessions[key]? with
  | some session => session.cascade initial
  | none => { entities := initial, spaces := ∅ }

/-- The state `remove_entities_and_anchored_spaces` leaves. -/
def dropRemoved (core : WovenCore) (key : SessionKey) (removal : Removal) : WovenCore :=
  let owned := fun connection =>
    (core.sessions[key]?).elim 0 fun session => session.removedOwned removal connection
  (core.modifySession key fun session => session.dropRemoved removal).mapConnections
    fun connection state => state.dropRemoved key removal (owned connection)

/-- The summary `remove_entities_and_anchored_spaces` returns. -/
def removalSummary (core : WovenCore) (key : SessionKey) (removal : Removal) : CleanupSummary :=
  let discarded := core.purgedMessages fun message => message.removedBy key removal
  match core.sessions[key]? with
  | none => { queuedMessagesDiscarded := discarded }
  | some session =>
    let removed := (session.removedRecords removal).map fun record =>
      { entity := record.id, session := key, space := record.space,
        spaceEpoch := record.spaceEpoch : RemovedEntity }
    { removedEntities := removed
      entitiesRemoved := removed.length
      spacesRemoved := removal.spaces.size
      subscriptionsRemoved := (removal.spaces.toList.map fun space =>
        ((session.subscribers[space]?).getD ∅).size).sum
      queuedMessagesDiscarded := discarded }

/-- `remove_entities_and_anchored_spaces`: entities go with all that hangs on them. -/
def removeEntitiesAndAnchoredSpaces (core : WovenCore) (key : SessionKey)
    (initial : ExtTreeSet EntityId) : CleanupSummary × WovenCore :=
  let removal := core.removalOf key initial
  (core.removalSummary key removal, core.dropRemoved key removal)

/-- The entities of a session that a test selects, as a set of ids. -/
def entitiesWhere (core : WovenCore) (key : SessionKey) (p : EntityRecord → Bool) :
    ExtTreeSet EntityId :=
  match core.sessions[key]? with
  | some session =>
    ExtTreeSet.ofList (((session.entities.toList.map Prod.snd).filter p).map EntityRecord.id)
  | none => ∅

/-- The last two blocks of `detach_connection_from_session`. -/
def dropMembership (core : WovenCore) (connection : ConnectionId) (key : SessionKey) : WovenCore :=
  (core.modifySession key fun session => session.leave connection).modifyConnection connection
    fun state => state.leave key

/-- What those two blocks add to the summary. -/
def membershipSummary (core : WovenCore) (connection : ConnectionId) (key : SessionKey) :
    CleanupSummary :=
  { membershipsRemoved :=
      (core.sessions[key]?).elim 0 fun session => if connection ∈ session.members then 1 else 0
    subscriptionsRemoved :=
      (core.sessions[key]?).elim 0 fun session =>
        OrderedMap.total (fun _ subscribers => if connection ∈ subscribers then 1 else 0)
          session.subscribers
    queuedMessagesDiscarded :=
      (core.connections[connection]?).elim 0 fun state =>
        state.outbound.purgedBy fun message => message.inSession key }

/-- `detach_connection_from_session`: the membership goes with all it has brought. -/
def detachConnectionFromSession (core : WovenCore) (connection : ConnectionId)
    (key : SessionKey) : CleanupSummary × WovenCore :=
  let owned := core.entitiesWhere key fun record => record.ownerConnection == connection
  let (summary, core) := core.removeEntitiesAndAnchoredSpaces key owned
  (summary.add (core.membershipSummary connection key), core.dropMembership connection key)

/-- `release_at` on the controller of a session, where it has one. -/
def releaseLease (core : WovenCore) (session : SessionKey) (lease : AdmissionLease)
    (reason : ReleaseReason) (now : Instant) : WovenCore :=
  { core with
    admissions := core.admissions.modify session fun controller =>
      controller.releaseAt lease reason now }

/-- `release_session_admission`: the lease of a membership is given back. -/
def releaseSessionAdmission (core : WovenCore) (connection : ConnectionId) (session : SessionKey)
    (reason : ReleaseReason) (now : Instant) : WovenCore :=
  match core.admissionLeases[(connection, session)]? with
  | none => core
  | some lease =>
    { core with admissionLeases := core.admissionLeases.erase (connection, session) }.releaseLease
      session lease reason now

/-- The release of one pending lease by `transport_lost`. -/
def releasePendingAdmission (core : WovenCore) (connection : ConnectionId) (session : SessionKey)
    (now : Instant) : WovenCore :=
  match core.pendingAdmissions[(connection, session)]? with
  | none => core
  | some lease =>
    { core with
      pendingAdmissions := core.pendingAdmissions.erase (connection, session) }.releaseLease
      session lease .intentional now

end WovenCore

/-- The readings of `Instant::now()` that releases take while one call runs. No two releases of
a call have the same reason, connection and session. -/
abbrev ReleaseClock := ReleaseReason → ConnectionId → SessionKey → Instant

namespace WovenCore

/-- One round of the membership loop of `transport_lost`. -/
def loseMembership (connection : ConnectionId) (clock : ReleaseClock)
    (acc : CleanupSummary × WovenCore) (key : SessionKey) : CleanupSummary × WovenCore :=
  let core := acc.2.releaseSessionAdmission connection key .unexpected
    (clock .unexpected connection key)
  let (summary, core) := core.detachConnectionFromSession connection key
  (acc.1.add summary, core)

/-- The sessions for which a connection holds a pending lease. -/
def pendingSessions (core : WovenCore) (connection : ConnectionId) : List SessionKey :=
  (core.pendingAdmissions.keys.filter fun slot => slot.1 == connection).map Prod.snd

/-- The pending loop of `transport_lost`. -/
def losePending (core : WovenCore) (connection : ConnectionId) (clock : ReleaseClock) :
    WovenCore :=
  (core.pendingSessions connection).foldl
    (fun core session =>
      core.releasePendingAdmission connection session (clock .intentional connection session))
    core

end WovenCore

/-- `transport_lost`. -/
def transportLost (connection : ConnectionId) (clock : ReleaseClock) : CoreM CleanupSummary := do
  validateConnectionId connection
  let core ← get
  let state ← (core.connections[connection]?).okOr (CoreError.unknownConnection connection)
  let (summary, core) :=
    state.memberships.toList.foldl (WovenCore.loseMembership connection clock) ({}, core)
  let core := core.losePending connection clock
  set core
  let state ← (core.connections[connection]?).okOr (CoreError.unknownConnection connection)
  set { core with connections := core.connections.erase connection }
  return { summary with
    queuedMessagesDiscarded := summary.queuedMessagesDiscarded + state.outbound.len }

end Signalweave
