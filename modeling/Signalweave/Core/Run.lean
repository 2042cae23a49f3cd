import Signalweave.Core.Publish
import Signalweave.Library.Transition

/-!
# Runs of the core

The public operations of `WovenCore` as data, with what the environment supplies to each of
them: clock readings and the number of the question to an authority. A run is any list of them.
-/

open Std

namespace Signalweave

/-- The public operations that can change the core. -/
inductive Op where
  | registerChannel (channel : ChannelDefinition)
  | provisionSession (key : SessionKey)
  | configureSessionAdmission (key : SessionKey) (metadata : AdmissionMetadata)
    (policy : QueuePolicy) (capacity : CapacityUpdate)
  | applySessionCapacityAt (key : SessionKey) (update : CapacityUpdate) (now : Instant)
  | requestSessionAdmissionAt (connection : ConnectionId) (key : SessionKey)
    (idempotencyKey : IdempotencyKey) (now : Instant)
  | installSpace (key : SessionKey) (descriptor : SpaceDescriptor)
  | advanceSpaceEpoch (key : SessionKey) (space : SpaceId) (proposed : SpaceEpoch)
  | transportConnected
  | authenticate (connection : ConnectionId) (credentials : Credentials)
  | joinSession (connection : ConnectionId) (key : SessionKey)
  | joinSessionWithAdmission (connection : ConnectionId) (key : SessionKey)
    (lease : AdmissionLease)
  | leaveSession (connection : ConnectionId) (key : SessionKey) (now : Instant)
  | subscribe (connection : ConnectionId) (spaceKey : SpaceKey)
  | unsubscribe (connection : ConnectionId) (spaceKey : SpaceKey)
  | spawnEntity (connection : ConnectionId) (spaceKey : SpaceKey) (epoch : SpaceEpoch)
  | updateEntityPosition (connection : ConnectionId) (key : SessionKey) (entity : EntityId)
    (position : EntityPosition)
  | removeEntity (connection : ConnectionId) (key : SessionKey) (entity : EntityId)
  | transitionEntity (request : EntityTransitionRequest)
  | publishAt (request : PublishRequest) (now : Instant) (call : Nat) (clock : ReleaseClock)
  | drainOutbound (connection : ConnectionId)
  | popJournalRecord
  | transportLost (connection : ConnectionId) (clock : ReleaseClock)

/-- The operation, its answer left out. -/
def Op.call : Op → CoreM Unit
  | .registerChannel channel => Signalweave.registerChannel channel
  | .provisionSession key => Signalweave.provisionSession key
  | .configureSessionAdmission key metadata policy capacity =>
    Signalweave.configureSessionAdmission key metadata policy capacity
  | .applySessionCapacityAt key update now => do
    let _ ← Signalweave.applySessionCapacityAt key update now
  | .requestSessionAdmissionAt connection key idempotencyKey now => do
    let _ ← Signalweave.requestSessionAdmissionAt connection key idempotencyKey now
  | .installSpace key descriptor => Signalweave.installSpace key descriptor
  | .advanceSpaceEpoch key space proposed => do
    let _ ← Signalweave.advanceSpaceEpoch key space proposed
  | .transportConnected => do let _ ← Signalweave.transportConnected
  | .authenticate connection credentials => do
    let _ ← Signalweave.authenticate connection credentials
  | .joinSession connection key => Signalweave.joinSession connection key
  | .joinSessionWithAdmission connection key lease =>
    Signalweave.joinSessionWithAdmission connection key lease
  | .leaveSession connection key now => do let _ ← Signalweave.leaveSession connection key now
  | .subscribe connection spaceKey => Signalweave.subscribe connection spaceKey
  | .unsubscribe connection spaceKey => do let _ ← Signalweave.unsubscribe connection spaceKey
  | .spawnEntity connection spaceKey epoch => do
    let _ ← Signalweave.spawnEntity connection spaceKey epoch
  | .updateEntityPosition connection key entity position =>
    Signalweave.updateEntityPosition connection key entity position
  | .removeEntity connection key entity => do
    let _ ← Signalweave.removeEntity connection key entity
  | .transitionEntity request => do let _ ← Signalweave.transitionEntity request
  | .publishAt request now call clock => do let _ ← Signalweave.publishAt request now call clock
  | .drainOutbound connection => do let _ ← Signalweave.drainOutbound connection
  | .popJournalRecord => do let _ ← Signalweave.popJournalRecord
  | .transportLost connection clock => do let _ ← Signalweave.transportLost connection clock

/-- The core after an operation, whichever way the operation ends. -/
def step (core : WovenCore) (op : Op) : WovenCore := Stateful.after op.call core

/-- A core that `WovenCore::new` has just built. -/
def Initial (core : WovenCore) : Prop :=
  ∃ authenticator config, WovenCore.new authenticator config = .ok core

/-- The states a core gets to by any list of operations, each successful or failing. -/
def Reachable : WovenCore → Prop := Transition.Reachable step Initial

end Signalweave
