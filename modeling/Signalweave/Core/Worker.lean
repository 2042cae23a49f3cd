import Signalweave.Core.Effects
import Signalweave.Core.Snapshot

/-!
# Commands (`worker.rs`)

What the transport asks of the core. A command carries what the environment supplies to it: the
readings of the clock and the number of the question to an authority.
-/

namespace Signalweave

open Stateful WovenCore

/-- What the transports ask the core for. -/
inductive Command where
  | transportConnected
  | authenticate (connection : ConnectionId) (credentials : Credentials)
  | joinSession (connection : ConnectionId) (session : SessionKey)
  | requestSessionAdmission (connection : ConnectionId) (session : SessionKey)
    (idempotencyKey : IdempotencyKey) (now : Instant)
  | joinSessionWithAdmission (connection : ConnectionId) (session : SessionKey)
    (lease : AdmissionLease)
  | leaveSession (connection : ConnectionId) (session : SessionKey) (now : Instant)
  | subscribe (connection : ConnectionId) (space : SpaceKey)
  | unsubscribe (connection : ConnectionId) (space : SpaceKey)
  | spawnEntity (connection : ConnectionId) (space : SpaceKey) (epoch : SpaceEpoch)
  | removeEntity (connection : ConnectionId) (session : SessionKey) (entity : EntityId)
  | updateEntityPosition (connection : ConnectionId) (session : SessionKey) (entity : EntityId)
    (position : EntityPosition)
  | transitionEntity (request : EntityTransitionRequest)
  | publish (request : PublishRequest) (now : Instant) (call : Nat) (clock : ReleaseClock)
  | snapshot (connection : ConnectionId) (session : SessionKey)
  | drainOutbound (connection : ConnectionId)
  | transportLost (connection : ConnectionId) (clock : ReleaseClock)

/-- What the core answers to a command. -/
inductive CommandResult where
  | connected (connection : ConnectionId)
  | authenticated (principal : PrincipalId)
  | joined
  | admission (decision : JoinDecision)
  | left (summary : CleanupSummary)
  | subscribed
  | unsubscribed (summary : CleanupSummary)
  | entitySpawned (entity : EntityId)
  | entityRemoved (summary : CleanupSummary)
  | entityPositionUpdated
  | entityTransitioned (transition : EntityTransition)
  | published (outcome : PublishOutcome)
  | snapshot (snapshot : SessionSnapshot)
  | outbound (messages : List OutboundMessage)
  | disconnected (summary : CleanupSummary)

namespace Command

/-- `TransportIndependentWorker::handle`. -/
def handle : Command → CoreM CommandResult
  | transportConnected => .connected <$> Signalweave.transportConnected
  | authenticate connection credentials =>
    .authenticated <$> Signalweave.authenticate connection credentials
  | joinSession connection session =>
    (fun _ => .joined) <$> Signalweave.joinSession connection session
  | requestSessionAdmission connection session idempotencyKey now =>
    .admission <$> Signalweave.requestSessionAdmissionAt connection session idempotencyKey now
  | joinSessionWithAdmission connection session lease =>
    (fun _ => .joined) <$> Signalweave.joinSessionWithAdmission connection session lease
  | leaveSession connection session now =>
    .left <$> Signalweave.leaveSession connection session now
  | subscribe connection space => (fun _ => .subscribed) <$> Signalweave.subscribe connection space
  | unsubscribe connection space => .unsubscribed <$> Signalweave.unsubscribe connection space
  | spawnEntity connection space epoch =>
    .entitySpawned <$> Signalweave.spawnEntity connection space epoch
  | removeEntity connection session entity =>
    .entityRemoved <$> Signalweave.removeEntity connection session entity
  | updateEntityPosition connection session entity position =>
    (fun _ => .entityPositionUpdated) <$>
      Signalweave.updateEntityPosition connection session entity position
  | transitionEntity request => .entityTransitioned <$> Signalweave.transitionEntity request
  | publish request now call clock =>
    .published <$> Signalweave.publishAt request now call clock
  | snapshot connection session => do
    let core ← get
    .snapshot <$> (Signalweave.snapshot core connection session : CoreM SessionSnapshot)
  | drainOutbound connection => .outbound <$> Signalweave.drainOutbound connection
  | transportLost connection clock => .disconnected <$> Signalweave.transportLost connection clock

/-- The operation that a command asks for, where it asks for one that can change the core. -/
def op : Command → Option Op
  | transportConnected => some .transportConnected
  | authenticate connection credentials => some (.authenticate connection credentials)
  | joinSession connection session => some (.joinSession connection session)
  | requestSessionAdmission connection session idempotencyKey now =>
    some (.requestSessionAdmissionAt connection session idempotencyKey now)
  | joinSessionWithAdmission connection session lease =>
    some (.joinSessionWithAdmission connection session lease)
  | leaveSession connection session now => some (.leaveSession connection session now)
  | subscribe connection space => some (.subscribe connection space)
  | unsubscribe connection space => some (.unsubscribe connection space)
  | spawnEntity connection space epoch => some (.spawnEntity connection space epoch)
  | removeEntity connection session entity => some (.removeEntity connection session entity)
  | updateEntityPosition connection session entity position =>
    some (.updateEntityPosition connection session entity position)
  | transitionEntity request => some (.transitionEntity request)
  | publish request now call clock => some (.publishAt request now call clock)
  | snapshot _ _ => none
  | drainOutbound connection => some (.drainOutbound connection)
  | transportLost connection clock => some (.transportLost connection clock)

variable {core core' : WovenCore} {command : Command}

theorem after_map {α β : Type} (f : α → β) (x : CoreM α) : after (f <$> x) core = after x core := by
  rcases returns_or_fails x core with ⟨a, h⟩ | ⟨e, h⟩
  · have hmap : Returns (f <$> x) core (f a) (after x core) := returns_map.mpr ⟨a, h, rfl⟩
    exact hmap.after_eq
  · have hmap : Fails (f <$> x) core e (after x core) := fails_map.mpr h
    exact hmap.after_eq

theorem after_snapshot {connection : ConnectionId} {session : SessionKey} :
    after (snapshot connection session).handle core = core := by
  have hends : Ends (snapshot connection session).handle core (fun _ core' => core' = core)
      fun _ core' => core' = core := by
    simp [handle]
  exact hends.after

/-- A command does to the core what its operation does. -/
theorem after_handle (core : WovenCore) (command : Command) :
    after command.handle core = command.op.elim core (step core) := by
  cases command with
  | snapshot => exact after_snapshot
  | joinSession | joinSessionWithAdmission | subscribe | updateEntityPosition => exact after_map _ _
  | _ => exact (after_map _ _).trans (after_discard _ _).symm

theorem reachable_handle (h : Reachable core) (command : Command) :
    Reachable (after command.handle core) := by
  rw [after_handle]
  cases command.op with
  | none => exact h
  | some op => exact Transition.Reachable.next h op

/-- The command takes nothing away. -/
def quiet (command : Command) : Prop := ∀ op ∈ command.op, op.quiet

/-- Whichever way it ends, a quiet command takes nothing away. -/
theorem keeps_handle (h : Reachable core) (hquiet : command.quiet) :
    core.Keeps (after command.handle core) := by
  rw [after_handle]
  cases hop : command.op with
  | none => exact Keeps.refl core
  | some op => exact (changes_step h.sound op).keeps h.sound (hquiet op hop)

end Command

end Signalweave
