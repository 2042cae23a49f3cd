import Signalweave.Core.Worker
import Signalweave.Library.Transition
import Signalweave.Transport.Bridge

/-!
# The worker (`woven-transport`)

One task owns the core and serves the requests of all transports one after the other. Next to the
core it keeps a registry: who can be sent lifecycle envelopes, and for which spaces. Sending one can
find a write channel closed or full; then the connection is cleaned up, which may remove entities
and call for more envelopes before the next one is sent. What is left to do of a request is kept
here as the stack of these calls, so that each of them is a step of its own.
-/

open Std

namespace Signalweave.Transport

open Protocol (EntityLeaveReason Envelope)
open Stateful WovenCore

/-- Why the worker refuses a request. -/
inductive TransportError where
  | workerUnavailable
  | core (error : CoreError)
  | unknownConnection

/-- What is asked of the worker. -/
inductive WorkerRequest where
  | command (command : Command)
  | registerLifecycle (connection : ConnectionId)
  | subscribeAndSpawn (connection : ConnectionId) (space : SpaceKey) (epoch : SpaceEpoch)
  | activateSubscription (connection : ConnectionId) (space : SpaceKey)
  | broadcastToSpace (space : SpaceKey) (envelope : Envelope) (exclude : Option ConnectionId)
  | sendToConnection (connection : ConnectionId) (envelope : Envelope)
  | liveCounts

/-- What a request is answered with. -/
inductive WorkerReply where
  | command (result : Except CoreError CommandResult)
  | done
  | spawned (result : Except CoreError EntityId)
  | sent (result : Except TransportError Unit)
  | counts (connectionsActive sessionsActive : Nat)

/-- What a command asks of the registry when it succeeds. -/
inductive LifecycleAction where
  | none
  | subscribe (connection : ConnectionId) (space : SpaceKey)
  | unsubscribe (connection : ConnectionId) (space : SpaceKey)
  | leaveSession (connection : ConnectionId) (session : SessionKey)
  | spawn (space : SpaceKey) (epoch : SpaceEpoch)
  | removeEntity
  | transition
  | transportLost (connection : ConnectionId)

/-- `lifecycle_action`. -/
def lifecycleAction : Command → LifecycleAction
  | .subscribe connection space => .subscribe connection space
  | .unsubscribe connection space => .unsubscribe connection space
  | .leaveSession connection session _ => .leaveSession connection session
  | .spawnEntity _ space epoch => .spawn space epoch
  | .removeEntity .. => .removeEntity
  | .transitionEntity _ => .transition
  | .transportLost connection _ => .transportLost connection
  | .transportConnected | .authenticate .. | .joinSession .. | .requestSessionAdmission ..
  | .joinSessionWithAdmission .. | .updateEntityPosition .. | .publish .. | .snapshot ..
  | .drainOutbound _ => .none

/-- The core and the registry. Of a recipient only matters that there is one. -/
structure Worker where
  core : WovenCore
  recipients : ExtTreeSet ConnectionId := ∅
  subscriptions : ExtTreeMap ConnectionId (ExtTreeSet SpaceKey) := ∅

/-- A call of the fan-out that has not returned. -/
inductive Task where
  | distribute (space : SpaceKey) (envelope : Envelope) (excluded : Option ConnectionId)
  | deliver (connection : ConnectionId) (envelope : Envelope)
  | cleanup (connection : ConnectionId)

/-! ## The registry -/

namespace Worker

/-- `subscriptions.entry(connection).or_default().insert(space)` -/
def record (worker : Worker) (connection : ConnectionId) (space : SpaceKey) : Worker :=
  { worker with
    subscriptions := worker.subscriptions.insert connection
      (((worker.subscriptions[connection]?).getD ∅).insert space) }

/-- `subscriptions.get_mut(&connection)`, then the change. -/
def amend (worker : Worker) (connection : ConnectionId)
    (f : ExtTreeSet SpaceKey → ExtTreeSet SpaceKey) : Worker :=
  { worker with subscriptions := worker.subscriptions.modify connection f }

/-- The registry forgets a connection. -/
def forget (worker : Worker) (connection : ConnectionId) : Worker :=
  { worker with
    recipients := worker.recipients.erase connection
    subscriptions := worker.subscriptions.erase connection }

/-- `RegisterLifecycle` -/
def register (worker : Worker) (connection : ConnectionId) : Worker :=
  { worker with
    recipients := worker.recipients.insert connection
    subscriptions :=
      if connection ∈ worker.subscriptions then worker.subscriptions
      else worker.subscriptions.insert connection ∅ }

/-- The recipients among the subscribers that the registry has for a space, in its order. -/
def targets (worker : Worker) (space : SpaceKey) (excluded : Option ConnectionId) :
    List ConnectionId :=
  (worker.subscriptions.toList.filterMap fun entry =>
    if excluded ≠ some entry.1 ∧ space ∈ entry.2 then some entry.1 else none).filter
      fun connection => connection ∈ worker.recipients

end Worker

/-! ## Lifecycle envelopes -/

/-- `distribute_removed_entity`. -/
def distributeRemovedEntity (reason : EntityLeaveReason) (removed : RemovedEntity) : Task :=
  let space : SpaceKey := ⟨removed.session, removed.space⟩
  .distribute space (entityLeftEnvelope space removed.spaceEpoch removed.entity reason) none

/-- `distribute_removed_entities`. -/
def distributeRemovedEntities (summary : CleanupSummary) (reason : EntityLeaveReason) : List Task :=
  summary.removedEntities.map (distributeRemovedEntity reason)

/-- `distribute_transition`: those left behind are told first. -/
def distributeTransition (transition : EntityTransition) : List Task :=
  let source : SpaceKey := ⟨transition.session, transition.sourceSpace⟩
  let destination : SpaceKey := ⟨transition.session, transition.destinationSpace⟩
  [.distribute source
      (entityLeftEnvelope source transition.sourceEpoch transition.entity .transitioned) none,
    .distribute destination
      (entityEnteredEnvelope destination transition.destinationEpoch transition.entity) none]

/-- `apply_lifecycle_action`: what becomes of the registry, and what is to be sent. -/
def applyLifecycleAction (worker : Worker) : LifecycleAction → CommandResult → Worker × List Task
  | .subscribe connection space, .subscribed => (worker.record connection space, [])
  | .unsubscribe connection space, .unsubscribed summary =>
    (worker.amend connection (·.erase space), distributeRemovedEntities summary .removed)
  | .leaveSession connection session, .left summary =>
    (worker.amend connection (·.filter fun space => decide (space.session ≠ session)),
      distributeRemovedEntities summary .removed)
  | .spawn space epoch, .entitySpawned entity =>
    (worker, [.distribute space (entityEnteredEnvelope space epoch entity) none])
  | .removeEntity, .entityRemoved summary => (worker, distributeRemovedEntities summary .removed)
  | .transition, .entityTransitioned transition => (worker, distributeTransition transition)
  | .transportLost connection, .disconnected summary =>
    (worker.forget connection, distributeRemovedEntities summary .disconnected)
  | _, _ => (worker, [])

/-! ## Serving -/

/-- A worker on its way through requests. `request` is the one it is serving or has served last;
`opened` is the core from before it and `sent` the envelopes that it has put on channels. For each
entity that was there at some point since then, `places` has the space it was in last. -/
structure Serving where
  worker : Worker
  tasks : List Task := []
  request : Option WorkerRequest := none
  reply : Option WorkerReply := none
  opened : WovenCore
  sent : List (ConnectionId × Envelope) := []
  places : SessionKey → EntityId → Option SpaceId

/-- What happens next: a request is taken, or the worker makes the next call. `accepts` are the
connections whose channels have room, `clock` holds the readings that a disconnect takes. -/
inductive WorkerEvent where
  | request (request : WorkerRequest)
  | work (accepts : ConnectionId → Bool) (clock : ReleaseClock)

/-- The space in which an entity is. -/
def placeIn (core : WovenCore) (key : SessionKey) (id : EntityId) : Option SpaceId :=
  ((core.sessionAt key).entities[id]?).map EntityRecord.space

/-- What a request does before anything is sent: the registry and the core after it, what is then
to be sent, and the answer as far as it does not depend on what can be sent. -/
def Worker.handle (worker : Worker) : WorkerRequest → Worker × List Task × Option WorkerReply
  | .command command =>
    match command.handle worker.core with
    | .ok result core =>
      let (worker, tasks) :=
        applyLifecycleAction { worker with core } (lifecycleAction command) result
      (worker, tasks, some (.command (.ok result)))
    | .error error core => ({ worker with core }, [], some (.command (.error error)))
  | .registerLifecycle connection => (worker.register connection, [], some .done)
  | .subscribeAndSpawn connection space epoch =>
    match subscribe connection space worker.core with
    | .ok _ core =>
      match spawnEntity connection space epoch core with
      | .ok entity core =>
        ({ worker with core },
          [.distribute space (entityEnteredEnvelope space epoch entity) (some connection)],
          some (.spawned (.ok entity)))
      | .error error core => ({ worker with core }, [], some (.spawned (.error error)))
    | .error error core => ({ worker with core }, [], some (.spawned (.error error)))
  | .activateSubscription connection space => (worker.record connection space, [], some .done)
  | .broadcastToSpace space envelope exclude =>
    (worker, [.distribute space envelope exclude], some .done)
  | .sendToConnection connection envelope =>
    (worker, [.deliver connection envelope], none)
  | .liveCounts =>
    (worker, [], some (.counts worker.core.connections.size worker.core.sessions.size))

namespace Serving

/-- A worker with a core that has been set up, before its first request. -/
def start (core : WovenCore) : Serving where
  worker := { core }
  opened := core
  places := placeIn core

/-- The entities of the core are where they are, the others where they were last. -/
def look (state : Serving) : Serving :=
  { state with
    places := fun key id => (placeIn state.worker.core key id).or (state.places key id) }

/-- The worker takes the next request. -/
def serve (state : Serving) (request : WorkerRequest) : Serving :=
  let (worker, tasks, reply) := state.worker.handle request
  { worker
    tasks
    request := some request
    reply
    opened := state.worker.core
    places := placeIn state.worker.core }

theorem serve_eq (state : Serving) (request : WorkerRequest) : state.serve request =
    { worker := (state.worker.handle request).1
      tasks := (state.worker.handle request).2.1
      request := some request
      reply := (state.worker.handle request).2.2
      opened := state.worker.core
      places := placeIn state.worker.core } := rfl

/-- `cleanup_dead_connection` -/
def cleanupDeadConnection (state : Serving) (connection : ConnectionId) (clock : ReleaseClock)
    (rest : List Task) : Serving :=
  let worker := state.worker.forget connection
  let drained := after (Command.drainOutbound connection).handle worker.core
  match (Command.transportLost connection clock).handle drained with
  | .ok (.disconnected summary) core =>
    { state with
      worker := { worker with core }
      tasks := distributeRemovedEntities summary .disconnected ++ rest }
  | .ok _ core | .error _ core => { state with worker := { worker with core }, tasks := rest }

/-- `distribute_to_space_excluding` up to its clean-ups: who has no room for the envelope is to be
cleaned up. -/
def distributeToSpaceExcluding (state : Serving) (space : SpaceKey) (envelope : Envelope)
    (excluded : Option ConnectionId) (accepts : ConnectionId → Bool) (rest : List Task) : Serving :=
  let targets := state.worker.targets space excluded
  { state with
    sent := state.sent ++ (targets.filter accepts).map fun connection => (connection, envelope)
    tasks := (targets.filter fun connection => !accepts connection).map .cleanup ++ rest }

/-- `deliver_to_connection`. -/
def deliverToConnection (state : Serving) (connection : ConnectionId) (envelope : Envelope)
    (accepts : ConnectionId → Bool) (rest : List Task) : Serving :=
  if connection ∈ state.worker.recipients then
    if accepts connection then
      { state with
        sent := state.sent ++ [(connection, envelope)]
        tasks := rest
        reply := some (.sent (.ok ())) }
    else
      { state with
        tasks := .cleanup connection :: rest
        reply := some (.sent (.error .unknownConnection)) }
  else { state with tasks := rest, reply := some (.sent (.error .unknownConnection)) }

/-- The next call of the fan-out. -/
def work (state : Serving) (accepts : ConnectionId → Bool) (clock : ReleaseClock) : Serving :=
  match state.tasks with
  | [] => state
  | .distribute space envelope excluded :: rest =>
    state.distributeToSpaceExcluding space envelope excluded accepts rest
  | .deliver connection envelope :: rest =>
    state.deliverToConnection connection envelope accepts rest
  | .cleanup connection :: rest => state.cleanupDeadConnection connection clock rest

/-- A request waits until the one before it has been served to its end. -/
def step (state : Serving) : WorkerEvent → Serving
  | .request request =>
    match state.tasks with
    | [] => (state.serve request).look
    | _ => state
  | .work accepts clock => (state.work accepts clock).look

end Serving

/-! ## Reading the registry -/

namespace Worker

variable {worker : Worker} {connection c : ConnectionId} {space s : SpaceKey}
  {excluded : Option ConnectionId}

/-- The registry has the space for the connection. -/
def Recorded (worker : Worker) (connection : ConnectionId) (space : SpaceKey) : Prop :=
  ∃ spaces, worker.subscriptions[connection]? = some spaces ∧ space ∈ spaces

theorem Recorded.mem (h : worker.Recorded connection space) :
    connection ∈ worker.subscriptions := by
  obtain ⟨spaces, hspaces, -⟩ := h
  exact OrderedMap.mem_of_getElem? hspaces

theorem mem_targets : c ∈ worker.targets space excluded ↔
    excluded ≠ some c ∧ worker.Recorded c space ∧ c ∈ worker.recipients := by
  unfold targets Recorded
  rw [List.mem_filter, List.mem_filterMap]
  simp only [Option.ite_none_right_eq_some, Option.some.injEq, decide_eq_true_eq, Prod.exists,
    ExtTreeMap.mem_toList_iff_getElem?_eq_some]
  grind

theorem nodup_targets : (worker.targets space excluded).Nodup := by
  unfold targets
  refine List.Nodup.filter _ ?_
  have hkeys := ExtTreeMap.distinct_keys_toList (t := worker.subscriptions)
  refine List.Pairwise.filterMap _ ?_ hkeys
  intro entry entry' hne c hc c' hc'
  simp only [Option.ite_none_right_eq_some, Option.some.injEq] at hc hc'
  rintro rfl
  apply hne
  rw [hc.2, hc'.2]
  exact compare_self

theorem mem_subscriptions_record : c ∈ (worker.record connection space).subscriptions ↔
    c = connection ∨ c ∈ worker.subscriptions := OrderedMap.mem_insert

theorem recorded_record : (worker.record connection space).Recorded c s ↔
    (c = connection ∧ s = space) ∨ worker.Recorded c s := by
  unfold Recorded record
  simp only [OrderedMap.getElem?_insert]
  by_cases hc : c = connection
  · subst hc
    simp only [if_true, Option.some.injEq, exists_eq_left', OrderedSet.mem_insert, true_and]
    cases worker.subscriptions[c]? with
    | none => simp
    | some spaces => simp
  · simp [hc]

theorem mem_subscriptions_amend {f : ExtTreeSet SpaceKey → ExtTreeSet SpaceKey} :
    c ∈ (worker.amend connection f).subscriptions ↔ c ∈ worker.subscriptions :=
  ExtTreeMap.mem_modify

theorem recorded_amend {f : ExtTreeSet SpaceKey → ExtTreeSet SpaceKey} :
    (worker.amend connection f).Recorded c s ↔ ∃ spaces, worker.subscriptions[c]? = some spaces ∧
      s ∈ if c = connection then f spaces else spaces := by
  unfold Recorded amend
  simp only [OrderedMap.getElem?_modify]
  by_cases hc : c = connection
  · simp [hc]
  · simp [hc]

theorem mem_subscriptions_forget : c ∈ (worker.forget connection).subscriptions ↔
    c ∈ worker.subscriptions ∧ c ≠ connection := by
  unfold forget
  rw [OrderedMap.mem_erase, and_comm]

theorem recorded_forget : (worker.forget connection).Recorded c s ↔
    worker.Recorded c s ∧ c ≠ connection := by
  unfold Recorded forget
  simp only [OrderedMap.getElem?_erase]
  by_cases hc : c = connection
  · simp [hc]
  · simp [hc]

theorem mem_recipients_forget : c ∈ (worker.forget connection).recipients ↔
    c ∈ worker.recipients ∧ c ≠ connection := by
  unfold forget
  rw [OrderedSet.mem_erase, and_comm]

theorem mem_subscriptions_register : c ∈ (worker.register connection).subscriptions ↔
    c = connection ∨ c ∈ worker.subscriptions := by
  unfold register
  dsimp only
  split
  · rename_i hin
    constructor
    · exact Or.inr
    · rintro (rfl | hin)
      · assumption
      · exact hin
  · exact OrderedMap.mem_insert

theorem recorded_register : (worker.register connection).Recorded c s ↔ worker.Recorded c s := by
  unfold Recorded register
  dsimp only
  split
  · rfl
  · rename_i hnew
    rw [OrderedMap.getElem?_insert]
    split
    · rename_i hc
      subst hc
      have hnone : worker.subscriptions[c]? = none := by simpa using hnew
      simp [hnone]
    · rfl

end Worker

/-! ## One call -/

namespace Serving

variable {state : Serving} {connection c : ConnectionId} {clock : ReleaseClock} {rest : List Task}
  {accepts : ConnectionId → Bool}

/-- Draining the queue of a connection matters to nothing but the queue. -/
theorem drained_same (core : WovenCore) (connection : ConnectionId) :
    let drained := after (Command.drainOutbound connection).handle core
    drained.sessions = core.sessions ∧
      (∀ c, c ∈ drained.connections ↔ c ∈ core.connections) ∧
      ∀ c, (drained.connectionAt c).subscriptions = (core.connectionAt c).subscriptions := by
  have hends : Ends (drainOutbound connection) core
      (fun _ drained => drained.sessions = core.sessions ∧
        (∀ c, c ∈ drained.connections ↔ c ∈ core.connections) ∧
        ∀ c, (drained.connectionAt c).subscriptions = (core.connectionAt c).subscriptions)
      fun _ drained => drained.sessions = core.sessions ∧
        (∀ c, c ∈ drained.connections ↔ c ∈ core.connections) ∧
        ∀ c, (drained.connectionAt c).subscriptions = (core.connectionAt c).subscriptions := by
    refine drainOutbound_ends.mono ?_ ?_
    · rintro messages drained ⟨-, -, rfl⟩
      refine ⟨rfl, fun c => mem_connections_modifyConnection, ?_⟩
      intro c
      rw [connectionAt_modifyConnection]
      split <;> rfl
    · rintro e drained ⟨rfl, -⟩
      exact ⟨rfl, fun _ => Iff.rfl, fun _ => rfl⟩
  have hafter : after (Command.drainOutbound connection).handle core =
      after (drainOutbound connection) core := Command.after_map _ _
  rw [hafter]
  exact hends.after

/-- The two ends of a clean-up: the connection is lost, or the core does not know it. -/
theorem cleanupDeadConnection_cases (h : Reachable state.worker.core) (connection : ConnectionId)
    (clock : ReleaseClock) (rest : List Task) :
    (∃ summary core', connection ∈ state.worker.core.connections ∧ Reachable core' ∧
      Loses state.worker.core core' connection summary.removedEntities ∧
      state.cleanupDeadConnection connection clock rest = { state with
        worker := { state.worker.forget connection with core := core' }
        tasks := distributeRemovedEntities summary .disconnected ++ rest }) ∨
    ∃ core', connection ∉ state.worker.core.connections ∧ Reachable core' ∧
      state.worker.core.Keeps core' ∧ core'.sessions = state.worker.core.sessions ∧
      (∀ c, c ∈ core'.connections ↔ c ∈ state.worker.core.connections) ∧
      state.cleanupDeadConnection connection clock rest = { state with
        worker := { state.worker.forget connection with core := core' }
        tasks := rest } := by
  have hdrained := Command.reachable_handle h (.drainOutbound connection)
  obtain ⟨hsessions, hlive, hsubscriptions⟩ := drained_same state.worker.core connection
  have hlost := @transportLost_loses _ connection hdrained.sound.consistent clock
  have hreachable := Command.reachable_handle hdrained (.transportLost connection clock)
  unfold cleanupDeadConnection
  dsimp only
  generalize hcore : after (Command.drainOutbound connection).handle
    (state.worker.forget connection).core = drained
  have hcore' : after (Command.drainOutbound connection).handle state.worker.core = drained := hcore
  rw [hcore'] at hdrained hsessions hlive hsubscriptions hlost hreachable
  rcases returns_or_fails (transportLost connection clock) drained with
    ⟨summary, hends⟩ | ⟨e, hends⟩
  · have hresult : (Command.transportLost connection clock).handle drained =
        .ok (.disconnected summary) (after (transportLost connection clock) drained) :=
      returns_map.mpr ⟨summary, hends, rfl⟩
    obtain ⟨hknown, -, hloses⟩ := hlost.returns hends
    left
    rw [hresult]
    refine ⟨summary, _, (hlive _).mp hknown, ?_, hloses.of_sessions hsessions hlive hsubscriptions,
      rfl⟩
    rwa [show after (Command.transportLost connection clock).handle drained = _ from
      Command.after_map _ _] at hreachable
  · have hresult : (Command.transportLost connection clock).handle drained =
        .error e (after (transportLost connection clock) drained) :=
      fails_map.mpr hends
    obtain ⟨hsame, hunknown⟩ := hlost.fails hends
    right
    rw [hresult]
    refine ⟨_, ?_, ?_, ?_, ?_, ?_, rfl⟩
    · rcases hunknown with hzero | hdead
      · intro hknown
        have hpos := (h.sound.consistent.connectionIds _ hknown).1
        rw [hzero] at hpos
        exact Nat.lt_irrefl _ hpos
      · exact fun hknown => hdead ((hlive _).mpr hknown)
    · rw [hsame]
      exact hdrained
    · rw [hsame]
      refine ⟨fun c hin => (hlive c).mpr hin, ?_, ?_⟩
      · intro c spaceKey hin
        rwa [hsubscriptions]
      · intro key id hin
        rwa [WovenCore.sessionAt, hsessions, ← WovenCore.sessionAt]
    · rw [hsame, hsessions]
    · rw [hsame]
      exact hlive

end Serving

/-! ## One request -/

namespace Worker

variable {worker : Worker}

/-- A command is handled in one of the two ways in which its operation ends. -/
theorem handle_of_ends {α : Type} {command : Command} {x : CoreM α} {f : α → CommandResult}
    (hhandle : command.handle = f <$> x) {Q : α → WovenCore → Prop}
    {E : CoreError → WovenCore → Prop} (h : Ends x worker.core Q E)
    {P : Worker × List Task × Option WorkerReply → Prop}
    (haccepted : ∀ a core', Q a core' →
      P ((applyLifecycleAction { worker with core := core' } (lifecycleAction command) (f a)).1,
        (applyLifecycleAction { worker with core := core' } (lifecycleAction command) (f a)).2,
        some (.command (.ok (f a)))))
    (hrefused : ∀ error core', E error core' →
      P ({ worker with core := core' }, [], some (.command (.error error)))) :
    P (worker.handle (.command command)) := by
  unfold handle
  rcases returns_or_fails x worker.core with ⟨a, hends⟩ | ⟨error, hends⟩
  · have hresult : command.handle worker.core = .ok (f a) (after x worker.core) := by
      rw [hhandle]
      exact returns_map.mpr ⟨a, hends, rfl⟩
    simp only [hresult]
    exact haccepted a _ (h.returns hends)
  · have hresult : command.handle worker.core = .error error (after x worker.core) := by
      rw [hhandle]
      exact fails_map.mpr hends
    simp only [hresult]
    exact hrefused error _ (h.fails hends)

@[simp] theorem core_applyLifecycleAction (action : LifecycleAction) (result : CommandResult) :
    (applyLifecycleAction worker action result).1.core = worker.core := by
  unfold applyLifecycleAction
  split <;> rfl

/-- Who may subscribe is subscribed then. -/
theorem subscribed_of_allowed {core core' : WovenCore} {connection : ConnectionId}
    {space : SpaceKey} (hallowed : SubscribeAllowed core connection space)
    (hcore : core' = if space ∈ (core.connectionAt connection).subscriptions then core
      else core.subscribe connection space) :
    space ∈ (core'.connectionAt connection).subscriptions := by
  rw [hcore]
  split
  · assumption
  · rw [WovenCore.subscribe, connectionAt_modifySession, connectionAt_modifyConnection,
      if_pos ⟨rfl, mem_connections_of_membership hallowed.member⟩]
    exact OrderedSet.mem_insert.mpr (Or.inl rfl)

/-- The three ends of a subscription with a spawn. -/
theorem handle_subscribeAndSpawn (h : Reachable worker.core) {connection : ConnectionId}
    {space : SpaceKey} {epoch : SpaceEpoch} {P : Worker × List Task × Option WorkerReply → Prop}
    (hrefused : ∀ error, ¬ SubscribeAllowed worker.core connection space →
      P (worker, [], some (.spawned (.error error))))
    (hstopped : ∀ error core', Reachable core' → SubscribeAllowed worker.core connection space →
      core' = (if space ∈ (worker.core.connectionAt connection).subscriptions then worker.core
        else worker.core.subscribe connection space) →
      ¬ SpawnAllowed core' connection space epoch →
        P ({ worker with core := core' }, [], some (.spawned (.error error))))
    (hspawned : ∀ core' core'' principal, Reachable core' → Reachable core'' →
      SubscribeAllowed worker.core connection space →
      core' = (if space ∈ (worker.core.connectionAt connection).subscriptions then worker.core
        else worker.core.subscribe connection space) →
      SpawnAllowed core' connection space epoch →
      core'' = core'.spawn connection space epoch principal →
        P ({ worker with core := core'' },
          [.distribute space (entityEnteredEnvelope space epoch ⟨core'.nextEntityId⟩)
            (some connection)], some (.spawned (.ok ⟨core'.nextEntityId⟩)))) :
    P (worker.handle (.subscribeAndSpawn connection space epoch)) := by
  have hsubscribed : Reachable (after (subscribe connection space) worker.core) :=
    Transition.Reachable.next h (.subscribe connection space)
  unfold handle
  rcases returns_or_fails (subscribe connection space) worker.core with ⟨u, hends⟩ | ⟨error, hends⟩
  · have hresult : subscribe connection space worker.core = .ok u _ := hends
    obtain ⟨hallowed, hcore⟩ := (subscribe_ends h.sound.consistent).returns hends
    simp only [hresult]
    generalize after (subscribe connection space) worker.core = core' at *
    have hspawn := @spawnEntity_ends core' connection space epoch hsubscribed.sound.consistent
      hallowed.id hallowed.space (subscribed_of_allowed hallowed hcore)
    have hreachable : Reachable (after (spawnEntity connection space epoch) core') := by
      have hstep := Transition.Reachable.next hsubscribed (.spawnEntity connection space epoch)
      rwa [show step core' (.spawnEntity connection space epoch) = _ from after_discard _ _]
        at hstep
    rcases returns_or_fails (spawnEntity connection space epoch) core' with
      ⟨entity, hends'⟩ | ⟨error, hends'⟩
    · have hresult' : spawnEntity connection space epoch core' = .ok entity _ := hends'
      obtain ⟨hspawns, hentity, principal, hcore'⟩ := hspawn.returns hends'
      simp only [hresult']
      rw [hentity]
      exact hspawned core' _ principal hsubscribed hreachable hallowed hcore hspawns hcore'
    · have hresult' : spawnEntity connection space epoch core' = .error error _ := hends'
      obtain ⟨hnot, hcore'⟩ := hspawn.fails hends'
      simp only [hresult']
      rw [hcore']
      exact hstopped error core' hsubscribed hallowed hcore hnot
  · have hresult : subscribe connection space worker.core = .error error _ := hends
    obtain ⟨hnot, hcore⟩ := (subscribe_ends h.sound.consistent).fails hends
    simp only [hresult]
    rw [hcore]
    exact hrefused error hnot

/-- The registry does not matter to what a command does to the core. -/
theorem core_handle_command (command : Command) :
    (worker.handle (.command command)).1.core = after command.handle worker.core := by
  unfold handle
  rcases returns_or_fails command.handle worker.core with ⟨result, hends⟩ | ⟨error, hends⟩
  · have hresult : command.handle worker.core = .ok result _ := hends
    simp only [hresult]
    exact core_applyLifecycleAction _ _
  · have hresult : command.handle worker.core = .error error _ := hends
    simp only [hresult]

theorem reachable_handle (h : Reachable worker.core) (request : WorkerRequest) :
    Reachable (worker.handle request).1.core := by
  cases request with
  | command command =>
    rw [core_handle_command]
    exact Command.reachable_handle h command
  | subscribeAndSpawn connection space epoch =>
    apply handle_subscribeAndSpawn (P := fun answer => Reachable answer.1.core) h
    · exact fun _ _ => h
    · exact fun _ _ hreachable _ _ _ => hreachable
    · exact fun _ _ _ _ hreachable _ _ _ _ => hreachable
  | _ => exact h

end Worker

namespace Serving

variable {state : Serving}

/-- A delivery changes only what is sent and what is still to be done. -/
@[simp] theorem worker_deliverToConnection {connection : ConnectionId} {envelope : Envelope}
    {accepts : ConnectionId → Bool} {rest : List Task} :
    (state.deliverToConnection connection envelope accepts rest).worker = state.worker := by
  unfold deliverToConnection
  split
  · split <;> rfl
  · rfl

/-- The worker never leaves the reachable states of the core. -/
theorem reachable_step (h : Reachable state.worker.core) (event : WorkerEvent) :
    Reachable (state.step event).worker.core := by
  cases event with
  | request request =>
    unfold step
    dsimp only
    split
    · exact Worker.reachable_handle h request
    · exact h
  | work accepts clock =>
    show Reachable (state.work accepts clock).worker.core
    unfold work
    split
    · exact h
    · exact h
    · rw [worker_deliverToConnection]
      exact h
    · rename_i connection rest _
      rcases cleanupDeadConnection_cases h connection clock rest with
        ⟨summary, core', -, hcore', -, heq⟩ | ⟨core', -, hcore', -, -, -, heq⟩
      · rw [heq]
        exact hcore'
      · rw [heq]
        exact hcore'

end Serving

end Signalweave.Transport
