import Signalweave.Transport.Adapter

/-!
# A request from its start to its end

What a request does to the core is what its operations and the clean-ups of its fan-out do; what it
sends goes to those that the registry has once it is handled.
-/

open Std

namespace Signalweave

open Stateful WovenCore

/-- The operation is one of a clean-up. -/
def Op.tidies : Op → Prop
  | .drainOutbound _ | .transportLost _ _ => True
  | _ => False

namespace Transport

open Protocol (Envelope)

/-- The operations that a request asks for. -/
def WorkerRequest.ops : WorkerRequest → List Op
  | .command asked => asked.op.toList
  | .subscribeAndSpawn connection space epoch =>
    [.subscribe connection space, .spawnEntity connection space epoch]
  | _ => []

/-- The request sends to no connection directly. -/
def WorkerRequest.indirect : WorkerRequest → Prop
  | .sendToConnection _ _ => False
  | _ => True

/-- One core comes of another by operations of a kind. -/
def LedBy (P : Op → Prop) (core core' : WovenCore) : Prop :=
  ∃ ops, (∀ op ∈ ops, P op) ∧ core' = Transition.run step core ops

variable {P Q : Op → Prop} {request : WorkerRequest} {core core' core'' : WovenCore}
  {worker : Worker} {state : Serving}

theorem LedBy.refl : LedBy P core core := ⟨[], by simp, rfl⟩

theorem LedBy.trans (h : LedBy P core core') (h' : LedBy P core' core'') : LedBy P core core'' := by
  obtain ⟨ops, hops, rfl⟩ := h
  obtain ⟨ops', hops', rfl⟩ := h'
  refine ⟨ops ++ ops', ?_, (Transition.run_append step core ops ops').symm⟩
  intro op hin
  rcases List.mem_append.mp hin with hin | hin
  · exact hops op hin
  · exact hops' op hin

theorem LedBy.one (op : Op) (hop : P op) : LedBy P core (step core op) :=
  ⟨[op], fun _ hin => List.mem_singleton.mp hin ▸ hop, rfl⟩

theorem LedBy.mono (h : LedBy P core core') (hPQ : ∀ op, P op → Q op) : LedBy Q core core' := by
  obtain ⟨ops, hops, rfl⟩ := h
  exact ⟨ops, fun op hin => hPQ op (hops op hin), rfl⟩

/-- What the operations keep, they keep together. -/
theorem LedBy.invariant (h : LedBy P core core') {J : WovenCore → Prop}
    (hstep : ∀ before op, P op → J before → J (step before op)) (hj : J core) : J core' := by
  obtain ⟨ops, hops, rfl⟩ := h
  exact Transition.run_invariant_of (fun before op hbefore hop => hstep before op hop hbefore) hj
    hops

theorem LedBy.reachable (h : LedBy P core core') (hcore : Reachable core) : Reachable core' :=
  h.invariant (J := Reachable) (fun _ op _ hbefore => Transition.Reachable.next hbefore op) hcore

/-! ## The request itself -/

theorem ledBy_handle :
    LedBy (· ∈ request.ops) worker.core (worker.handle request).1.core := by
  cases request with
  | command command =>
    rw [Worker.core_handle_command, Command.after_handle]
    cases hop : command.op with
    | none => exact .refl
    | some op =>
      refine .one op ?_
      show op ∈ command.op.toList
      rw [hop]
      exact List.mem_singleton_self op
  | subscribeAndSpawn connection space epoch =>
    have hsubscribe : LedBy (· ∈ WorkerRequest.ops (.subscribeAndSpawn connection space epoch))
        worker.core (after (subscribe connection space) worker.core) :=
      .one (.subscribe connection space) List.mem_cons_self
    unfold Worker.handle
    rcases returns_or_fails (subscribe connection space) worker.core with ⟨u, hends⟩ | ⟨e, hends⟩
    · have hresult : subscribe connection space worker.core = .ok u _ := hends
      simp only [hresult]
      generalize after (subscribe connection space) worker.core = middle at *
      have hspawn : LedBy (· ∈ WorkerRequest.ops (.subscribeAndSpawn connection space epoch))
          middle (step middle (.spawnEntity connection space epoch)) :=
        .one _ (List.mem_cons_of_mem _ List.mem_cons_self)
      rw [show step middle (.spawnEntity connection space epoch) = _ from
        after_discard _ _] at hspawn
      rcases returns_or_fails (spawnEntity connection space epoch) middle with
        ⟨entity, hends'⟩ | ⟨e, hends'⟩
      · have hresult' : spawnEntity connection space epoch middle = .ok entity _ := hends'
        simp only [hresult']
        exact hsubscribe.trans hspawn
      · have hresult' : spawnEntity connection space epoch middle = .error e _ := hends'
        simp only [hresult']
        exact hsubscribe.trans hspawn
    · have hresult : subscribe connection space worker.core = .error e _ := hends
      simp only [hresult]
      exact hsubscribe
  | _ => exact .refl

theorem indirect_apply (action : LifecycleAction) (result : CommandResult)
    (connection : ConnectionId) (envelope : Envelope) :
    .deliver connection envelope ∉ (applyLifecycleAction worker action result).2 := by
  unfold applyLifecycleAction
  split <;> simp [distributeRemovedEntities, distributeRemovedEntity, distributeTransition]

theorem indirect_handle (h : request.indirect) (connection : ConnectionId) (envelope : Envelope) :
    .deliver connection envelope ∉ (worker.handle request).2.1 := by
  cases request with
  | command command =>
    unfold Worker.handle
    dsimp only
    split
    · exact indirect_apply _ _ connection envelope
    · exact List.not_mem_nil
  | subscribeAndSpawn c space epoch =>
    unfold Worker.handle
    dsimp only
    split
    · split
      · simp
      · exact List.not_mem_nil
    · exact List.not_mem_nil
  | broadcastToSpace space sent exclude => simp [Worker.handle]
  | sendToConnection => exact h.elim
  | registerLifecycle | activateSubscription | liveCounts => exact List.not_mem_nil

/-! ## Its fan-out -/

/-- What holds of a worker from the start of a request to its end. -/
structure Along (worker : Worker) (request : WorkerRequest) (state : Serving) : Prop where
  core : LedBy Op.tidies (worker.handle request).1.core state.worker.core
  recorded : ∀ c s, state.worker.Recorded c s → (worker.handle request).1.Recorded c s
  sent : ∀ entry ∈ state.sent, ∃ s, (worker.handle request).1.Recorded entry.1 s
  reply : state.reply = (worker.handle request).2.2
  indirect : ∀ c envelope, .deliver c envelope ∉ state.tasks

theorem core_cleanup (connection : ConnectionId) (clock : ReleaseClock) (rest : List Task) :
    (state.cleanupDeadConnection connection clock rest).worker.core =
      step (step state.worker.core (.drainOutbound connection))
        (.transportLost connection clock) := by
  have hdrained : after (Command.drainOutbound connection).handle state.worker.core =
      step state.worker.core (.drainOutbound connection) :=
    Command.after_handle _ (.drainOutbound connection)
  have hlost := Command.after_handle (step state.worker.core (.drainOutbound connection))
    (.transportLost connection clock)
  rw [← hdrained] at hlost ⊢
  refine Eq.trans ?_ hlost
  unfold Serving.cleanupDeadConnection
  dsimp only
  show _ = after _ (after (Command.drainOutbound connection).handle
    (state.worker.forget connection).core)
  rcases returns_or_fails (Command.transportLost connection clock).handle
    (after (Command.drainOutbound connection).handle (state.worker.forget connection).core) with
      ⟨result, hends⟩ | ⟨e, hends⟩
  · have hresult : (Command.transportLost connection clock).handle _ = .ok result _ := hends
    rw [hresult]
    cases result <;> rfl
  · have hresult : (Command.transportLost connection clock).handle _ = .error e _ := hends
    rw [hresult]

theorem sent_cleanup (connection : ConnectionId) (clock : ReleaseClock) (rest : List Task) :
    (state.cleanupDeadConnection connection clock rest).sent = state.sent := by
  unfold Serving.cleanupDeadConnection
  dsimp only
  split <;> rfl

theorem worker_cleanup (connection : ConnectionId) (clock : ReleaseClock) (rest : List Task) :
    ∃ core, (state.cleanupDeadConnection connection clock rest).worker =
      { state.worker.forget connection with core } := by
  unfold Serving.cleanupDeadConnection
  dsimp only
  split <;> exact ⟨_, rfl⟩

theorem Along.work (h : Along worker request state) (accepts : ConnectionId → Bool)
    (clock : ReleaseClock) : Along worker request (state.work accepts clock) := by
  obtain ⟨hreply, hindirect⟩ := @Serving.work_quiet _ accepts clock h.indirect
  refine ⟨?_, ?_, ?_, hreply.trans h.reply, hindirect⟩
  all_goals
    unfold Serving.work
    cases htasks : state.tasks with
    | nil => first | exact h.core | exact h.recorded | exact h.sent
    | cons task rest => ?_
  all_goals cases task with
    | deliver c envelope =>
      refine absurd ?_ (h.indirect c envelope)
      rw [htasks]
      exact List.mem_cons_self
    | _ => ?_
  · exact h.core
  · rename_i connection
    show LedBy Op.tidies _ (Serving.cleanupDeadConnection _ _ _ _).worker.core
    rw [core_cleanup]
    exact (h.core.trans (.one (.drainOutbound connection) trivial)).trans
      (.one (.transportLost connection clock) trivial)
  · exact h.recorded
  · rename_i connection
    intro c s hrecorded
    obtain ⟨core, hworker⟩ := @worker_cleanup state connection clock rest
    replace hrecorded : (Serving.cleanupDeadConnection _ _ _ _).worker.Recorded c s := hrecorded
    rw [hworker] at hrecorded
    exact h.recorded c s (Worker.recorded_forget.mp hrecorded).1
  · rename_i space envelope excluded
    intro entry hin
    rcases List.mem_append.mp hin with hin | hin
    · exact h.sent entry hin
    · obtain ⟨c, hc, rfl⟩ := List.mem_map.mp hin
      exact ⟨space, h.recorded c space (Worker.mem_targets.mp (List.mem_filter.mp hc).1).2.1⟩
  · rename_i connection
    intro entry hin
    replace hin : entry ∈ (Serving.cleanupDeadConnection _ _ _ _).sent := hin
    rw [sent_cleanup] at hin
    exact h.sent entry hin

theorem along_serve (h : request.indirect) (works : List ((ConnectionId → Bool) × ReleaseClock)) :
    Along worker request (worker.serve request works) := by
  have hhandled : Along worker request ((Serving.idle worker).serve request).look := by
    refine ⟨.refl, fun _ _ => id, ?_, rfl, indirect_handle h⟩
    exact fun entry hin => absurd hin List.not_mem_nil
  have hrun : ∀ (works : List ((ConnectionId → Bool) × ReleaseClock)) (state : Serving),
      Along worker request state → Along worker request (Transition.run Serving.step state
        (works.map fun work => .work work.1 work.2)) := by
    intro works
    induction works with
    | nil => exact fun state h => h
    | cons work rest ih =>
      intro state halong
      have hnext := halong.work work.1 work.2
      exact ih _ ⟨hnext.core, hnext.recorded, hnext.sent, hnext.reply, hnext.indirect⟩
  exact hrun works _ hhandled

theorem ledBy_serve (h : request.indirect)
    (works : List ((ConnectionId → Bool) × ReleaseClock)) :
    LedBy (fun op => op ∈ request.ops ∨ op.tidies) worker.core
      (worker.serve request works).worker.core :=
  (ledBy_handle.mono fun _ => Or.inl).trans ((along_serve h works).core.mono fun _ => Or.inr)

/-- What a command returns is the answer to it. -/
theorem returns_of_executed {command : Command} {result : CommandResult}
    {works : List ((ConnectionId → Bool) × ReleaseClock)}
    (h : executed (worker.serve (.command command) works).reply = .ok result) :
    Returns command.handle worker.core result (after command.handle worker.core) := by
  rw [(@along_serve (.command command) worker trivial works).reply] at h
  unfold Worker.handle at h
  rcases returns_or_fails command.handle worker.core with ⟨answer, hends⟩ | ⟨error, hends⟩
  · have hresult : command.handle worker.core = .ok answer _ := hends
    simp only [hresult] at h
    cases h
    exact hends
  · have hresult : command.handle worker.core = .error error _ := hends
    simp only [hresult] at h
    cases h

/-! ## The registry -/

theorem recorded_of_amend {connection c : ConnectionId} {s : SpaceKey}
    {f : ExtTreeSet SpaceKey → ExtTreeSet SpaceKey}
    (hf : ∀ spaces space, space ∈ f spaces → space ∈ spaces)
    (h : (worker.amend connection f).Recorded c s) : worker.Recorded c s := by
  obtain ⟨spaces, hspaces, hin⟩ := Worker.recorded_amend.mp h
  refine ⟨spaces, hspaces, ?_⟩
  split at hin
  · exact hf spaces s hin
  · exact hin

theorem recorded_apply {action : LifecycleAction} {result : CommandResult} {c : ConnectionId}
    {s : SpaceKey} (h : (applyLifecycleAction worker action result).1.Recorded c s) :
    worker.Recorded c s ∨ action = .subscribe c s := by
  unfold applyLifecycleAction at h
  split at h
  · rcases Worker.recorded_record.mp h with ⟨rfl, rfl⟩ | hbefore
    · exact .inr rfl
    · exact .inl hbefore
  · exact .inl (recorded_of_amend (fun _ _ hin => (OrderedSet.mem_erase.mp hin).2) h)
  · exact .inl (recorded_of_amend (fun _ _ hin => (OrderedSet.mem_filter.mp hin).1) h)
  · exact .inl h
  · exact .inl h
  · exact .inl h
  · exact .inl (Worker.recorded_forget.mp h).1
  · exact .inl h

/-- The registry gets a space for a connection by its activation alone, and by a subscription that
comes as a command. -/
theorem recorded_handle {c : ConnectionId} {s : SpaceKey}
    (h : (worker.handle request).1.Recorded c s) :
    worker.Recorded c s ∨ request = .activateSubscription c s ∨
      request = .command (.subscribe c s) := by
  cases request with
  | command command =>
    unfold Worker.handle at h
    dsimp only at h
    split at h
    · rcases recorded_apply h with hbefore | haction
      · exact .inl hbefore
      · cases command <;> simp_all [lifecycleAction]
    · exact .inl h
  | registerLifecycle connection => exact .inl (Worker.recorded_register.mp h)
  | subscribeAndSpawn connection space epoch =>
    unfold Worker.handle at h
    dsimp only at h
    split at h
    · split at h <;> exact .inl h
    · exact .inl h
  | activateSubscription connection space =>
    rcases Worker.recorded_record.mp h with ⟨rfl, rfl⟩ | hbefore
    · exact .inr (.inl rfl)
    · exact .inl hbefore
  | broadcastToSpace | sendToConnection | liveCounts => exact .inl h

end Transport

end Signalweave
