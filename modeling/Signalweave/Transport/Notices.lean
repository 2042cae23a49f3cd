import Signalweave.Transport.Worker

/-!
# What a connection is told

The envelopes about an entity in a space that have been put on the channel of a connection, and
those that the calls which have not returned are still to put there. As long as the connection is
not found dead, the two together change only where a clean-up adds to them.
-/

open Std

namespace Signalweave.Transport

open Protocol (EntityLeaveReason Envelope MessagePayload)
open Stateful WovenCore

/-! ## Notices -/

/-- What an envelope says of an entity in a space: that it has entered it, or that it has left
it. -/
def announces (envelope : Envelope) (space : SpaceKey) (entity : EntityId) : Option Bool :=
  if envelopeSpace envelope = space ∧ envelope.entityId = some entity.get then
    match envelope.message with
    | .control (.entityEntered _) => some true
    | .control (.entityLeft _) => some false
    | _ => none
  else none

theorem announces_entityEntered {space s : SpaceKey} {epoch : SpaceEpoch} {entity e : EntityId} :
    announces (entityEnteredEnvelope space epoch entity) s e =
      if space = s ∧ entity = e then some true else none := by
  have hentity : some entity.get = some e.get ↔ entity = e := by
    rw [Option.some.injEq]
    exact ⟨fun h => by cases entity; cases e; exact congrArg _ h, fun h => h ▸ rfl⟩
  show (if _ ∧ some entity.get = some e.get then _ else _) = _
  simp only [hentity]
  rfl

theorem announces_entityLeft {space s : SpaceKey} {epoch : SpaceEpoch} {entity e : EntityId}
    {reason : EntityLeaveReason} : announces (entityLeftEnvelope space epoch entity reason) s e =
      if space = s ∧ entity = e then some false else none := by
  have hentity : some entity.get = some e.get ↔ entity = e := by
    rw [Option.some.injEq]
    exact ⟨fun h => by cases entity; cases e; exact congrArg _ h, fun h => h ▸ rfl⟩
  show (if _ ∧ some entity.get = some e.get then _ else _) = _
  simp only [hentity]
  rfl

/-- Whether a call has an entity enter a space, or leave it. -/
def Task.announces : Task → SpaceKey → EntityId → Option Bool
  | .distribute _ envelope _, space, entity => Transport.announces envelope space entity
  | .deliver _ envelope, space, entity => Transport.announces envelope space entity
  | .cleanup _, _, _ => none

namespace Worker

/-- Whom a call puts an envelope on the channel of, as far as their channels have room. -/
def addressees (worker : Worker) : Task → List ConnectionId
  | .distribute space _ excluded => worker.targets space excluded
  | .deliver connection _ => if connection ∈ worker.recipients then [connection] else []
  | .cleanup _ => []

/-- What calls are to tell a connection of an entity in a space. -/
def coming (worker : Worker) (tasks : List Task) (c : ConnectionId) (space : SpaceKey)
    (entity : EntityId) : List Bool :=
  tasks.filterMap fun task =>
    if c ∈ worker.addressees task then task.announces space entity else none

end Worker

namespace Serving

/-- What a connection has been told of an entity in a space since the request was taken. -/
def heard (state : Serving) (c : ConnectionId) (space : SpaceKey) (entity : EntityId) : List Bool :=
  state.sent.filterMap fun entry =>
    if entry.1 = c then announces entry.2 space entity else none

/-- What it has been told and is to be told. -/
def notices (state : Serving) (c : ConnectionId) (space : SpaceKey) (entity : EntityId) :
    List Bool :=
  state.heard c space entity ++ state.worker.coming state.tasks c space entity

/-- The connection is registered for the space, and has not been found dead. -/
structure Audience (state : Serving) (c : ConnectionId) (space : SpaceKey) : Prop where
  recipient : c ∈ state.worker.recipients
  recorded : state.worker.Recorded c space
  alive : .cleanup c ∉ state.tasks

end Serving

/-! ## The calls -/

namespace Worker

variable {worker worker' : Worker} {tasks tasks' : List Task} {c connection : ConnectionId}
  {space : SpaceKey} {entity : EntityId}

theorem coming_append : worker.coming (tasks ++ tasks') c space entity =
    worker.coming tasks c space entity ++ worker.coming tasks' c space entity :=
  List.filterMap_append

theorem coming_cons {task : Task} : worker.coming (task :: tasks) c space entity =
    (if c ∈ worker.addressees task then task.announces space entity else none).toList ++
      worker.coming tasks c space entity := by
  unfold coming
  rw [List.filterMap_cons]
  cases (if c ∈ worker.addressees task then task.announces space entity else none) <;> rfl

/-- The last that one call is to tell. -/
theorem getLast?_coming_singleton {task : Task} {b : Bool} :
    (worker.coming [task] c space entity).getLast? = some b ↔
      c ∈ worker.addressees task ∧ task.announces space entity = some b := by
  rw [coming_cons]
  by_cases hc : c ∈ worker.addressees task
  · rw [if_pos hc]
    cases task.announces space entity <;> simp [coming, hc]
  · rw [if_neg hc]
    simp [coming, hc]

theorem coming_cleanup (connections : List ConnectionId) :
    worker.coming (connections.map .cleanup) c space entity = [] := by
  unfold coming
  rw [List.filterMap_eq_nil_iff]
  intro task htask
  obtain ⟨connection, -, rfl⟩ := List.mem_map.mp htask
  simp [addressees]

theorem coming_congr (h : ∀ task, c ∈ worker'.addressees task ↔ c ∈ worker.addressees task) :
    worker'.coming tasks c space entity = worker.coming tasks c space entity := by
  unfold coming
  simp only [h]

/-- Forgetting a connection changes nothing for another one. -/
theorem mem_addressees_forget (hc : c ≠ connection) (core : WovenCore) (task : Task) :
    c ∈ addressees { worker.forget connection with core := core } task ↔
      c ∈ worker.addressees task := by
  cases task with
  | distribute space envelope excluded =>
    show c ∈ (worker.forget connection).targets space excluded ↔ c ∈ worker.targets space excluded
    rw [mem_targets, mem_targets, recorded_forget, mem_recipients_forget]
    tauto
  | deliver connection' envelope =>
    show c ∈ (if connection' ∈ (worker.forget connection).recipients then [connection'] else []) ↔
      c ∈ (if connection' ∈ worker.recipients then [connection'] else [])
    by_cases hc' : c = connection'
    · subst hc'
      simp [mem_recipients_forget, hc]
    · have hnot : ∀ p : Prop, ∀ _ : Decidable p, c ∉ (if p then [connection'] else []) := by
        intro p _
        split <;> simp [hc']
      exact iff_of_false (hnot _ _) (hnot _ _)
  | cleanup => exact Iff.rfl

/-- What is announced of removed entities. -/
theorem coming_distributeRemoved (removed : List RemovedEntity) (reason : EntityLeaveReason)
    (hrecipient : c ∈ worker.recipients) (hrecorded : worker.Recorded c space) :
    worker.coming (removed.map (distributeRemovedEntity reason)) c space entity =
      List.replicate (timesRemoved removed space entity) false := by
  induction removed with
  | nil => rfl
  | cons entry rest ih =>
    rw [List.map_cons, coming_cons, ih]
    unfold distributeRemovedEntity timesRemoved
    rw [List.countP_cons]
    simp only [Task.announces, announces_entityLeft, addressees, Bool.and_eq_true, beq_iff_eq]
    by_cases hentry : (⟨entry.session, entry.space⟩ : SpaceKey) = space ∧ entry.entity = entity
    · obtain ⟨rfl, rfl⟩ := hentry
      have htarget : c ∈ worker.targets ⟨entry.session, entry.space⟩ none :=
        mem_targets.mpr ⟨nofun, hrecorded, hrecipient⟩
      simp [htarget, List.replicate_succ]
    · have hother : ¬ ((entry.session = space.session ∧ entry.space = space.space) ∧
          entry.entity = entity) := by
        rintro ⟨⟨hsession, hspace⟩, hentity⟩
        exact hentry ⟨by rw [hsession, hspace], hentity⟩
      simp [hentry, hother]

end Worker

/-- In a list without repetitions a connection is found at most once. -/
theorem filterMap_single {α : Type} {list : List ConnectionId} (h : list.Nodup) (c : ConnectionId)
    (o : Option α) : (list.filterMap fun x => if x = c then o else none) =
      if c ∈ list then o.toList else [] := by
  induction list with
  | nil => rfl
  | cons x rest ih =>
    obtain ⟨hx, hrest⟩ := List.nodup_cons.mp h
    rw [List.filterMap_cons, ih hrest]
    by_cases hc : x = c
    · subst hc
      cases o <;> simp [hx]
    · simp [hc, Ne.symm hc]

namespace Serving

variable {state : Serving} {c connection : ConnectionId} {space s : SpaceKey} {entity : EntityId}
  {accepts : ConnectionId → Bool} {clock : ReleaseClock} {rest : List Task} {envelope : Envelope}
  {excluded : Option ConnectionId}

/-- Who is not found dead is told what was to come. -/
theorem notices_distribute (htasks : state.tasks = .distribute space envelope excluded :: rest)
    (halive : .cleanup c ∉
      (state.distributeToSpaceExcluding space envelope excluded accepts rest).tasks) :
    (state.distributeToSpaceExcluding space envelope excluded accepts rest).notices c s entity =
      state.notices c s entity := by
  have haccepted : c ∈ (state.worker.targets space excluded).filter accepts ↔
      c ∈ state.worker.targets space excluded := by
    rw [List.mem_filter]
    refine ⟨And.left, fun hin => ⟨hin, ?_⟩⟩
    by_contra hfull
    apply halive
    refine List.mem_append_left _ (List.mem_map_of_mem (List.mem_filter.mpr ⟨hin, ?_⟩))
    simpa using hfull
  have hsent : ((((state.worker.targets space excluded).filter accepts).map
      fun connection => (connection, envelope)).filterMap fun entry =>
        if entry.1 = c then announces entry.2 s entity else none) =
      (if c ∈ state.worker.targets space excluded then announces envelope s entity
        else none).toList := by
    have hnodup : ((state.worker.targets space excluded).filter accepts).Nodup :=
      Worker.nodup_targets.filter _
    rw [List.filterMap_map]
    refine (filterMap_single hnodup c (announces envelope s entity)).trans ?_
    simp only [haccepted]
    split <;> rfl
  unfold notices heard distributeToSpaceExcluding
  dsimp only
  rw [List.filterMap_append, hsent, htasks, Worker.coming_append, Worker.coming_cleanup,
    Worker.coming_cons, List.nil_append, List.append_assoc]
  rfl

theorem notices_deliver (htasks : state.tasks = .deliver connection envelope :: rest)
    (halive : .cleanup c ∉ (state.deliverToConnection connection envelope accepts rest).tasks) :
    (state.deliverToConnection connection envelope accepts rest).notices c s entity =
      state.notices c s entity := by
  unfold deliverToConnection at halive ⊢
  by_cases hknown : connection ∈ state.worker.recipients
  · rw [if_pos hknown] at halive ⊢
    by_cases hroom : accepts connection = true
    · rw [if_pos hroom]
      unfold notices heard
      dsimp only
      rw [List.filterMap_append, htasks, Worker.coming_cons, List.append_assoc]
      congr 2
      simp only [Worker.addressees, hknown, Task.announces]
      by_cases hc : connection = c
      · subst hc
        cases hannounced : announces envelope s entity <;> simp [hannounced]
      · simp [hc, Ne.symm hc]
    · rw [if_neg hroom] at halive ⊢
      have hc : c ≠ connection := by
        rintro rfl
        exact halive List.mem_cons_self
      unfold notices heard
      dsimp only
      rw [htasks, Worker.coming_cons, Worker.coming_cons]
      simp [Worker.addressees, hknown, hc]
  · rw [if_neg hknown]
    unfold notices heard
    dsimp only
    rw [htasks, Worker.coming_cons]
    simp [Worker.addressees, hknown]

theorem mem_tasks_deliver {task : Task} (h : task ∈ rest) :
    task ∈ (state.deliverToConnection connection envelope accepts rest).tasks := by
  unfold deliverToConnection
  split
  · split
    · exact h
    · exact List.mem_cons_of_mem _ h
  · exact h

/-- A delivery finds nobody alive who was not. -/
theorem audience_deliver (htasks : state.tasks = .deliver connection envelope :: rest)
    (h : (state.deliverToConnection connection envelope accepts rest).Audience c s) :
    state.Audience c s := by
  refine ⟨?_, ?_, ?_⟩
  · simpa using h.recipient
  · simpa using h.recorded
  · rw [htasks]
    intro hin
    exact h.alive (mem_tasks_deliver (by simpa using hin))

/-- Forgetting one connection registers nobody else. -/
theorem audience_forget {core : WovenCore} {tasks : List Task}
    (htasks : state.tasks = .cleanup connection :: rest)
    (h : Audience { state with
      worker := { state.worker.forget connection with core }
      tasks } c s) (halive : .cleanup c ∉ rest) :
    c ≠ connection ∧ state.Audience c s ∧
      ∀ s, (state.worker.forget connection).Recorded c s ↔ state.worker.Recorded c s := by
  obtain ⟨hrecipient, hc⟩ := Worker.mem_recipients_forget.mp h.recipient
  refine ⟨hc, ⟨hrecipient, (Worker.recorded_forget.mp h.recorded).1, ?_⟩, fun s =>
    Worker.recorded_forget.trans (and_iff_left hc)⟩
  rw [htasks]
  intro hin
  rcases List.mem_cons.mp hin with heq | hin
  · exact hc (by injection heq)
  · exact halive hin

/-- A cleanup tells nobody anything itself. -/
theorem coming_cleanup_cons : state.worker.coming (.cleanup connection :: rest) c s entity =
    state.worker.coming rest c s entity := by
  rw [Worker.coming_cons]
  simp [Worker.addressees]

/-- What a call does to the core and to what is told: nothing, or it loses a connection and
announces what is removed with it before anything else. -/
theorem work_cases (h : Reachable state.worker.core) (accepts : ConnectionId → Bool)
    (clock : ReleaseClock) :
    ((state.work accepts clock).worker.core.sessions = state.worker.core.sessions ∧
      state.worker.core.Keeps (state.work accepts clock).worker.core ∧
      (∀ c, c ∈ (state.work accepts clock).worker.core.connections ↔
        c ∈ state.worker.core.connections) ∧
      ∀ c space, (state.work accepts clock).Audience c space → state.Audience c space ∧
        (∀ s, (state.work accepts clock).worker.Recorded c s ↔ state.worker.Recorded c s) ∧
        ∀ entity, (state.work accepts clock).notices c space entity =
          state.notices c space entity) ∨
    ∃ connection rest removed, state.tasks = .cleanup connection :: rest ∧
      Loses state.worker.core (state.work accepts clock).worker.core connection removed ∧
      ∀ c space, (state.work accepts clock).Audience c space → c ≠ connection ∧
        state.Audience c space ∧
        (∀ s, (state.work accepts clock).worker.Recorded c s ↔ state.worker.Recorded c s) ∧
        ∀ entity, (state.work accepts clock).notices c space entity =
          state.heard c space entity ++ (List.replicate (timesRemoved removed space entity) false ++
            state.worker.coming state.tasks c space entity) := by
  unfold work
  cases htasks : state.tasks with
  | nil => exact Or.inl ⟨rfl, Keeps.refl _, fun _ => Iff.rfl, fun c space haudience =>
      ⟨haudience, fun _ => Iff.rfl, fun _ => rfl⟩⟩
  | cons task rest =>
    cases task with
    | distribute space envelope excluded =>
      refine Or.inl ⟨rfl, Keeps.refl _, fun _ => Iff.rfl,
        fun c s haudience => ⟨⟨haudience.recipient,
        haudience.recorded, ?_⟩, fun _ => Iff.rfl,
        fun entity => notices_distribute htasks haudience.alive⟩⟩
      rw [htasks]
      intro hin
      refine haudience.alive (List.mem_append_right _ ?_)
      simpa using hin
    | deliver connection envelope =>
      dsimp only
      rw [worker_deliverToConnection]
      exact Or.inl ⟨rfl, Keeps.refl _, fun _ => Iff.rfl, fun c s haudience =>
        ⟨audience_deliver htasks haudience, fun _ => Iff.rfl,
        fun entity => notices_deliver htasks haudience.alive⟩⟩
    | cleanup connection =>
      -- Another connection is told of the removals first, and then what it was to be told anyway.
      dsimp only
      rcases cleanupDeadConnection_cases h connection clock rest with
        ⟨summary, core', -, -, hloses, heq⟩ | ⟨core', -, -, hkeeps, hsessions, hlive, heq⟩
      · rw [heq]
        refine Or.inr ⟨connection, rest, summary.removedEntities, rfl, hloses, ?_⟩
        intro c s haudience
        obtain ⟨hc, hbefore, hrecorded⟩ := audience_forget htasks haudience fun hin =>
          haudience.alive (List.mem_append_right _ hin)
        refine ⟨hc, hbefore, hrecorded, fun entity => ?_⟩
        unfold notices heard
        dsimp only
        rw [Worker.coming_append, distributeRemovedEntities,
          Worker.coming_distributeRemoved _ _ haudience.recipient haudience.recorded,
          coming_cleanup_cons, Worker.coming_congr (Worker.mem_addressees_forget hc core')]
      · rw [heq]
        refine Or.inl ⟨hsessions, hkeeps, hlive, fun c s haudience => ?_⟩
        obtain ⟨hc, hbefore, hrecorded⟩ := audience_forget htasks haudience haudience.alive
        refine ⟨hbefore, hrecorded, fun entity => ?_⟩
        unfold notices heard
        dsimp only
        rw [htasks, coming_cleanup_cons,
          Worker.coming_congr (Worker.mem_addressees_forget hc core')]

/-- A call changes neither what the request found nor what was seen of it before. -/
theorem work_frame : (state.work accepts clock).request = state.request ∧
    (state.work accepts clock).opened = state.opened ∧
    (state.work accepts clock).places = state.places := by
  unfold work
  split
  · exact ⟨rfl, rfl, rfl⟩
  · exact ⟨rfl, rfl, rfl⟩
  · unfold deliverToConnection
    split
    · split <;> exact ⟨rfl, rfl, rfl⟩
    · exact ⟨rfl, rfl, rfl⟩
  · unfold cleanupDeadConnection
    dsimp only
    split <;> exact ⟨rfl, rfl, rfl⟩

@[simp] theorem request_work : (state.work accepts clock).request = state.request := work_frame.1

@[simp] theorem opened_work : (state.work accepts clock).opened = state.opened := work_frame.2.1

@[simp] theorem places_work : (state.work accepts clock).places = state.places := work_frame.2.2

end Serving

/-! ## Requests that only remove -/

/-- What is gone is listed once, with the space it was in, and what is there is not listed. -/
structure Lists (core core' : WovenCore) (removed : List RemovedEntity) : Prop where
  gone : ∀ key (id : EntityId) record, (core.sessionAt key).entities[id]? = some record →
    id ∉ (core'.sessionAt key).entities → timesRemoved removed ⟨key, record.space⟩ id = 1
  kept : ∀ key id space, id ∈ (core'.sessionAt key).entities →
    timesRemoved removed ⟨key, space⟩ id = 0

theorem Lists.of_removes {core core' : WovenCore} {falls : SessionKey → EntityId → Prop}
    {removed : List RemovedEntity} (h : Removes core core' falls removed) :
    Lists core core' removed where
  gone key id record hrecord hgone := by
    have hfalls : falls key id := by
      by_contra hnot
      exact hgone (OrderedMap.mem_of_getElem? (h.kept key id record hrecord hnot))
    rw [h.listed key id record record.space hrecord hfalls, if_pos rfl]
  kept key id space hin := by
    apply timesRemoved_eq_zero
    rintro entry hentry hsession rfl
    have hfalls := h.only entry hentry
    rw [hsession] at hfalls
    exact h.gone _ _ hfalls hin

theorem lists_nil {core core' : WovenCore} (h : ∀ key id, id ∈ (core.sessionAt key).entities →
    id ∈ (core'.sessionAt key).entities) : Lists core core' [] where
  gone key id _ hrecord hgone := absurd (h key id (OrderedMap.mem_of_getElem? hrecord)) hgone
  kept _ _ _ _ := rfl

/-- Whatever has been removed is to be announced, and nothing else is. -/
def Worker.Announces (worker : Worker) (answer : Worker × List Task × Option WorkerReply) : Prop :=
  ∃ removed reason, answer.2.1 = removed.map (distributeRemovedEntity reason) ∧
    Lists worker.core answer.1.core removed

/-- The request announces removals only. -/
def WorkerRequest.plain : WorkerRequest → Prop
  | .command (.publish ..) | .command (.spawnEntity ..) | .command (.transitionEntity _)
  | .subscribeAndSpawn .. | .broadcastToSpace .. | .sendToConnection .. => False
  | _ => True

namespace Worker

variable {worker : Worker}

theorem announces_quiet (h : Reachable worker.core) {command : Command} (hquiet : command.quiet)
    (hnone : ∀ worker result,
      (applyLifecycleAction worker (lifecycleAction command) result).2 = []) :
    worker.Announces (worker.handle (.command command)) := by
  have hkeeps := command.keeps_handle h hquiet
  unfold Announces handle
  rcases returns_or_fails command.handle worker.core with ⟨result, hends⟩ | ⟨error, hends⟩
  · have hresult : command.handle worker.core = .ok result _ := hends
    simp only [hresult]
    refine ⟨[], .removed, hnone _ _, ?_⟩
    rw [core_applyLifecycleAction]
    exact lists_nil hkeeps.entities
  · have hresult : command.handle worker.core = .error error _ := hends
    simp only [hresult]
    exact ⟨[], .removed, rfl, lists_nil hkeeps.entities⟩

theorem announces_plain (h : Reachable worker.core) {request : WorkerRequest}
    (hplain : request.plain) : worker.Announces (worker.handle request) := by
  have hconsistent := h.sound.consistent
  have hrefused : ∀ core', core' = worker.core → Lists worker.core core' [] := by
    rintro core' rfl
    exact lists_nil fun _ _ => id
  cases request with
  | command command =>
    cases command with
    | publish => exact hplain.elim
    | spawnEntity => exact hplain.elim
    | transitionEntity => exact hplain.elim
    | leaveSession connection session now =>
      apply handle_of_ends (P := worker.Announces) rfl leaveSession_ends
      · rintro summary core' ⟨hallowed, rfl, rfl⟩
        exact ⟨_, .removed, rfl, Lists.of_removes (removes_leave hconsistent hallowed.member)⟩
      · rintro error core' ⟨-, hsame⟩
        exact ⟨[], .removed, rfl, hrefused core' hsame⟩
    | removeEntity connection session entity =>
      apply handle_of_ends (P := worker.Announces) rfl removeEntity_ends
      · rintro summary core' ⟨hallowed, rfl, rfl⟩
        obtain ⟨record, hrecord, -⟩ := hallowed.owned
        refine ⟨_, .removed, rfl, Lists.of_removes (removes_dropRemoved hconsistent
          (hconsistent.mem_sessions hallowed.member) fun id hin => ?_)⟩
        obtain rfl : entity = id := by simpa using hin
        exact OrderedMap.mem_of_getElem? hrecord
      · rintro error core' ⟨-, hsame⟩
        exact ⟨[], .removed, rfl, hrefused core' hsame⟩
    | transportLost connection clock =>
      apply handle_of_ends (P := worker.Announces) rfl (transportLost_loses hconsistent clock)
      · rintro summary core' ⟨-, -, hloses⟩
        exact ⟨_, .disconnected, rfl, Lists.of_removes hloses.removes⟩
      · rintro error core' ⟨hsame, -⟩
        exact ⟨[], .removed, rfl, hrefused core' hsame⟩
    | unsubscribe connection space =>
      apply handle_of_ends (P := worker.Announces) rfl unsubscribe_ends
      · rintro summary core' ⟨hnone, hentities, -⟩
        refine ⟨[], .removed, congrArg (List.map _) hnone, lists_nil fun key id hin => ?_⟩
        show id ∈ (core'.sessionAt key).entities
        rwa [hentities]
      · rintro error core' hsame
        exact ⟨[], .removed, rfl, hrefused core' hsame⟩
    | _ =>
      refine announces_quiet h ?_ ?_
      · rintro op hop
        cases hop <;> trivial
      · intro worker result
        unfold applyLifecycleAction lifecycleAction
        split <;> first | rfl | contradiction
  | subscribeAndSpawn => exact hplain.elim
  | broadcastToSpace => exact hplain.elim
  | sendToConnection => exact hplain.elim
  | _ => exact ⟨[], .removed, rfl, hrefused _ rfl⟩

end Worker

end Signalweave.Transport
