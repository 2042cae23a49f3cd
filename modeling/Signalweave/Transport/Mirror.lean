import Signalweave.Transport.Worker

/-!
# The registry mirrors the core

The registry follows what a request itself does to subscriptions. What a removal takes away of
other connections, and what a publication loses, it does not follow.
-/

open Std

namespace Signalweave.Transport

open Stateful WovenCore

namespace Worker

/-- Whom the registry knows is connected, and is subscribed where the registry says so. -/
structure Mirrors (worker : Worker) : Prop where
  live : ∀ c ∈ worker.subscriptions, c ∈ worker.core.connections
  subscribed : ∀ c space, worker.Recorded c space →
    space ∈ (worker.core.connectionAt c).subscriptions

/-- The request takes nothing away that the registry keeps, and records nothing that is not so. -/
def Follows (worker : Worker) : WorkerRequest → Prop
  | .command (.leaveSession connection session _) =>
    LeaveAllowed worker.core connection session → ∀ c space, c ≠ connection →
      worker.Recorded c space → space.session = session → ¬ worker.core.SpaceFalls connection space
  | .command (.removeEntity connection session entity) =>
    RemovalAllowed worker.core connection session entity → ∀ c space,
      worker.Recorded c space → space.session = session →
        ¬ DoomedSpace (worker.core.sessionAt session) (ExtTreeSet.ofList [entity]) space.space
  | .command (.transportLost connection _) =>
    ∀ c space, c ≠ connection → worker.Recorded c space → ¬ worker.core.SpaceFalls connection space
  | .command (.publish request now call _) =>
    ∀ slow, Overwhelmed worker.core request now call slow →
      slow ∉ worker.subscriptions ∧
        ∀ c space, worker.Recorded c space → ¬ worker.core.SpaceFalls slow space
  | .registerLifecycle connection => connection ∈ worker.core.connections
  | .activateSubscription connection space =>
    space ∈ (worker.core.connectionAt connection).subscriptions
  | _ => True

variable {worker worker' : Worker} {core' : WovenCore} {connection c : ConnectionId}
  {space s : SpaceKey}

/-- Where nothing is taken away, a registry with no more in it still mirrors the core. -/
theorem Mirrors.keep (h : worker.Mirrors) (hkeeps : worker.core.Keeps worker'.core)
    (hmem : ∀ c, c ∈ worker'.subscriptions → c ∈ worker.subscriptions)
    (hrecorded : ∀ c space, worker'.Recorded c space → worker.Recorded c space) :
    worker'.Mirrors := by
  refine ⟨?_, ?_⟩
  · exact fun c hin => hkeeps.live c (h.live c (hmem c hin))
  · exact fun c space hin => hkeeps.subscriptions c space
      (h.subscribed c space (hrecorded c space hin))

/-- Where something is taken away, the registry mirrors the core as long as it has none of it. -/
theorem Mirrors.withdraw (h : worker.Mirrors) {lost : ConnectionId → Prop}
    {withdrawn : ConnectionId → SpaceKey → Prop}
    (hwithdraws : Withdraws worker.core worker'.core lost withdrawn)
    (hmem : ∀ c, c ∈ worker'.subscriptions → c ∈ worker.subscriptions)
    (hrecorded : ∀ c space, worker'.Recorded c space → worker.Recorded c space) :
    worker'.Mirrors ↔ (∀ c ∈ worker'.subscriptions, ¬ lost c) ∧
      ∀ c space, worker'.Recorded c space → ¬ withdrawn c space := by
  constructor
  · rintro ⟨hlive, hsubscribed⟩
    exact ⟨fun c hin => ((hwithdraws.live c).mp (hlive c hin)).2,
      fun c space hin => ((hwithdraws.subscriptions c space).mp (hsubscribed c space hin)).2⟩
  · rintro ⟨hlive, hsubscribed⟩
    refine ⟨fun c hin => (hwithdraws.live c).mpr ⟨h.live c (hmem c hin), hlive c hin⟩, ?_⟩
    intro c space hin
    exact (hwithdraws.subscriptions c space).mpr
      ⟨h.subscribed c space (hrecorded c space hin), hsubscribed c space hin⟩

theorem Mirrors.withCore (h : worker.Mirrors) (hkeeps : worker.core.Keeps core') :
    Mirrors { worker with core := core' } := h.keep hkeeps (fun _ hin => hin) fun _ _ hin => hin

/-- A new entry of the registry has to be one of the core. -/
theorem Mirrors.record_iff (h : worker.Mirrors) : (worker.record connection space).Mirrors ↔
    space ∈ (worker.core.connectionAt connection).subscriptions := by
  constructor
  · intro hmirrors
    exact hmirrors.subscribed connection space (recorded_record.mpr (Or.inl ⟨rfl, rfl⟩))
  · intro hin
    refine ⟨?_, ?_⟩
    · intro c hc
      rcases mem_subscriptions_record.mp hc with rfl | hc
      · exact mem_connections_of_subscription hin
      · exact h.live c hc
    · intro c s hc
      rcases recorded_record.mp hc with ⟨rfl, rfl⟩ | hc
      · exact hin
      · exact h.subscribed c s hc

theorem Mirrors.register_iff (h : worker.Mirrors) : (worker.register connection).Mirrors ↔
    connection ∈ worker.core.connections := by
  constructor
  · intro hmirrors
    exact hmirrors.live connection (mem_subscriptions_register.mpr (Or.inl rfl))
  · intro hin
    refine ⟨?_, ?_⟩
    · intro c hc
      rcases mem_subscriptions_register.mp hc with rfl | hc
      · exact hin
      · exact h.live c hc
    · exact fun c s hc => h.subscribed c s (recorded_register.mp hc)

theorem recorded_amend_erase : (worker.amend connection (·.erase space)).Recorded c s ↔
    worker.Recorded c s ∧ ¬ (c = connection ∧ s = space) := by
  rw [recorded_amend]
  constructor
  · rintro ⟨spaces, hspaces, hin⟩
    split at hin
    · obtain ⟨hne, hold⟩ := OrderedSet.mem_erase.mp hin
      exact ⟨⟨spaces, hspaces, hold⟩, fun hboth => hne hboth.2⟩
    · rename_i hc
      exact ⟨⟨spaces, hspaces, hin⟩, fun hboth => hc hboth.1⟩
  · rintro ⟨⟨spaces, hspaces, hin⟩, hnot⟩
    refine ⟨spaces, hspaces, ?_⟩
    split
    · rename_i hc
      exact OrderedSet.mem_erase.mpr ⟨fun heq => hnot ⟨hc, heq⟩, hin⟩
    · exact hin

theorem recorded_amend_filter {session : SessionKey} :
    (worker.amend connection (·.filter fun s => decide (s.session ≠ session))).Recorded c s ↔
      worker.Recorded c s ∧ ¬ (c = connection ∧ s.session = session) := by
  rw [recorded_amend]
  constructor
  · rintro ⟨spaces, hspaces, hin⟩
    split at hin
    · obtain ⟨hold, hne⟩ := OrderedSet.mem_filter.mp hin
      exact ⟨⟨spaces, hspaces, hold⟩, fun hboth => of_decide_eq_true hne hboth.2⟩
    · rename_i hc
      exact ⟨⟨spaces, hspaces, hin⟩, fun hboth => hc hboth.1⟩
  · rintro ⟨⟨spaces, hspaces, hin⟩, hnot⟩
    refine ⟨spaces, hspaces, ?_⟩
    split
    · rename_i hc
      exact OrderedSet.mem_filter.mpr ⟨hin, decide_eq_true fun heq => hnot ⟨hc, heq⟩⟩
    · exact hin

/-! ## One request -/

section Requests

variable {session : SessionKey} {now : Instant} {clock : ReleaseClock} {request : WorkerRequest}

theorem Mirrors.leaveSession_iff (h : worker.Mirrors) (hcore : worker.core.Consistent) :
    (worker.handle (.command (.leaveSession connection session now))).1.Mirrors ↔
      worker.Follows (.command (.leaveSession connection session now)) := by
  apply handle_of_ends (P := fun answer => answer.1.Mirrors ↔ _) rfl leaveSession_ends
  · rintro summary core' ⟨hallowed, rfl, -⟩
    refine Iff.trans (h.withdraw (withdraws_leave hcore hallowed.member)
      (fun c => mem_subscriptions_amend.mp) fun c s hin => (recorded_amend_filter.mp hin).1) ?_
    constructor
    · rintro ⟨-, hkept⟩ _ c s hc hin hs hfalls
      exact hkept c s (recorded_amend_filter.mpr ⟨hin, fun hboth => hc hboth.1⟩) ⟨hs, Or.inr hfalls⟩
    · intro hfollows
      refine ⟨fun _ _ => id, ?_⟩
      rintro c s hin ⟨hs, hgone⟩
      obtain ⟨hold, hnot⟩ := recorded_amend_filter.mp hin
      have hc : c ≠ connection := fun heq => hnot ⟨heq, hs⟩
      exact hfollows hallowed c s hc hold hs (hgone.resolve_left hc)
  · rintro error core' ⟨hnot, rfl⟩
    exact iff_of_true h fun hallowed => absurd hallowed hnot

theorem Mirrors.removeEntity_iff (h : worker.Mirrors) (hcore : worker.core.Consistent)
    {entity : EntityId} :
    (worker.handle (.command (.removeEntity connection session entity))).1.Mirrors ↔
      worker.Follows (.command (.removeEntity connection session entity)) := by
  apply handle_of_ends (P := fun answer => answer.1.Mirrors ↔ _) rfl removeEntity_ends
  · rintro summary core' ⟨hallowed, rfl, -⟩
    refine Iff.trans (h.withdraw
      (withdraws_dropRemoved hcore (hcore.mem_sessions hallowed.member) _)
      (fun _ hin => hin) fun _ _ hin => hin) ?_
    constructor
    · rintro ⟨-, hkept⟩ _ c s hin hs hdoomed
      exact hkept c s hin ⟨hs, hdoomed⟩
    · intro hfollows
      exact ⟨fun _ _ => id, fun c s hin hgone => hfollows hallowed c s hin hgone.1 hgone.2⟩
  · rintro error core' ⟨hnot, rfl⟩
    exact iff_of_true h fun hallowed => absurd hallowed hnot

theorem Mirrors.unsubscribe (h : worker.Mirrors) :
    (worker.handle (.command (.unsubscribe connection space))).1.Mirrors := by
  apply handle_of_ends (P := fun answer => answer.1.Mirrors) rfl unsubscribe_ends
  · rintro summary core' ⟨-, -, hwithdraws⟩
    refine Iff.mpr (h.withdraw hwithdraws (fun c => mem_subscriptions_amend.mp)
      fun c s hin => (recorded_amend_erase.mp hin).1) ⟨fun _ _ => id, ?_⟩
    exact fun c s hin => (recorded_amend_erase.mp hin).2
  · rintro error core' rfl
    exact h

/-- What is lost with a connection that the registry forgets. -/
theorem Mirrors.forget_iff (h : worker.Mirrors) {removed : List RemovedEntity}
    (hloses : Loses worker.core core' connection removed) :
    Mirrors { worker.forget connection with core := core' } ↔ ∀ c s, c ≠ connection →
      worker.Recorded c s → ¬ worker.core.SpaceFalls connection s := by
  refine Iff.trans (h.withdraw hloses.withdraws (fun c hin => (mem_subscriptions_forget.mp hin).1)
    fun c s hin => (recorded_forget.mp hin).1) ?_
  constructor
  · rintro ⟨-, hkept⟩ c s hc hin hfalls
    exact hkept c s (recorded_forget.mpr ⟨hin, hc⟩) (Or.inr hfalls)
  · intro hkept
    refine ⟨fun c hin => (mem_subscriptions_forget.mp hin).2, ?_⟩
    intro c s hin hgone
    obtain ⟨hold, hc⟩ := recorded_forget.mp hin
    exact hkept c s hc hold (hgone.resolve_left hc)

/-- A connection that the core does not know takes nothing with it. -/
theorem not_spaceFalls_of_unknown {core : WovenCore} (hcore : core.Consistent)
    (hunknown : connection.get = 0 ∨ connection ∉ core.connections) :
    ¬ core.SpaceFalls connection s := by
  intro hfalls
  have hlive := mem_connections_of_membership (hfalls.member hcore)
  rcases hunknown with hzero | hdead
  · have hpos := (hcore.connectionIds _ hlive).1
    rw [hzero] at hpos
    exact Nat.lt_irrefl _ hpos
  · exact hdead hlive

theorem Mirrors.transportLost_iff (h : worker.Mirrors) (hcore : worker.core.Consistent) :
    (worker.handle (.command (.transportLost connection clock))).1.Mirrors ↔
      worker.Follows (.command (.transportLost connection clock)) := by
  apply handle_of_ends (P := fun answer => answer.1.Mirrors ↔ _) rfl
    (transportLost_loses hcore clock)
  · rintro summary core' ⟨-, -, hloses⟩
    exact h.forget_iff hloses
  · rintro error core' ⟨rfl, hunknown⟩
    exact iff_of_true h fun _ _ _ _ => not_spaceFalls_of_unknown hcore hunknown

theorem Mirrors.publish_iff (h : worker.Mirrors) (hcore : Reachable worker.core)
    {publication : PublishRequest} {call : Nat} :
    (worker.handle (.command (.publish publication now call clock))).1.Mirrors ↔
      worker.Follows (.command (.publish publication now call clock)) := by
  have hends : Ends (publishAt publication now call clock) worker.core
      (fun outcome core' =>
        Returns (publishAt publication now call clock) worker.core outcome core')
      fun e core' => Fails (publishAt publication now call clock) worker.core e core' :=
    ends_of_forall (fun _ _ => id) fun _ _ => id
  apply handle_of_ends (P := fun answer => answer.1.Mirrors ↔ _) rfl hends
  · intro outcome core' hreturns
    obtain ⟨lost, hlost, hall⟩ := publishAt_losesAll hcore hreturns
    refine Iff.trans (h.withdraw (hall.withdraws hlost) (fun _ hin => hin) fun _ _ hin => hin) ?_
    constructor
    · rintro ⟨hlive, hkept⟩ slow hslow
      exact ⟨fun hin => hlive slow hin hslow,
        fun c s hin hfalls => hkept c s hin (Or.inr ⟨slow, hslow, hfalls⟩)⟩
    · intro hfollows
      refine ⟨fun c hin hslow => (hfollows c hslow).1 hin, ?_⟩
      rintro c s hin (hslow | ⟨slow, hslow, hfalls⟩)
      · exact (hfollows c hslow).1 hin.mem
      · exact (hfollows slow hslow).2 c s hin hfalls
  · intro error core' hfails
    refine iff_of_true (h.withCore (publishAt_keeps hcore.sound hfails)) ?_
    exact fun slow hslow => absurd hslow (not_overwhelmed_of_fails hcore.sound hfails)

/-- A command that takes nothing away and changes no entry of the registry. -/
theorem Mirrors.quiet (h : worker.Mirrors) (hcore : Reachable worker.core) {command : Command}
    (hquiet : command.quiet)
    (hsame : ∀ worker result, (applyLifecycleAction worker (lifecycleAction command) result).1 =
      worker) : (worker.handle (.command command)).1.Mirrors := by
  have hkeeps := command.keeps_handle hcore hquiet
  unfold handle
  rcases returns_or_fails command.handle worker.core with ⟨result, hends⟩ | ⟨error, hends⟩
  · have hresult : command.handle worker.core = .ok result _ := hends
    simp only [hresult]
    rw [hsame]
    exact h.withCore hkeeps
  · have hresult : command.handle worker.core = .error error _ := hends
    simp only [hresult]
    exact h.withCore hkeeps

theorem keeps_subscribed {core core' : WovenCore}
    (hcore' : core' = if space ∈ (core.connectionAt connection).subscriptions then core
      else core.subscribe connection space) : core.Keeps core' := by
  rw [hcore']
  split
  · exact Keeps.refl _
  · exact keeps_subscribe

theorem keeps_subscribeAndSpawn (h : Reachable worker.core) {epoch : SpaceEpoch} :
    worker.core.Keeps (worker.handle (.subscribeAndSpawn connection space epoch)).1.core := by
  apply handle_subscribeAndSpawn (P := fun answer => worker.core.Keeps answer.1.core) h
  · exact fun _ _ => Keeps.refl _
  · exact fun _ core' _ _ hcore' _ => keeps_subscribed hcore'
  · rintro core' core'' principal - - - hcore' - rfl
    exact (keeps_subscribed hcore').trans keeps_spawn

theorem Mirrors.subscribe (h : worker.Mirrors) (hcore : worker.core.Consistent) :
    (worker.handle (.command (.subscribe connection space))).1.Mirrors := by
  apply handle_of_ends (P := fun answer => answer.1.Mirrors) rfl (subscribe_ends hcore)
  · rintro u core' ⟨hallowed, hcore'⟩
    exact Iff.mpr (h.withCore (keeps_subscribed hcore')).record_iff
      (subscribed_of_allowed hallowed hcore')
  · rintro error core' ⟨-, rfl⟩
    exact h

theorem Mirrors.subscribeAndSpawn (h : worker.Mirrors) (hcore : Reachable worker.core)
    {epoch : SpaceEpoch} :
    (worker.handle (.subscribeAndSpawn connection space epoch)).1.Mirrors := by
  apply handle_subscribeAndSpawn (P := fun answer => answer.1.Mirrors) hcore
  · exact fun _ _ => h
  · exact fun _ core' _ _ hcore' _ => h.withCore (keeps_subscribed hcore')
  · rintro core' core'' principal - - - hcore' - rfl
    exact h.withCore ((keeps_subscribed hcore').trans keeps_spawn)

/-- What a request leaves mirrors the core exactly when the registry can follow it. -/
theorem Mirrors.handle_iff (h : worker.Mirrors) (hcore : Reachable worker.core)
    (request : WorkerRequest) : (worker.handle request).1.Mirrors ↔ worker.Follows request := by
  have hconsistent := hcore.sound.consistent
  cases request with
  | command command =>
    cases command with
    | leaveSession connection session now => exact h.leaveSession_iff hconsistent
    | removeEntity connection session entity => exact h.removeEntity_iff hconsistent
    | transportLost connection clock => exact h.transportLost_iff hconsistent
    | publish publication now call clock => exact h.publish_iff hcore
    | unsubscribe connection space => exact iff_of_true h.unsubscribe trivial
    | subscribe connection space => exact iff_of_true (h.subscribe hconsistent) trivial
    | _ =>
      refine iff_of_true (h.quiet hcore ?_ ?_) trivial
      · rintro op hop
        cases hop <;> trivial
      · intro worker result
        unfold applyLifecycleAction lifecycleAction
        split <;> first | rfl | contradiction
  | registerLifecycle connection => exact h.register_iff
  | activateSubscription connection space => exact h.record_iff
  | subscribeAndSpawn connection space epoch =>
    exact iff_of_true (h.subscribeAndSpawn hcore) trivial
  | broadcastToSpace space envelope exclude => exact iff_of_true h trivial
  | sendToConnection connection envelope => exact iff_of_true h trivial
  | liveCounts => exact iff_of_true h trivial

end Requests

end Worker

/-! ## Whole runs -/

namespace Serving

variable {state : Serving}

/-- What the next call puts on channels for a space goes to connections that are subscribed to
it. -/
def SendsToSubscribers (state : Serving) : Prop :=
  ∀ space envelope excluded rest, state.tasks = .distribute space envelope excluded :: rest →
    ∀ accepts clock, ∀ entry ∈ (state.work accepts clock).sent, entry ∈ state.sent ∨
      space ∈ (state.worker.core.connectionAt entry.1).subscriptions

theorem sendsToSubscribers (h : state.worker.Mirrors) : state.SendsToSubscribers := by
  intro space envelope excluded rest htasks accepts clock entry hentry
  unfold work at hentry
  rw [htasks] at hentry
  rcases List.mem_append.mp hentry with hsent | hnew
  · exact Or.inl hsent
  · obtain ⟨c, hc, rfl⟩ := List.mem_map.mp hnew
    exact Or.inr (h.subscribed c space (Worker.mem_targets.mp (List.mem_filter.mp hc).1).2.1)

/-- The registry can follow the step: a request is one that it follows, and a clean-up takes no
space with it that the registry has for another connection. -/
def Follows (state : Serving) : WorkerEvent → Prop
  | .request request => state.tasks = [] → state.worker.Follows request
  | .work _ _ =>
    match state.tasks with
    | .cleanup connection :: _ => ∀ c space, c ≠ connection → state.worker.Recorded c space →
      ¬ state.worker.core.SpaceFalls connection space
    | _ => True

theorem cleanup_mirrors_iff (h : state.worker.Mirrors) (hcore : Reachable state.worker.core)
    (connection : ConnectionId) (clock : ReleaseClock) (rest : List Task) :
    (state.cleanupDeadConnection connection clock rest).worker.Mirrors ↔
      ∀ c space, c ≠ connection → state.worker.Recorded c space →
        ¬ state.worker.core.SpaceFalls connection space := by
  rcases cleanupDeadConnection_cases hcore connection clock rest with
    ⟨summary, core', -, -, hloses, heq⟩ | ⟨core', hunknown, -, hkeeps, -, -, heq⟩
  · rw [heq]
    exact h.forget_iff hloses
  · rw [heq]
    refine iff_of_true ?_ ?_
    · exact h.keep hkeeps (fun c hin => (Worker.mem_subscriptions_forget.mp hin).1)
        fun c space hin => (Worker.recorded_forget.mp hin).1
    · exact fun c space _ _ =>
        Worker.not_spaceFalls_of_unknown hcore.sound.consistent (Or.inr hunknown)

theorem mirrors_step_iff (h : state.worker.Mirrors) (hcore : Reachable state.worker.core)
    (event : WorkerEvent) : (state.step event).worker.Mirrors ↔ state.Follows event := by
  cases event with
  | request request =>
    unfold step Follows
    dsimp only
    split
    · rename_i htasks
      rw [htasks]
      exact (h.handle_iff hcore request).trans
        ⟨fun hfollows _ => hfollows, fun hfollows => hfollows rfl⟩
    · rename_i hbusy
      exact iff_of_true h fun hidle => absurd hidle hbusy
  | work accepts clock =>
    show (state.work accepts clock).worker.Mirrors ↔ _
    unfold work Follows
    cases htasks : state.tasks with
    | nil => exact iff_of_true h trivial
    | cons task rest =>
      cases task with
      | distribute space envelope excluded => exact iff_of_true h trivial
      | deliver connection envelope =>
        refine iff_of_true ?_ trivial
        dsimp only
        rw [worker_deliverToConnection]
        exact h
      | cleanup connection => exact cleanup_mirrors_iff h hcore connection clock rest

/-- In a run the registry mirrors the core, and nothing is sent past the subscriptions, exactly as
long as no step removes a space that the registry has for somebody else, or loses a slow consumer
that the registry knows, and connections register and activate only what they have. -/
theorem run_mirrors_iff {core : WovenCore} (h : Reachable core) (events : List WorkerEvent) :
    Transition.Always step (fun state => state.worker.Mirrors ∧ state.SendsToSubscribers)
      (start core) events ↔ Transition.Meets step Follows (start core) events := by
  refine Transition.always_iff_meets (J := fun state => Reachable state.worker.core)
    (fun _ event hcore => reachable_step hcore event) ?_ h ?_ events
  · rintro state event hcore ⟨hmirrors, -⟩
    rw [← mirrors_step_iff hmirrors hcore event]
    exact ⟨And.left, fun hnext => ⟨hnext, sendsToSubscribers hnext⟩⟩
  · have hmirrors : (start core).worker.Mirrors := by
      refine ⟨?_, ?_⟩
      · intro c hin
        exact absurd hin ExtTreeMap.not_mem_empty
      · intro c space hin
        exact absurd hin.mem ExtTreeMap.not_mem_empty
    exact ⟨hmirrors, sendsToSubscribers hmirrors⟩

end Serving

end Signalweave.Transport

namespace Signalweave.Sample

open Transport

/-- One session with two spaces; a queue holds one critical message. -/
def narrow : WovenCore :=
  Transition.run step { core with config := { outboundQueue := { criticalCapacity := 1 } } }
    [.provisionSession session, .installSpace session (space 1), .installSpace session (space 2),
      .registerChannel channel]

theorem narrow_reachable : Reachable narrow :=
  ⟨_, _, ⟨authenticator, { outboundQueue := { criticalCapacity := 1 } }, rfl⟩, rfl⟩

/-- A transport connects, and its client joins the session and subscribes to the first space. -/
def arrival (connection : ConnectionId) (token : String) : List WorkerEvent :=
  [ .request (.command .transportConnected),
    .request (.command (.authenticate connection ⟨token⟩)),
    .request (.registerLifecycle connection),
    .request (.command (.joinSession connection session)),
    .request (.subscribeAndSpawn connection (spaceKey 1) ⟨1⟩),
    .work (fun _ => true) clock,
    .request (.activateSubscription connection (spaceKey 1)) ]

/-- The first of two clients publishes twice and reads, the second one does not read. -/
def slowConsumer : List WorkerEvent :=
  arrival ⟨1⟩ "a" ++ arrival ⟨2⟩ "bb" ++
    [ .request (.command (.publish (publication 5) 0 0 clock)),
      .request (.command (.drainOutbound ⟨1⟩)),
      .request (.command (.publish (publication 6) 0 1 clock)) ]

end Signalweave.Sample

namespace Signalweave.Transport.Serving

theorem run_mirrors_iff_registered :
    let events := Sample.arrival ⟨1⟩ "a" ++ Sample.arrival ⟨2⟩ "bb"
    (Transition.run step (start Sample.narrow) events).worker.subscriptions.toList.map
        (fun entry => (entry.1, entry.2.toList)) =
      [(⟨1⟩, [Sample.spaceKey 1]), (⟨2⟩, [Sample.spaceKey 1])] ∧
    Transition.Always step (fun state => state.worker.Mirrors ∧ state.SendsToSubscribers)
      (start Sample.narrow) events := by
  intro events
  refine ⟨by decide +kernel, (run_mirrors_iff Sample.narrow_reachable _).mpr
    ⟨fun _ => trivial, fun _ => trivial, fun _ => ?_, fun _ => trivial, fun _ => trivial, ?_,
      fun _ => ?_, fun _ => trivial, fun _ => trivial, fun _ => ?_, fun _ => trivial,
      fun _ => trivial, ?_, fun _ => ?_, trivial⟩⟩
  · show (⟨1⟩ : ConnectionId) ∈ _
    decide +kernel
  · exact trivial
  · show Sample.spaceKey 1 ∈ _
    decide +kernel
  · show (⟨2⟩ : ConnectionId) ∈ _
    decide +kernel
  · exact trivial
  · show Sample.spaceKey 1 ∈ _
    decide +kernel

/-- The publication loses the second client, which stays in the registry. -/
theorem run_not_mirrors : ¬ ∀ (core : WovenCore) (events : List WorkerEvent), Reachable core →
    Transition.Always step (fun state => state.worker.Mirrors ∧ state.SendsToSubscribers)
      (start core) events := by
  intro h
  have hmirrors := (h Sample.narrow Sample.slowConsumer Sample.narrow_reachable).last.1
  have hlive := hmirrors.live ⟨2⟩ (by decide +kernel)
  revert hlive
  decide +kernel

end Signalweave.Transport.Serving
