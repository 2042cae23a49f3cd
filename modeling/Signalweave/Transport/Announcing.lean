import Signalweave.Transport.Mirror
import Signalweave.Transport.Notices

/-!
# Removals are announced

Whatever a request or a clean-up removes it announces to the subscribers of the space. What a
publication removes with a slow consumer it does not announce, and an entity that the request has
already said to have left is announced a second time.
-/

open Std

namespace Signalweave.Transport

open Stateful WovenCore

namespace Serving

/-- Each entity that the request has found and that is gone when it has been served was announced
once to have left its last space, to everybody who is connected and registered for the space. -/
def AnnouncesRemovals (state : Serving) : Prop :=
  state.tasks = [] → ∀ key id, id ∈ (state.opened.sessionAt key).entities →
    id ∉ (state.worker.core.sessionAt key).entities → ∃ space, state.places key id = some space ∧
      ∀ c, c ∈ state.worker.recipients → state.worker.Recorded c ⟨key, space⟩ →
        c ∈ state.worker.core.connections → (state.heard c ⟨key, space⟩ id).count false = 1

/-- The request itself says to a connection that an entity has left a space: it moves the entity
out of the space, perhaps to where it is, or it hands on an envelope. -/
def SaysLeft (state : Serving) (c : ConnectionId) (space : SpaceKey) (id : EntityId) : Prop :=
  match state.request with
  | some (.command (.transitionEntity request)) =>
    request.session = space.session ∧ request.sourceSpace = space.space ∧ request.entity = id
  | some (.broadcastToSpace s envelope exclude) =>
    exclude ≠ some c ∧ state.worker.Recorded c s ∧ announces envelope space id = some false
  | some (.sendToConnection connection envelope) =>
    connection = c ∧ announces envelope space id = some false
  | _ => False

/-- A publication loses no slow consumer with an entity in a space that anybody is registered for
who is still connected then, and a clean-up removes no entity that the request itself has said to
have left. -/
def LosesNone (state : Serving) : WorkerEvent → Prop
  | .request (.command (.publish request now call _)) => state.tasks = [] →
    ∀ slow key (id : EntityId) record c, Overwhelmed state.worker.core request now call slow →
      state.worker.core.EntityFalls slow key id →
      (state.worker.core.sessionAt key).entities[id]? = some record →
      c ∈ state.worker.recipients → state.worker.Recorded c ⟨key, record.space⟩ →
      c ∈ state.worker.core.connections → Overwhelmed state.worker.core request now call c
  | .request _ => True
  | .work _ _ =>
    match state.tasks with
    | .cleanup connection :: _ => ∀ key (id : EntityId) record c,
      state.worker.core.EntityFalls connection key id →
      (state.worker.core.sessionAt key).entities[id]? = some record → c ≠ connection →
      state.Audience c ⟨key, record.space⟩ → c ∈ state.worker.core.connections →
      ¬ state.SaysLeft c ⟨key, record.space⟩ id
    | _ => True

/-! ## The account of a request -/

/-- The places are those of the entities that are there or have been there. -/
structure Placed (state : Serving) : Prop where
  present : ∀ key (id : EntityId) record,
    (state.worker.core.sessionAt key).entities[id]? = some record →
      state.places key id = some record.space
  known : ∀ key id, id ∈ (state.opened.sessionAt key).entities →
    ∃ space, state.places key id = some space

/-- What is gone has been announced or is to be announced, once, and what is there has not, unless
by the request itself. -/
structure Accounts (state : Serving) : Prop where
  core : Reachable state.worker.core
  placed : state.Placed
  gone : ∀ key id space c, state.places key id = some space →
    id ∉ (state.worker.core.sessionAt key).entities → state.Audience c ⟨key, space⟩ →
      c ∈ state.worker.core.connections → (state.notices c ⟨key, space⟩ id).count false = 1
  present : ∀ key (id : EntityId) record c,
    (state.worker.core.sessionAt key).entities[id]? = some record →
      state.Audience c ⟨key, record.space⟩ → ¬ state.SaysLeft c ⟨key, record.space⟩ id →
        (state.notices c ⟨key, record.space⟩ id).count false = 0

variable {state : Serving} {accepts : ConnectionId → Bool} {clock : ReleaseClock}

theorem placeIn_eq_some {core : WovenCore} {key : SessionKey} {id : EntityId} {space : SpaceId} :
    placeIn core key id = some space ↔
      ∃ record, (core.sessionAt key).entities[id]? = some record ∧ record.space = space :=
  Option.map_eq_some_iff

theorem placeIn_of_notMem {core : WovenCore} {key : SessionKey} {id : EntityId}
    (h : id ∉ (core.sessionAt key).entities) : placeIn core key id = none := by
  unfold placeIn
  rw [ExtTreeMap.getElem?_eq_none h]
  rfl

theorem Accounts.announcesRemovals (h : state.Accounts) : state.AnnouncesRemovals := by
  intro hserved key id hopened hgone
  obtain ⟨space, hspace⟩ := h.placed.known key id hopened
  refine ⟨space, hspace, ?_⟩
  intro c hrecipient hrecorded hlive
  have haudience : state.Audience c ⟨key, space⟩ := by
    refine ⟨hrecipient, hrecorded, ?_⟩
    rw [hserved]
    exact List.not_mem_nil
  have hcount := h.gone key id space c hspace hgone haudience hlive
  unfold notices at hcount
  rw [hserved] at hcount
  simpa [Worker.coming] using hcount

/-- After a look the places are right, if nothing has moved but what is there. -/
theorem placed_look (hknown : ∀ key id, id ∈ (state.opened.sessionAt key).entities →
    ∃ space, state.places key id = some space) : state.look.Placed where
  present key id record hrecord := by
    have hplace : placeIn state.worker.core key id = some record.space :=
      placeIn_eq_some.mpr ⟨record, hrecord, rfl⟩
    show (placeIn state.worker.core key id).or _ = _
    rw [hplace]
    rfl
  known key id hopened := by
    obtain ⟨space, hspace⟩ := hknown key id hopened
    show ∃ space, (placeIn state.worker.core key id).or (state.places key id) = some space
    rw [hspace]
    cases placeIn state.worker.core key id with
    | none => exact ⟨space, rfl⟩
    | some other => exact ⟨other, rfl⟩

theorem places_look_of_notMem {key : SessionKey} {id : EntityId}
    (h : id ∉ (state.worker.core.sessionAt key).entities) :
    state.look.places key id = state.places key id := by
  show (placeIn state.worker.core key id).or _ = _
  rw [placeIn_of_notMem h]
  rfl

theorem audience_look {c : ConnectionId} {space : SpaceKey} :
    state.look.Audience c space ↔ state.Audience c space :=
  ⟨fun h => ⟨h.recipient, h.recorded, h.alive⟩, fun h => ⟨h.recipient, h.recorded, h.alive⟩⟩

theorem saysLeft_congr {next : Serving} {c : ConnectionId} {space : SpaceKey} {id : EntityId}
    (hrequest : next.request = state.request)
    (hrecorded : ∀ s, next.worker.Recorded c s ↔ state.worker.Recorded c s) :
    next.SaysLeft c space id ↔ state.SaysLeft c space id := by
  unfold SaysLeft
  rw [hrequest]
  split
  · exact Iff.rfl
  · rw [hrecorded]
  · exact Iff.rfl
  · exact Iff.rfl

/-- A connection that is lost takes nothing with it that is there afterwards, nor anything that was
not there before. -/
theorem timesRemoved_eq_zero_of_loses {core core' : WovenCore} {connection : ConnectionId}
    {removed : List RemovedEntity} (h : Loses core core' connection removed) {key : SessionKey}
    {id : EntityId} {space : SpaceId} (hnot : ¬ core.EntityFalls connection key id) :
    timesRemoved removed ⟨key, space⟩ id = 0 := by
  apply timesRemoved_eq_zero
  rintro entry hentry hsession rfl
  apply hnot
  rw [← show entry.session = key from hsession]
  exact h.removes.only entry hentry

theorem Accounts.work (h : state.Accounts) (hnone : state.LosesNone (.work accepts clock)) :
    (state.work accepts clock).look.Accounts := by
  have htold : ∀ c, (∀ s, (state.work accepts clock).worker.Recorded c s ↔
      state.worker.Recorded c s) → ∀ space id, (state.work accepts clock).look.SaysLeft c space id ↔
        state.SaysLeft c space id := fun c hrecorded space id =>
    saysLeft_congr request_work hrecorded
  refine ⟨reachable_step h.core (.work accepts clock), placed_look ?_, ?_, ?_⟩
  · rw [opened_work, places_work]
    exact h.placed.known
  · intro key id space c hspace hgone haudience hlive
    have hplaces : (state.work accepts clock).look.places key id =
        (state.work accepts clock).places key id := places_look_of_notMem hgone
    rw [hplaces, places_work] at hspace
    have haudience' := audience_look.mp haudience
    show ((state.work accepts clock).notices c ⟨key, space⟩ id).count false = 1
    rcases work_cases h.core accepts clock with ⟨hsessions, -, hconnections, hnotices⟩ |
      ⟨connection, rest, removed, htasks, hloses, hnotices⟩
    · obtain ⟨hbefore, -, hsame⟩ := hnotices c _ haudience'
      rw [hsame]
      refine h.gone key id space c hspace ?_ hbefore ((hconnections c).mp hlive)
      intro hin
      apply hgone
      show id ∈ ((state.work accepts clock).worker.core.sessionAt key).entities
      rwa [sessionAt, hsessions, ← sessionAt]
    · obtain ⟨hne, hbefore, -, hsame⟩ := hnotices c _ haudience'
      have hlive' := ((hloses.live c).mp hlive).1
      rw [hsame, List.count_append, List.count_append, List.count_replicate]
      by_cases hthere : id ∈ (state.worker.core.sessionAt key).entities
      · -- It falls now, and nothing has been said about it before.
        obtain ⟨record, hrecord⟩ := Option.isSome_iff_exists.mp
          (ExtTreeMap.mem_iff_isSome_getElem?.mp hthere)
        have hplace := h.placed.present key id record hrecord
        rw [hspace] at hplace
        obtain rfl := Option.some.inj hplace
        have hfalls : state.worker.core.EntityFalls connection key id := by
          by_contra hnot
          exact hgone (OrderedMap.mem_of_getElem? (hloses.removes.kept key id record hrecord hnot))
        have hsilent : ¬ state.SaysLeft c ⟨key, record.space⟩ id := by
          unfold LosesNone at hnone
          rw [htasks] at hnone
          exact hnone key id record c hfalls hrecord hne hbefore hlive'
        have hold := h.present key id record c hrecord hbefore hsilent
        unfold notices at hold
        rw [List.count_append] at hold
        rw [hloses.removes.listed key id record _ hrecord hfalls, if_pos rfl]
        simp
        omega
      · have hzero : timesRemoved removed ⟨key, space⟩ id = 0 :=
          timesRemoved_eq_zero_of_loses hloses fun hfalls =>
            hthere (hloses.removes.found key id hfalls)
        have hold := h.gone key id space c hspace hthere hbefore hlive'
        unfold notices at hold
        rw [List.count_append] at hold
        rw [hzero]
        simpa using hold
  · intro key id record c hrecord haudience hsilent
    have haudience' := audience_look.mp haudience
    show ((state.work accepts clock).notices c ⟨key, record.space⟩ id).count false = 0
    rcases work_cases h.core accepts clock with ⟨hsessions, -, -, hnotices⟩ |
      ⟨connection, rest, removed, htasks, hloses, hnotices⟩
    · obtain ⟨hbefore, hrecorded, hsame⟩ := hnotices c _ haudience'
      rw [htold c hrecorded] at hsilent
      rw [hsame]
      refine h.present key id record c ?_ hbefore hsilent
      rwa [sessionAt, ← hsessions, ← sessionAt]
    · obtain ⟨hne, hbefore, hrecorded, hsame⟩ := hnotices c _ haudience'
      rw [htold c hrecorded] at hsilent
      have hold := h.present key id record c (hloses.removes.old key id record hrecord) hbefore
        hsilent
      have hzero : timesRemoved removed ⟨key, record.space⟩ id = 0 :=
        timesRemoved_eq_zero_of_loses hloses fun hfalls =>
          hloses.removes.gone key id hfalls (OrderedMap.mem_of_getElem? hrecord)
      unfold notices at hold
      rw [List.count_append] at hold
      rw [hsame, List.count_append, List.count_append, List.count_replicate, hzero]
      simpa using hold

end Serving

/-! ## A request -/

namespace Worker

variable {worker : Worker}

/-- What nobody is told to have left has not been announced to have left. -/
theorem count_coming_eq_zero {tasks : List Task} {c : ConnectionId} {space : SpaceKey}
    {entity : EntityId} (h : ∀ task ∈ tasks, c ∈ worker.addressees task →
      task.announces space entity ≠ some false) :
    (worker.coming tasks c space entity).count false = 0 := by
  rw [List.count_eq_zero]
  intro hin
  obtain ⟨task, htask, htold⟩ := List.mem_filterMap.mp hin
  split at htold
  · rename_i haddressed
    exact h task htask haddressed htold
  · cases htold

/-- The tasks of a spawn and of a transition. -/
theorem tasks_spawnEntity {connection : ConnectionId} {space : SpaceKey} {epoch : SpaceEpoch} :
    ∀ task ∈ (worker.handle (.command (.spawnEntity connection space epoch))).2.1,
      ∃ entity, task = .distribute space (entityEnteredEnvelope space epoch entity) none := by
  apply handle_of_ends (P := fun answer => ∀ task ∈ answer.2.1, ∃ entity,
    task = .distribute space (entityEnteredEnvelope space epoch entity) none) rfl spawnEntity_spawns
  · intro entity core' _ task htask
    exact ⟨entity, List.mem_singleton.mp htask⟩
  · intro error core' _ task htask
    cases htask

theorem tasks_transitionEntity {request : EntityTransitionRequest} :
    (worker.handle (.command (.transitionEntity request))).2.1 = [] ∨
      (worker.handle (.command (.transitionEntity request))).2.1 = distributeTransition
        (EntityTransition.mk request.entity request.session request.sourceSpace request.sourceEpoch
          request.destinationSpace request.destinationEpoch) := by
  apply handle_of_ends (P := fun answer => answer.2.1 = [] ∨ answer.2.1 = distributeTransition
    (EntityTransition.mk request.entity request.session request.sourceSpace request.sourceEpoch
      request.destinationSpace request.destinationEpoch)) rfl transitionEntity_answers
  · rintro transition core' rfl
    exact Or.inr rfl
  · exact fun error core' _ => Or.inl rfl

theorem tasks_publish {publication : PublishRequest} {now : Instant} {call : Nat}
    {clock : ReleaseClock} :
    (worker.handle (.command (.publish publication now call clock))).2.1 = [] := by
  have hends : Ends (publishAt publication now call clock) worker.core (fun _ _ => True)
      fun _ _ => True := ends_of_forall (fun _ _ _ => trivial) fun _ _ _ => trivial
  apply handle_of_ends (P := fun answer => answer.2.1 = []) rfl hends
  · exact fun _ _ _ => rfl
  · exact fun _ _ _ => rfl

theorem tasks_subscribeAndSpawn (h : Reachable worker.core) {connection : ConnectionId}
    {space : SpaceKey} {epoch : SpaceEpoch} :
    ∀ task ∈ (worker.handle (.subscribeAndSpawn connection space epoch)).2.1, ∃ entity,
      task = .distribute space (entityEnteredEnvelope space epoch entity) (some connection) := by
  apply handle_subscribeAndSpawn (P := fun answer => ∀ task ∈ answer.2.1, ∃ entity,
    task = .distribute space (entityEnteredEnvelope space epoch entity) (some connection)) h
  · intro error _ task htask
    cases htask
  · intro error core' _ _ _ _ task htask
    cases htask
  · intro core' core'' principal _ _ _ _ _ _ task htask
    exact ⟨_, List.mem_singleton.mp htask⟩

end Worker

namespace Serving

variable {state : Serving}

/-- Nothing is said of an entity that is there, unless by the request itself. -/
theorem count_serve_eq_zero (h : Reachable state.worker.core) {request : WorkerRequest}
    {key : SessionKey} {id : EntityId} {space : SpaceId} {c : ConnectionId}
    (hthere : id ∈ ((state.serve request).worker.core.sessionAt key).entities)
    (haudience : (state.serve request).Audience c ⟨key, space⟩)
    (hsilent : ¬ (state.serve request).SaysLeft c ⟨key, space⟩ id) :
    ((state.serve request).worker.coming (state.serve request).tasks c ⟨key, space⟩ id).count
      false = 0 := by
  by_cases hplain : request.plain
  · obtain ⟨removed, reason, htasks, hlists⟩ := Worker.announces_plain h hplain
    have hcoming : (state.serve request).tasks = removed.map (distributeRemovedEntity reason) :=
      htasks
    rw [hcoming, Worker.coming_distributeRemoved _ _ haudience.recipient haudience.recorded,
      hlists.kept key id space hthere]
    rfl
  · apply Worker.count_coming_eq_zero
    intro task htask haddressed htold
    cases request with
    | command command =>
      cases command with
      | spawnEntity connection s epoch =>
        obtain ⟨entity, rfl⟩ := Worker.tasks_spawnEntity task htask
        rw [Task.announces, announces_entityEntered] at htold
        split at htold <;> cases htold
      | transitionEntity request =>
        rcases Worker.tasks_transitionEntity with hnone | htasks
        · rw [show (state.serve (.command (.transitionEntity request))).tasks = [] from hnone]
            at htask
          cases htask
        · rw [show (state.serve (.command (.transitionEntity request))).tasks = _ from htasks]
            at htask
          rcases List.mem_cons.mp htask with rfl | htask
          · rw [Task.announces, announces_entityLeft] at htold
            split at htold
            · rename_i hsame
              obtain ⟨hsource, hentity⟩ := hsame
              exact hsilent ⟨congrArg SpaceKey.session hsource, congrArg SpaceKey.space hsource,
                hentity⟩
            · cases htold
          · obtain rfl := List.mem_singleton.mp htask
            rw [Task.announces, announces_entityEntered] at htold
            split at htold <;> cases htold
      | publish publication now call clock =>
        rw [show (state.serve (.command (.publish publication now call clock))).tasks = [] from
          Worker.tasks_publish] at htask
        cases htask
      | _ => exact hplain trivial
    | subscribeAndSpawn connection s epoch =>
      obtain ⟨entity, rfl⟩ := Worker.tasks_subscribeAndSpawn h task htask
      rw [Task.announces, announces_entityEntered] at htold
      split at htold <;> cases htold
    | broadcastToSpace s envelope exclude =>
      obtain rfl := List.mem_singleton.mp htask
      obtain ⟨hexclude, hrecorded, -⟩ := Worker.mem_targets.mp haddressed
      exact hsilent ⟨hexclude, hrecorded, htold⟩
    | sendToConnection connection envelope =>
      obtain rfl := List.mem_singleton.mp htask
      have hc : c = connection := by
        unfold Worker.addressees at haddressed
        dsimp only at haddressed
        split at haddressed
        · exact List.mem_singleton.mp haddressed
        · cases haddressed
      exact hsilent ⟨hc.symm, htold⟩
    | _ => exact hplain trivial

/-- A publication that loses nobody with an audience removes nothing that has one. -/
theorem not_gone_publish (h : Reachable state.worker.core) {publication : PublishRequest}
    {now : Instant} {call : Nat} {clock : ReleaseClock} {key : SessionKey} {id : EntityId}
    {record : EntityRecord} {c : ConnectionId}
    (hnone : ∀ slow, Overwhelmed state.worker.core publication now call slow →
      state.worker.core.EntityFalls slow key id → c ∈ state.worker.recipients →
      state.worker.Recorded c ⟨key, record.space⟩ → c ∈ state.worker.core.connections →
      Overwhelmed state.worker.core publication now call c)
    (hrecord : (state.worker.core.sessionAt key).entities[id]? = some record)
    (hgone : id ∉ ((state.serve (.command
      (.publish publication now call clock))).worker.core.sessionAt key).entities)
    (haudience : (state.serve (.command (.publish publication now call clock))).Audience c
      ⟨key, record.space⟩)
    (hlive : c ∈ (state.serve (.command
      (.publish publication now call clock))).worker.core.connections) : False := by
  have hends : Ends (publishAt publication now call clock) state.worker.core
      (fun outcome core' =>
        Returns (publishAt publication now call clock) state.worker.core outcome core')
      fun e core' => Fails (publishAt publication now call clock) state.worker.core e core' :=
    ends_of_forall (fun _ _ hends => hends) fun _ _ hends => hends
  revert hgone hlive
  obtain ⟨hrecipient, hrecorded, -⟩ := haudience
  revert hrecipient hrecorded
  apply Worker.handle_of_ends (P := fun answer => c ∈ answer.1.recipients →
    answer.1.Recorded c ⟨key, record.space⟩ → id ∉ (answer.1.core.sessionAt key).entities →
    c ∈ answer.1.core.connections → False) rfl hends
  · intro outcome core' hreturns hrecipient hrecorded hgone hlive
    obtain ⟨lost, hlost, hall⟩ := publishAt_losesAll h hreturns
    obtain ⟨hold, hquick⟩ := (hall.live c).mp hlive
    apply hgone
    refine OrderedMap.mem_of_getElem? ((hall.entities key id record).mpr ⟨hrecord, ?_⟩)
    intro slow hslow hfalls
    exact hquick ((hlost c).mpr
      (hnone slow ((hlost slow).mp hslow) hfalls hrecipient hrecorded hold))
  · intro error core' hfails _ _ hgone _
    exact hgone ((publishAt_keeps h.sound hfails).entities key id
      (OrderedMap.mem_of_getElem? hrecord))

/-- What a request removes it is to announce. -/
theorem count_serve_eq_one (h : Reachable state.worker.core) {request : WorkerRequest}
    (hidle : state.tasks = []) (hnone : state.LosesNone (.request request)) {key : SessionKey}
    {id : EntityId} {record : EntityRecord} {c : ConnectionId}
    (hrecord : (state.worker.core.sessionAt key).entities[id]? = some record)
    (hgone : id ∉ ((state.serve request).worker.core.sessionAt key).entities)
    (haudience : (state.serve request).Audience c ⟨key, record.space⟩)
    (hlive : c ∈ (state.serve request).worker.core.connections) :
    ((state.serve request).worker.coming (state.serve request).tasks c ⟨key, record.space⟩ id).count
      false = 1 := by
  have hthere := OrderedMap.mem_of_getElem? hrecord
  by_cases hplain : request.plain
  · obtain ⟨removed, reason, htasks, hlists⟩ := Worker.announces_plain h hplain
    have hcoming : (state.serve request).tasks = removed.map (distributeRemovedEntity reason) :=
      htasks
    rw [hcoming, Worker.coming_distributeRemoved _ _ haudience.recipient haudience.recorded,
      hlists.gone key id record hrecord hgone]
    rfl
  · -- Of the others only a publication removes anything.
    have hkept : ∀ core', state.worker.core.Keeps core' →
        (state.serve request).worker.core = core' → False := by
      rintro core' hkeeps rfl
      exact hgone (hkeeps.entities key id hthere)
    exfalso
    cases request with
    | command command =>
      cases command with
      | publish publication now call clock =>
        exact not_gone_publish h (fun slow hslow hfalls =>
          hnone hidle slow key id record c hslow hfalls hrecord) hrecord hgone haudience hlive
      | spawnEntity connection s epoch =>
        refine hkept _ (Command.keeps_handle h ?_) (Worker.core_handle_command _)
        rintro op hop
        cases hop
        trivial
      | transitionEntity request =>
        refine hkept _ (Command.keeps_handle h ?_) (Worker.core_handle_command _)
        rintro op hop
        cases hop
        trivial
      | _ => exact hplain trivial
    | subscribeAndSpawn connection s epoch =>
      exact hkept _ (Worker.keeps_subscribeAndSpawn h) rfl
    | broadcastToSpace s envelope exclude => exact hgone hthere
    | sendToConnection connection envelope => exact hgone hthere
    | _ => exact hplain trivial

theorem accounts_serve (h : state.Accounts) {request : WorkerRequest}
    (hidle : state.tasks = []) (hnone : state.LosesNone (.request request)) :
    (state.serve request).look.Accounts := by
  have hknown : ∀ key id, id ∈ ((state.serve request).opened.sessionAt key).entities →
      ∃ space, (state.serve request).places key id = some space := by
    intro key id hin
    obtain ⟨record, hrecord⟩ := Option.isSome_iff_exists.mp
      (ExtTreeMap.mem_iff_isSome_getElem?.mp hin)
    exact ⟨record.space, placeIn_eq_some.mpr ⟨record, hrecord, rfl⟩⟩
  refine ⟨Worker.reachable_handle h.core request, placed_look hknown, ?_, ?_⟩
  · intro key id space c hspace hgone haudience hlive
    have hplaces : (state.serve request).look.places key id = placeIn state.worker.core key id :=
      places_look_of_notMem hgone
    rw [hplaces] at hspace
    obtain ⟨record, hrecord, rfl⟩ := placeIn_eq_some.mp hspace
    exact count_serve_eq_one h.core hidle hnone hrecord hgone (audience_look.mp haudience) hlive
  · intro key id record c hrecord haudience hsilent
    exact count_serve_eq_zero h.core (OrderedMap.mem_of_getElem? hrecord)
      (audience_look.mp haudience) hsilent

theorem Accounts.step (h : state.Accounts) {event : WorkerEvent} (hnone : state.LosesNone event) :
    (state.step event).Accounts := by
  cases event with
  | request request =>
    unfold Serving.step
    dsimp only
    split
    · rename_i hidle
      exact accounts_serve h hidle hnone
    · exact h
  | work accepts clock => exact h.work hnone

theorem accounts_start {core : WovenCore} (h : Reachable core) : (start core).Accounts := by
  have hnobody : ∀ c space, ¬ (start core).Audience c space := fun c space haudience =>
    absurd haudience.recorded.mem ExtTreeMap.not_mem_empty
  refine ⟨h, ⟨?_, ?_⟩, ?_, ?_⟩
  · intro key id record hrecord
    exact placeIn_eq_some.mpr ⟨record, hrecord, rfl⟩
  · intro key id hin
    obtain ⟨record, hrecord⟩ := Option.isSome_iff_exists.mp
      (ExtTreeMap.mem_iff_isSome_getElem?.mp hin)
    exact ⟨record.space, placeIn_eq_some.mpr ⟨record, hrecord, rfl⟩⟩
  · exact fun _ _ _ c _ _ haudience => absurd haudience (hnobody c _)
  · exact fun _ _ _ c _ haudience => absurd haudience (hnobody c _)

/-- In a run in which publications and clean-ups remove nothing in silence or twice, every removal
is announced exactly once. -/
theorem run_announcesRemovals {core : WovenCore} (h : Reachable core) {events : List WorkerEvent}
    (hnone : Transition.Meets step LosesNone (start core) events) :
    Transition.Always step AnnouncesRemovals (start core) events := by
  have hrun : Transition.Always step Accounts (start core) events :=
    Transition.always_of_meets (fun _ _ haccounts hnone => haccounts.step hnone) (accounts_start h)
      hnone
  exact hrun.imp fun _ => Accounts.announcesRemovals

end Serving

end Signalweave.Transport

namespace Signalweave.Sample

open Transport

/-- The first client removes its entity, and the second one is told. -/
def removal : List WorkerEvent :=
  arrival ⟨1⟩ "a" ++ arrival ⟨2⟩ "bb" ++
    [.request (.command (.removeEntity ⟨1⟩ session ⟨1⟩)), .work (fun _ => true) clock]

end Signalweave.Sample

namespace Signalweave.Transport.Serving

theorem run_announcesRemovals_removal :
    ((Transition.run step (start Sample.narrow) Sample.removal).heard ⟨2⟩ (Sample.spaceKey 1) ⟨1⟩) =
        [false] ∧
      Transition.Always step AnnouncesRemovals (start Sample.narrow) Sample.removal := by
  refine ⟨by decide +kernel, run_announcesRemovals Sample.narrow_reachable ?_⟩
  exact ⟨trivial, trivial, trivial, trivial, trivial, trivial, trivial, trivial, trivial, trivial,
    trivial, trivial, trivial, trivial, trivial, trivial, trivial⟩

/-- The entity of the slow consumer goes with it, and the first client is not told. -/
theorem run_not_announcesRemovals : ¬ ∀ (core : WovenCore) (events : List WorkerEvent),
    Reachable core → Transition.Always step AnnouncesRemovals (start core) events := by
  intro h
  have hrun := (h Sample.narrow Sample.slowConsumer Sample.narrow_reachable).last
  obtain ⟨space, hspace, hcount⟩ := hrun rfl Sample.session ⟨2⟩ (by decide +kernel)
    (by decide +kernel)
  have hplace : (Transition.run step (start Sample.narrow) Sample.slowConsumer).places
      Sample.session ⟨2⟩ = some ⟨1⟩ := by decide +kernel
  rw [hplace] at hspace
  obtain rfl := Option.some.inj hspace
  have hone := hcount ⟨1⟩ (by decide +kernel) ⟨_, rfl, by decide +kernel⟩ (by decide +kernel)
  revert hone
  decide +kernel

end Signalweave.Transport.Serving
