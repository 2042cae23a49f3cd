import Signalweave.Core.SpaceGraph
import Signalweave.Transport.Announcing

/-!
# What a connection is told last

The last that a request tells a connection of an entity in a space is whether it is there. It is
not when the entity falls while its entry into the space is still to be announced.
-/

open Std

namespace Signalweave.Transport

open Protocol (Envelope)
open Stateful WovenCore

/-- The entity is in the space. -/
def Present (core : WovenCore) (space : SpaceKey) (id : EntityId) : Prop :=
  placeIn core space.session id = some space.space

theorem present_iff {core : WovenCore} {space : SpaceKey} {id : EntityId} : Present core space id ↔
    ∃ record, (core.sessionAt space.session).entities[id]? = some record ∧
      record.space = space.space := Serving.placeIn_eq_some

theorem Present.mem {core : WovenCore} {space : SpaceKey} {id : EntityId}
    (h : Present core space id) : id ∈ (core.sessionAt space.session).entities := by
  obtain ⟨record, hrecord, -⟩ := present_iff.mp h
  exact OrderedMap.mem_of_getElem? hrecord

namespace Serving

/-- When a request has been served, the last that anybody registered for a space has been told of an
entity there is whether it is there. -/
def EndsInTruth (state : Serving) : Prop :=
  state.tasks = [] → ∀ c space id b, c ∈ state.worker.recipients → state.worker.Recorded c space →
    (state.heard c space id).getLast? = some b → (b = true ↔ Present state.worker.core space id)

/-- An envelope that is handed on tells the truth, and no entity falls with a dead connection whose
entry is the last that somebody is still to be told. -/
def TellsTruth (state : Serving) : WorkerEvent → Prop
  | .request (.broadcastToSpace s envelope exclude) => state.tasks = [] → ∀ c space id b,
    c ∈ state.worker.targets s exclude → state.worker.Recorded c space →
      announces envelope space id = some b → (b = true ↔ Present state.worker.core space id)
  | .request (.sendToConnection c envelope) => state.tasks = [] → ∀ space id b,
    c ∈ state.worker.recipients → state.worker.Recorded c space →
      announces envelope space id = some b → (b = true ↔ Present state.worker.core space id)
  | .request _ => True
  | .work _ _ =>
    match state.tasks with
    | .cleanup connection :: _ => ∀ c space id,
      state.worker.core.EntityFalls connection space.session id →
      Present state.worker.core space id → c ≠ connection → state.Audience c space →
        (state.worker.coming state.tasks c space id).getLast? ≠ some true
    | _ => True

/-- All that is told and is to be told ends in the truth. -/
structure Truthful (state : Serving) : Prop where
  core : Reachable state.worker.core
  ends : ∀ c space id b, state.Audience c space →
    (state.notices c space id).getLast? = some b → (b = true ↔ Present state.worker.core space id)

variable {state : Serving} {accepts : ConnectionId → Bool} {clock : ReleaseClock}

theorem Truthful.endsInTruth (h : state.Truthful) : state.EndsInTruth := by
  intro hserved c space id b hrecipient hrecorded hlast
  have haudience : state.Audience c space := by
    refine ⟨hrecipient, hrecorded, ?_⟩
    rw [hserved]
    exact List.not_mem_nil
  refine h.ends c space id b haudience ?_
  unfold notices
  rw [hserved]
  simpa [Worker.coming] using hlast

/-! ## A call -/

theorem present_of_sessions {core core' : WovenCore} {space : SpaceKey} {id : EntityId}
    (h : core'.sessions = core.sessions) : Present core' space id ↔ Present core space id := by
  rw [present_iff, present_iff, sessionAt, h, ← sessionAt]

/-- What is left of the places when a connection is lost. -/
theorem present_of_loses {core core' : WovenCore} {connection : ConnectionId}
    {removed : List RemovedEntity} (h : Loses core core' connection removed) {space : SpaceKey}
    {id : EntityId} : Present core' space id ↔
      Present core space id ∧ ¬ core.EntityFalls connection space.session id := by
  rw [present_iff, present_iff]
  constructor
  · rintro ⟨record, hrecord, hspace⟩
    exact ⟨⟨record, h.removes.old _ id record hrecord, hspace⟩,
      fun hfalls => h.removes.gone _ id hfalls (OrderedMap.mem_of_getElem? hrecord)⟩
  · rintro ⟨⟨record, hrecord, hspace⟩, hkept⟩
    exact ⟨record, h.removes.kept _ id record hrecord hkept, hspace⟩

theorem Truthful.work (h : state.Truthful) (htruth : state.TellsTruth (.work accepts clock)) :
    (state.work accepts clock).Truthful := by
  refine ⟨reachable_step h.core (.work accepts clock), ?_⟩
  intro c space id b haudience hlast
  rcases work_cases h.core accepts clock with ⟨hsessions, -, -, hnotices⟩ |
    ⟨connection, rest, removed, htasks, hloses, hnotices⟩
  · obtain ⟨hbefore, -, hsame⟩ := hnotices c space haudience
    rw [hsame] at hlast
    rw [present_of_sessions hsessions]
    exact h.ends c space id b hbefore hlast
  · obtain ⟨hne, hbefore, -, hsame⟩ := hnotices c space haudience
    rw [hsame] at hlast
    have hold := h.ends c space id b hbefore
    unfold notices at hold
    rw [present_of_loses hloses]
    by_cases hfalls : state.worker.core.EntityFalls connection space.session id
    · -- The entity has gone: whatever comes last must say so.
      refine iff_of_false ?_ fun hpresent => hpresent.2 hfalls
      rintro rfl
      simp only [List.getLast?_append, List.getLast?_replicate] at hlast hold
      cases hcoming : (state.worker.coming state.tasks c space id).getLast? with
      | some last =>
        rw [hcoming] at hlast hold
        obtain rfl : last = true := by simpa using hlast
        have hpresent := (hold rfl).mp trivial
        unfold TellsTruth at htruth
        rw [htasks] at htruth hcoming
        exact htruth c space id hfalls hpresent hne hbefore hcoming
      | none =>
        rw [hcoming] at hlast hold
        split at hlast
        · rename_i hzero
          have hpresent : Present state.worker.core space id := (hold hlast).mp trivial
          obtain ⟨record, hrecord, hspace⟩ := present_iff.mp hpresent
          have hone := hloses.removes.listed _ id record space.space hrecord hfalls
          rw [if_pos hspace] at hone
          exact absurd (hzero.symm.trans hone) (by decide)
        · cases hlast
    · rw [timesRemoved_eq_zero_of_loses hloses hfalls] at hlast
      rw [hold hlast]
      exact ⟨fun hpresent => ⟨hpresent, hfalls⟩, And.left⟩

/-! ## A request -/

theorem present_spawn {core : WovenCore} {connection : ConnectionId} {space : SpaceKey}
    {epoch : SpaceEpoch} {principal : AuthenticatedPrincipal}
    (hkey : space.session ∈ core.sessions) :
    Present (core.spawn connection space epoch principal) space ⟨core.nextEntityId⟩ := by
  rw [present_iff, entities_spawn hkey, if_pos ⟨rfl, rfl⟩]
  exact ⟨_, rfl, rfl⟩

/-- What a spawn says. -/
theorem ends_spawn {core : WovenCore} {connection : ConnectionId} {s space : SpaceKey}
    {epoch : SpaceEpoch} {principal : AuthenticatedPrincipal} {excluded : Option ConnectionId}
    {id : EntityId} {b : Bool} (hkey : s.session ∈ core.sessions)
    (hannounced : Task.announces (.distribute s
      (entityEnteredEnvelope s epoch ⟨core.nextEntityId⟩) excluded) space id = some b) :
    b = true ↔ Present (core.spawn connection s epoch principal) space id := by
  rw [Task.announces, announces_entityEntered] at hannounced
  split at hannounced
  · rename_i hsame
    obtain ⟨rfl, rfl⟩ := hsame
    obtain rfl := Option.some.inj hannounced
    exact iff_of_true rfl (present_spawn hkey)
  · cases hannounced

/-- Where an entity is after its transition. -/
theorem present_transition {core core' : WovenCore} {request : EntityTransitionRequest}
    (hchecked : core.checkTransition request = .ok ())
    (hmoves : request.sourceSpace = request.destinationSpace ∧ core' = core ∨
      request.sourceSpace ≠ request.destinationSpace ∧ core' = core.transition request)
    {space : SpaceId} : Present core' ⟨request.session, space⟩ request.entity ↔
      space = request.destinationSpace := by
  obtain ⟨record, hrecord⟩ := checkTransition_eq_ok hchecked
  rw [present_iff]
  rcases hmoves with ⟨hsame, rfl⟩ | ⟨hne, rfl⟩
  · rw [hrecord.found]
    simp only [Option.some.injEq, exists_eq_left', hrecord.space, hsame]
    exact eq_comm
  · rw [WovenCore.transition, sessionAt_mapConnections, sessionAt_modifySession,
      if_pos ⟨rfl, hrecord.provisioned⟩, SessionState.transition_eq, OrderedMap.getElem?_modify,
      if_pos rfl, hrecord.found]
    simp only [Option.map_some, Option.some.injEq, exists_eq_left']
    exact eq_comm

/-- What the transition says is where the entity is then. -/
theorem ends_transition {worker : Worker} {core' : WovenCore} {request : EntityTransitionRequest}
    (hchecked : worker.core.checkTransition request = .ok ())
    (hmoves : request.sourceSpace = request.destinationSpace ∧ core' = worker.core ∨
      request.sourceSpace ≠ request.destinationSpace ∧ core' = worker.core.transition request)
    {c : ConnectionId} {space : SpaceKey} {id : EntityId} {b : Bool}
    (hrecipient : c ∈ worker.recipients) (hrecorded : worker.Recorded c space)
    (hlast : (worker.coming (distributeTransition
      (EntityTransition.mk request.entity request.session
      request.sourceSpace request.sourceEpoch request.destinationSpace request.destinationEpoch))
        c space id).getLast? = some b) : b = true ↔ Present core' space id := by
  have htarget : c ∈ worker.targets space none :=
    Worker.mem_targets.mpr ⟨(Option.some_ne_none c).symm, hrecorded, hrecipient⟩
  unfold distributeTransition at hlast
  rw [Worker.coming_cons, List.getLast?_append] at hlast
  by_cases hentered : (⟨request.session, request.destinationSpace⟩ : SpaceKey) = space ∧
      request.entity = id
  · obtain ⟨rfl, rfl⟩ := hentered
    have hsecond : (worker.coming [.distribute ⟨request.session, request.destinationSpace⟩
        (entityEnteredEnvelope ⟨request.session, request.destinationSpace⟩ request.destinationEpoch
          request.entity) none] c ⟨request.session, request.destinationSpace⟩
          request.entity).getLast? = some true := by
      refine Worker.getLast?_coming_singleton.mpr ⟨htarget, ?_⟩
      rw [Task.announces, announces_entityEntered, if_pos ⟨rfl, rfl⟩]
    rw [hsecond] at hlast
    obtain rfl := Option.some.inj hlast
    exact iff_of_true rfl ((present_transition hchecked hmoves).mpr rfl)
  · have hsecond : (worker.coming [.distribute ⟨request.session, request.destinationSpace⟩
        (entityEnteredEnvelope ⟨request.session, request.destinationSpace⟩ request.destinationEpoch
          request.entity) none] c space id).getLast? = none := by
      rw [Option.eq_none_iff_forall_ne_some]
      intro b' hb'
      have hannounced := (Worker.getLast?_coming_singleton.mp hb').2
      rw [Task.announces, announces_entityEntered, if_neg hentered] at hannounced
      cases hannounced
    rw [hsecond, Option.none_or] at hlast
    -- Only its departure is told, from a space that it is not in.
    split at hlast
    · rw [Task.announces, announces_entityLeft] at hlast
      split at hlast
      · rename_i hleft
        obtain ⟨rfl, rfl⟩ := hleft
        obtain rfl := Option.some.inj hlast
        refine iff_of_false Bool.false_ne_true fun hthere => hentered ⟨?_, rfl⟩
        rw [(present_transition hchecked hmoves).mp hthere]
      · cases hlast
    · cases hlast

theorem truthful_serve (h : Reachable state.worker.core) {request : WorkerRequest}
    (hidle : state.tasks = []) (htruth : state.TellsTruth (.request request)) {c : ConnectionId}
    {space : SpaceKey} {id : EntityId} {b : Bool}
    (haudience : (state.serve request).Audience c space)
    (hlast : ((state.serve request).worker.coming (state.serve request).tasks c space id).getLast? =
      some b) : b = true ↔ Present (state.serve request).worker.core space id := by
  by_cases hplain : request.plain
  · obtain ⟨removed, reason, htasks, hlists⟩ := Worker.announces_plain h hplain
    have hcoming : (state.serve request).tasks = removed.map (distributeRemovedEntity reason) :=
      htasks
    rw [hcoming, Worker.coming_distributeRemoved _ _ haudience.recipient haudience.recorded,
      List.getLast?_replicate] at hlast
    split at hlast
    · cases hlast
    · rename_i hlisted
      obtain rfl := Option.some.inj hlast
      refine iff_of_false nofun fun hpresent => hlisted ?_
      exact hlists.kept space.session id space.space hpresent.mem
  · obtain ⟨hrecipient, hrecorded, -⟩ := haudience
    revert hrecipient hrecorded hlast
    cases request with
    | command command =>
      cases command with
      | spawnEntity connection s epoch =>
        apply Worker.handle_of_ends (P := fun answer =>
          (answer.1.coming answer.2.1 c space id).getLast? = some b → c ∈ answer.1.recipients →
          answer.1.Recorded c space → (b = true ↔ Present answer.1.core space id)) rfl
          spawnEntity_spawns
        · rintro entity core' ⟨rfl, hkey, ⟨principal, -, rfl⟩, -⟩ hlast _ _
          exact ends_spawn hkey (Worker.getLast?_coming_singleton.mp hlast).2
        · intro error core' _ hlast _ _
          cases hlast
      | transitionEntity request =>
        apply Worker.handle_of_ends (P := fun answer =>
          (answer.1.coming answer.2.1 c space id).getLast? = some b → c ∈ answer.1.recipients →
          answer.1.Recorded c space → (b = true ↔ Present answer.1.core space id)) rfl
          (transitionEntity_ends.and transitionEntity_answers)
        · rintro transition core' ⟨⟨hchecked, hmoves⟩, rfl⟩ hlast hrecipient hrecorded
          exact ends_transition hchecked hmoves hrecipient hrecorded hlast
        · intro error core' _ hlast _ _
          cases hlast
      | publish publication now call clock =>
        intro hlast _ _
        rw [show (state.serve (.command (.publish publication now call clock))).tasks = [] from
          Worker.tasks_publish] at hlast
        cases hlast
      | _ => exact absurd trivial hplain
    | subscribeAndSpawn connection s epoch =>
      apply Worker.handle_subscribeAndSpawn (P := fun answer =>
        (answer.1.coming answer.2.1 c space id).getLast? = some b → c ∈ answer.1.recipients →
        answer.1.Recorded c space → (b = true ↔ Present answer.1.core space id)) h
      · intro error _ hlast
        cases hlast
      · intro error core' _ _ _ _ hlast
        cases hlast
      · rintro core' core'' principal hreachable _ hallowed hcore' _ rfl hlast _ _
        have hsubscribed := Worker.subscribed_of_allowed hallowed hcore'
        have hconsistent := hreachable.sound.consistent
        have hkey := hconsistent.mem_sessions (hconsistent.subscriptionMember _ _ hsubscribed)
        exact ends_spawn hkey (Worker.getLast?_coming_singleton.mp hlast).2
    | broadcastToSpace s envelope exclude =>
      intro hlast hrecipient hrecorded
      obtain ⟨hc, hannounced⟩ := Worker.getLast?_coming_singleton.mp hlast
      exact htruth hidle c space id b hc hrecorded hannounced
    | sendToConnection connection envelope =>
      intro hlast hrecipient hrecorded
      obtain ⟨hc, hannounced⟩ := Worker.getLast?_coming_singleton.mp hlast
      obtain rfl : c = connection := by
        unfold Worker.addressees at hc
        dsimp only at hc
        split at hc
        · exact List.mem_singleton.mp hc
        · cases hc
      exact htruth hidle space id b hrecipient hrecorded hannounced
    | _ => exact absurd trivial hplain

theorem Truthful.step (h : state.Truthful) {event : WorkerEvent} (htruth : state.TellsTruth event) :
    (state.step event).Truthful := by
  have hlook : ∀ next : Serving, next.Truthful → next.look.Truthful := fun next hnext =>
    ⟨hnext.core, fun c space id b haudience => hnext.ends c space id b (audience_look.mp haudience)⟩
  cases event with
  | request request =>
    unfold Serving.step
    dsimp only
    split
    · rename_i hidle
      exact hlook _ ⟨Worker.reachable_handle h.core request, fun c space id b haudience =>
        truthful_serve h.core hidle htruth haudience⟩
    · exact h
  | work accepts clock => exact hlook _ (h.work htruth)

/-- In a run that hands on the truth only, and in which no entity falls between the two halves of
its transition, every stream of notices ends in the truth. -/
theorem run_endsInTruth {core : WovenCore} (h : Reachable core) {events : List WorkerEvent}
    (htruth : Transition.Meets step TellsTruth (start core) events) :
    Transition.Always step EndsInTruth (start core) events := by
  have hstart : (start core).Truthful := by
    refine ⟨h, ?_⟩
    intro c space id b haudience
    exact absurd haudience.recorded.mem ExtTreeMap.not_mem_empty
  have hrun : Transition.Always step Truthful (start core) events :=
    Transition.always_of_meets (fun _ _ htruthful htruth => htruthful.step htruth) hstart htruth
  exact hrun.imp fun _ => Truthful.endsInTruth

end Serving

end Signalweave.Transport

namespace Signalweave.Sample

open Transport

/-- The entity of the first client goes from the first space to the second one. -/
def crossing : EntityTransitionRequest :=
  { connection := ⟨1⟩, session, entity := ⟨1⟩, sourceSpace := ⟨1⟩, sourceEpoch := ⟨1⟩,
    destinationSpace := ⟨2⟩, destinationEpoch := ⟨1⟩ }

/-- Two clients are in both spaces, and the first one moves. -/
def departure : List WorkerEvent :=
  arrival ⟨1⟩ "a" ++ arrival ⟨2⟩ "bb" ++
    [ .request (.command (.subscribe ⟨1⟩ (spaceKey 2))),
      .request (.command (.subscribe ⟨2⟩ (spaceKey 2))),
      .request (.command (.transitionEntity crossing)) ]

/-- A call for which the channels of the others have room. -/
def workWithout (connection : ConnectionId) : WorkerEvent :=
  .work (fun c => decide (c ≠ connection)) clock

end Signalweave.Sample

namespace Signalweave.Transport.Serving

theorem run_endsInTruth_departure :
    ((Transition.run step (start Sample.narrow) (Sample.departure ++
        [Sample.workWithout ⟨3⟩, Sample.workWithout ⟨3⟩])).heard ⟨2⟩ (Sample.spaceKey 2) ⟨1⟩) =
          [true] ∧
      Transition.Always step EndsInTruth (start Sample.narrow) (Sample.departure ++
        [Sample.workWithout ⟨3⟩, Sample.workWithout ⟨3⟩]) := by
  refine ⟨by decide +kernel, run_endsInTruth Sample.narrow_reachable ?_⟩
  exact ⟨trivial, trivial, trivial, trivial, trivial, trivial, trivial, trivial, trivial, trivial,
    trivial, trivial, trivial, trivial, trivial, trivial, trivial, trivial, trivial, trivial⟩

/-- The first client is found dead when it is to be told of its own departure. The second one is
told that the entity has gone from the second space, and then that it has entered it. -/
theorem run_not_endsInTruth : ¬ ∀ (core : WovenCore) (events : List WorkerEvent),
    Reachable core → Transition.Always step EndsInTruth (start core) events := by
  intro h
  have hrun := (h Sample.narrow (Sample.departure ++ [Sample.workWithout ⟨1⟩,
    Sample.workWithout ⟨1⟩, Sample.workWithout ⟨1⟩, Sample.workWithout ⟨1⟩])
      Sample.narrow_reachable).last
  have htold := (hrun rfl ⟨2⟩ (Sample.spaceKey 2) ⟨1⟩ true (by decide +kernel)
    ⟨_, rfl, by decide +kernel⟩ (by decide +kernel)).mp rfl
  revert htold
  unfold Present
  decide +kernel

end Signalweave.Transport.Serving
