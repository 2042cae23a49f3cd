import Signalweave.Transport.Announcing

/-!
# Subscribing and spawning in one request

The two operations of the request have checks of their own. Where the second one is refused, what
the first one has done stays.
-/

open Std

namespace Signalweave.Transport

open Stateful WovenCore

namespace Serving

/-- A request to subscribe and spawn that has failed has done nothing. One that has succeeded has
subscribed the connection and given it a new entity in the space, which everybody else who is
registered for the space has been told of once. -/
def AllOrNothing (state : Serving) : Prop :=
  state.tasks = [] →
    match state.request, state.reply with
    | some (.subscribeAndSpawn _ _ _), some (.spawned (.error _)) =>
      state.worker.core = state.opened
    | some (.subscribeAndSpawn connection space epoch), some (.spawned (.ok entity)) =>
      space ∈ (state.worker.core.connectionAt connection).subscriptions ∧
        (∃ record : EntityRecord,
          (state.worker.core.sessionAt space.session).entities[entity]? = some record ∧
            record.ownerConnection = connection ∧ record.space = space.space ∧
              record.spaceEpoch = epoch) ∧
        entity ∉ (state.opened.sessionAt space.session).entities ∧
        ∀ c, c ≠ connection → c ∈ state.worker.recipients → state.worker.Recorded c space →
          (state.heard c space entity).count true = 1
    | _, _ => True

/-- Who may subscribe and is not subscribed yet may spawn as well, and no connection that is found
dead takes the new entity with it. -/
def SpawnsWhole (state : Serving) : WorkerEvent → Prop
  | .request (.subscribeAndSpawn connection space epoch) => state.tasks = [] →
    SubscribeAllowed state.worker.core connection space →
      space ∉ (state.worker.core.connectionAt connection).subscriptions →
        SpawnAllowed state.worker.core connection space epoch
  | .request _ => True
  | .work _ _ =>
    match state.tasks, state.request, state.reply with
    | .cleanup connection :: _, some (.subscribeAndSpawn _ space _), some (.spawned (.ok entity)) =>
      ¬ state.worker.core.EntityFalls connection space.session entity
    | _, _, _ => True

/-- How far the request has come: it has failed, or it has spawned the entity. -/
inductive Spawned (state : Serving) (connection : ConnectionId) (space : SpaceKey)
    (epoch : SpaceEpoch) : Prop where
  | failed (error : CoreError) (reply : state.reply = some (.spawned (.error error)))
    (served : state.tasks = []) (unchanged : state.worker.core = state.opened)
  | spawned (entity : EntityId) (record : EntityRecord)
    (reply : state.reply = some (.spawned (.ok entity)))
    (quiet : ∀ c envelope, .deliver c envelope ∉ state.tasks)
    (subscribed : space ∈ (state.worker.core.connectionAt connection).subscriptions)
    (found : (state.worker.core.sessionAt space.session).entities[entity]? = some record)
    (owner : record.ownerConnection = connection) (located : record.space = space.space)
    (current : record.spaceEpoch = epoch)
    (fresh : entity ∉ (state.opened.sessionAt space.session).entities)
    (told : ∀ c, c ≠ connection → state.Audience c space →
      (state.notices c space entity).count true = 1)

/-- The request that is being served has come this far. -/
structure SpawnsSoFar (state : Serving) : Prop where
  core : Reachable state.worker.core
  spawned : ∀ connection space epoch,
    state.request = some (.subscribeAndSpawn connection space epoch) →
      state.Spawned connection space epoch

variable {state : Serving} {accepts : ConnectionId → Bool} {clock : ReleaseClock}

theorem SpawnsSoFar.allOrNothing (h : state.SpawnsSoFar) : state.AllOrNothing := by
  intro hserved
  split
  · rename_i connection space epoch error hrequest hreply
    cases h.spawned connection space epoch hrequest with
    | failed error' reply served unchanged => exact unchanged
    | spawned entity record reply =>
      rw [hreply] at reply
      cases reply
  · rename_i connection space epoch entity hrequest hreply
    cases h.spawned connection space epoch hrequest with
    | failed error' reply =>
      rw [hreply] at reply
      cases reply
    | spawned entity' record reply quiet subscribed found owner located current fresh told =>
      rw [hreply] at reply
      obtain rfl : entity = entity' := by
        injection reply with reply
        injection reply with reply
        injection reply
      refine ⟨subscribed, ⟨record, found, owner, located, current⟩, fresh, ?_⟩
      intro c hc hrecipient hrecorded
      have haudience : state.Audience c space := by
        refine ⟨hrecipient, hrecorded, ?_⟩
        rw [hserved]
        exact List.not_mem_nil
      have hcount := told c hc haudience
      unfold notices at hcount
      rw [hserved] at hcount
      simpa [Worker.coming] using hcount
  · trivial

/-! ## A call -/

/-- A fan-out and its clean-ups deliver nothing directly, and leave the answer as it is. -/
theorem work_quiet (hquiet : ∀ c envelope, .deliver c envelope ∉ state.tasks) :
    (state.work accepts clock).reply = state.reply ∧
      ∀ c envelope, .deliver c envelope ∉ (state.work accepts clock).tasks := by
  unfold work
  cases htasks : state.tasks with
  | nil =>
    refine ⟨rfl, ?_⟩
    dsimp only
    rw [htasks]
    exact fun _ _ => List.not_mem_nil
  | cons task rest =>
    rw [htasks] at hquiet
    have hrest : ∀ c envelope, .deliver c envelope ∉ rest := fun c envelope hin =>
      hquiet c envelope (List.mem_cons_of_mem _ hin)
    cases task with
    | distribute space envelope excluded =>
      refine ⟨rfl, fun c envelope' hin => ?_⟩
      rcases List.mem_append.mp hin with hin | hin
      · obtain ⟨_, -, heq⟩ := List.mem_map.mp hin
        cases heq
      · exact hrest c envelope' hin
    | deliver connection envelope => exact absurd List.mem_cons_self (hquiet connection envelope)
    | cleanup connection =>
      dsimp only
      unfold cleanupDeadConnection
      dsimp only
      split
      · refine ⟨rfl, fun c envelope' hin => ?_⟩
        rcases List.mem_append.mp hin with hin | hin
        · obtain ⟨_, -, heq⟩ := List.mem_map.mp hin
          cases heq
        · exact hrest c envelope' hin
      · exact ⟨rfl, hrest⟩
      · exact ⟨rfl, hrest⟩

theorem Spawned.work (hcore : Reachable state.worker.core) {connection : ConnectionId}
    {space : SpaceKey} {epoch : SpaceEpoch} (h : state.Spawned connection space epoch)
    (hrequest : state.request = some (.subscribeAndSpawn connection space epoch))
    (hwhole : state.SpawnsWhole (.work accepts clock)) :
    (state.work accepts clock).Spawned connection space epoch := by
  cases h with
  | failed error reply served unchanged =>
    have hsame : state.work accepts clock = state := by
      unfold Serving.work
      rw [served]
    rw [hsame]
    exact .failed error reply served unchanged
  | spawned entity record reply quiet subscribed found owner located current fresh told =>
    obtain ⟨hreply, hquiet⟩ := @work_quiet state accepts clock quiet
    rw [← @opened_work state accepts clock] at fresh
    rcases work_cases hcore accepts clock with ⟨hsessions, hkeeps, -, hnotices⟩ |
      ⟨dead, rest, removed, htasks, hloses, hnotices⟩
    · refine .spawned entity record (hreply.trans reply) hquiet
        (hkeeps.subscriptions _ _ subscribed)
        ?_ owner located current fresh ?_
      · rwa [sessionAt, hsessions, ← sessionAt]
      · intro c hc haudience
        obtain ⟨hbefore, -, hsame⟩ := hnotices c space haudience
        rw [hsame]
        exact told c hc hbefore
    · have hkept : ¬ state.worker.core.EntityFalls dead space.session entity := by
        unfold SpawnsWhole at hwhole
        rw [htasks, hrequest, reply] at hwhole
        exact hwhole
      have hconsistent := hcore.sound.consistent
      refine .spawned entity record (hreply.trans reply) hquiet ?_
        (hloses.removes.kept _ entity record found hkept) owner located current fresh ?_
      · refine (hloses.subscriptions connection space).mpr ⟨subscribed, ?_, ?_⟩
        · rintro rfl
          exact hkept (Or.inl ((mem_ownedIn hconsistent).mpr ⟨record, found, owner⟩))
        · intro hfalls
          refine hkept (Or.inr ⟨record, found, ?_⟩)
          rw [located]
          exact hfalls
      · intro c hc haudience
        obtain ⟨-, hbefore, -, hsame⟩ := hnotices c space haudience
        have hcount := told c hc hbefore
        unfold notices at hcount
        rw [List.count_append] at hcount
        rw [hsame, List.count_append, List.count_append, List.count_replicate]
        simpa using hcount

end Serving

/-! ## A request -/

/-- Whom the entry of an entity is announced to hears of it once. -/
theorem Worker.count_coming_entered {worker : Worker} {c : ConnectionId} {space : SpaceKey}
    {epoch : SpaceEpoch} {entity : EntityId} {excluded : Option ConnectionId}
    (h : c ∈ worker.targets space excluded) :
    (worker.coming [.distribute space (entityEnteredEnvelope space epoch entity) excluded] c space
      entity).count true = 1 := by
  have haddressed : c ∈ worker.addressees
      (.distribute space (entityEnteredEnvelope space epoch entity) excluded) := h
  rw [coming_cons, if_pos haddressed, Task.announces, announces_entityEntered, if_pos ⟨rfl, rfl⟩]
  rfl

/-- A subscription changes nothing that a spawn asks for. -/
theorem spawnAllowed_subscribe {core : WovenCore} {connection : ConnectionId} {space : SpaceKey}
    {epoch : SpaceEpoch} (h : SpawnAllowed core connection space epoch) :
    SpawnAllowed (core.subscribe connection space) connection space epoch := by
  have hsession : (core.subscribe connection space).sessionAt space.session = _ :=
    sessionAt_modifySession
  have hentities : ((core.subscribe connection space).sessionAt space.session).entities =
      (core.sessionAt space.session).entities := by
    rw [hsession]
    split <;> rfl
  have hspaces : ((core.subscribe connection space).sessionAt space.session).spaces =
      (core.sessionAt space.session).spaces := by
    rw [hsession]
    split <;> rfl
  obtain ⟨principal, hprincipal, hgrants⟩ := h.writes
  obtain ⟨state, hstate, hauthenticated⟩ := authenticatedPrincipal_eq_ok.mp hprincipal
  have hlive := OrderedMap.mem_of_getElem? hstate
  have hconnection : (core.subscribe connection space).connectionAt connection =
      { core.connectionAt connection with
        subscriptions := (core.connectionAt connection).subscriptions.insert space } := by
    rw [WovenCore.subscribe, connectionAt_modifySession, connectionAt_modifyConnection,
      if_pos ⟨rfl, hlive⟩]
  have hlive' : connection ∈ (core.subscribe connection space).connections := by
    rw [WovenCore.subscribe, connections_modifySession, mem_connections_modifyConnection]
    exact hlive
  refine ⟨⟨principal, authenticatedPrincipal_eq_ok.mpr ⟨_, connections_getElem? hlive', ?_⟩,
    hgrants⟩, h.nonzero, ?_, ?_, ?_, h.fresh⟩
  · rw [hconnection, connectionAt_of_some hstate]
    exact hauthenticated
  · show ∃ descriptor,
      ((core.subscribe connection space).sessionAt space.session).spaces[_]? = _ ∧ _
    rw [hspaces]
    exact h.installed
  · rw [hconnection]
    exact h.roomOwned
  · rw [hentities]
    exact h.room

namespace Serving

variable {state : Serving}

theorem spawned_serve (h : Reachable state.worker.core) (hidle : state.tasks = [])
    {connection : ConnectionId} {space : SpaceKey} {epoch : SpaceEpoch}
    (hwhole : state.SpawnsWhole (.request (.subscribeAndSpawn connection space epoch))) :
    (state.serve (.subscribeAndSpawn connection space epoch)).Spawned connection space epoch := by
  rw [serve_eq]
  apply Worker.handle_subscribeAndSpawn (P := fun answer => Spawned
    { worker := answer.1, tasks := answer.2.1,
      request := some (.subscribeAndSpawn connection space epoch), reply := answer.2.2,
      opened := state.worker.core, places := placeIn state.worker.core } connection space epoch) h
  · exact fun error _ => .failed error rfl rfl rfl
  · intro error core' _ hallowed hcore' hrefused
    refine .failed error rfl rfl ?_
    show core' = state.worker.core
    by_cases hin : space ∈ (state.worker.core.connectionAt connection).subscriptions
    · rw [hcore', if_pos hin]
    · rw [if_neg hin] at hcore'
      rw [hcore'] at hrefused
      exact absurd (spawnAllowed_subscribe (hwhole hidle hallowed hin)) hrefused
  · rintro core' core'' principal hreachable _ hallowed hcore' _ rfl
    have hsubscribed := Worker.subscribed_of_allowed hallowed hcore'
    have hconsistent := hreachable.sound.consistent
    have hkey := hconsistent.mem_sessions (hconsistent.subscriptionMember _ _ hsubscribed)
    refine .spawned ⟨core'.nextEntityId⟩ (EntityRecord.mk ⟨core'.nextEntityId⟩ connection
      principal.principalId space.space epoch none) rfl ?_
      (keeps_spawn.subscriptions _ _ hsubscribed) ?_ rfl rfl rfl ?_ ?_
    · intro c envelope hin
      cases List.mem_singleton.mp hin
    · show ((core'.spawn connection space epoch principal).sessionAt _).entities[_]? = _
      rw [entities_spawn hkey, if_pos ⟨rfl, rfl⟩]
    · have hsame : core'.nextEntityId = state.worker.core.nextEntityId := by
        rw [hcore']
        split <;> rfl
      rw [hsame]
      exact fun hin => absurd (h.sound.consistent.entityIds _ _ hin).2 (Nat.lt_irrefl _)
    · intro c hc haudience
      have htarget : c ∈ state.worker.targets space (some connection) := by
        refine Worker.mem_targets.mpr ⟨?_, haudience.recorded, haudience.recipient⟩
        intro heq
        exact hc (Option.some.inj heq).symm
      exact Worker.count_coming_entered htarget

theorem SpawnsSoFar.step (h : state.SpawnsSoFar) {event : WorkerEvent}
    (hwhole : state.SpawnsWhole event) : (state.step event).SpawnsSoFar := by
  have hlook : ∀ (next : Serving) connection space epoch, next.Spawned connection space epoch →
      next.look.Spawned connection space epoch := by
    intro next connection space epoch hspawned
    cases hspawned with
    | failed error reply served unchanged => exact .failed error reply served unchanged
    | spawned entity record reply quiet subscribed found owner located current fresh told =>
      exact .spawned entity record reply quiet subscribed found owner located current fresh
        fun c hc haudience => told c hc (audience_look.mp haudience)
  refine ⟨reachable_step h.core event, ?_⟩
  intro connection space epoch hrequest
  cases event with
  | request request =>
    unfold Serving.step at hrequest ⊢
    dsimp only at hrequest ⊢
    split at hrequest
    · rename_i hidle
      obtain rfl : request = .subscribeAndSpawn connection space epoch := Option.some.inj hrequest
      exact hlook _ _ _ _ (spawned_serve h.core hidle hwhole)
    · exact h.spawned connection space epoch hrequest
  | work accepts clock =>
    have hbefore : state.request = some (.subscribeAndSpawn connection space epoch) :=
      (@request_work state accepts clock).symm.trans hrequest
    exact hlook _ _ _ _ ((h.spawned connection space epoch hbefore).work h.core hbefore hwhole)

/-- In a run in which whoever gets the subscription gets the entity as well, and keeps it until all
are told, a request to subscribe and spawn does all or nothing. -/
theorem run_allOrNothing {core : WovenCore} (h : Reachable core) {events : List WorkerEvent}
    (hwhole : Transition.Meets step SpawnsWhole (start core) events) :
    Transition.Always step AllOrNothing (start core) events := by
  have hrun : Transition.Always step SpawnsSoFar (start core) events :=
    Transition.always_of_meets (fun _ _ hsofar hwhole => hsofar.step hwhole) ⟨h, nofun⟩ hwhole
  exact hrun.imp fun _ => SpawnsSoFar.allOrNothing

end Serving

end Signalweave.Transport

namespace Signalweave.Sample

open Transport

/-- A client of the session asks for the first space and an entity in it. -/
def entrance (epoch : SpaceEpoch) : List WorkerEvent :=
  [ .request (.command .transportConnected),
    .request (.command (.authenticate ⟨1⟩ ⟨"a"⟩)),
    .request (.command (.joinSession ⟨1⟩ session)),
    .request (.subscribeAndSpawn ⟨1⟩ (spaceKey 1) epoch) ]

/-- A second client comes to the space in which the first one is registered. -/
def freshEntrance : List WorkerEvent :=
  arrival ⟨1⟩ "a" ++
    [ .request (.command .transportConnected),
      .request (.command (.authenticate ⟨2⟩ ⟨"bb"⟩)),
      .request (.command (.joinSession ⟨2⟩ session)),
      .request (.subscribeAndSpawn ⟨2⟩ (spaceKey 1) ⟨1⟩),
      .work (fun _ => true) clock ]

end Signalweave.Sample

namespace Signalweave.Transport.Serving

theorem run_allOrNothing_freshEntrance :
    ((Transition.run step (start Sample.narrow) Sample.freshEntrance).worker.core.sessionAt
        Sample.session).entities.size = 2 ∧
      (Transition.run step (start Sample.narrow) Sample.freshEntrance).sent.map Prod.fst = [⟨1⟩] ∧
      Transition.Always step AllOrNothing (start Sample.narrow) Sample.freshEntrance := by
  refine ⟨by decide +kernel, by decide +kernel, run_allOrNothing Sample.narrow_reachable
    ⟨trivial, trivial, trivial, trivial, fun _ _ _ => ?_, ?_, trivial, trivial, trivial, trivial,
      fun _ _ _ => ?_, ?_, trivial⟩⟩
  · decide +kernel
  · exact trivial
  · decide +kernel
  · exact trivial

/-- The space is at another epoch: there is no entity, but the subscription stays. -/
theorem run_not_allOrNothing : ¬ ∀ (core : WovenCore) (events : List WorkerEvent),
    Reachable core → Transition.Always step AllOrNothing (start core) events := by
  intro h
  have hsame := (h Sample.narrow (Sample.entrance ⟨2⟩) Sample.narrow_reachable).last rfl
  have hsubscribed := congrArg (fun core : WovenCore =>
    decide (Sample.spaceKey 1 ∈ (core.connectionAt ⟨1⟩).subscriptions)) hsame
  revert hsubscribed
  decide +kernel

end Signalweave.Transport.Serving
