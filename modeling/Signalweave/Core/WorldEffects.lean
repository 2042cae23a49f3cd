import Signalweave.Core.Withdrawals

/-!
# What the operations that take nothing away do to the world
-/

open Std

namespace Signalweave

namespace WovenCore

variable {core : WovenCore} {connection : ConnectionId} {key : SessionKey} {spaceKey : SpaceKey}
  {id : EntityId}

/-! ## People -/

/-- A connection changes what it is a member of and what it reads, and a session who they are. -/
theorem world_modifyBoth (hlive : connection ∈ core.connections)
    {g : ConnectionState → ConnectionState} {f : SessionState → SessionState}
    (hauthenticated : ∀ state, (g state).authenticated = state.authenticated)
    (hspaces : ∀ session, (f session).spaces = session.spaces)
    (hentities : ∀ session, (f session).entities = session.entities)
    (hstate : ∀ session, (f session).state = session.state) :
    ((core.modifyConnection connection g).modifySession key f).world =
      { core.world with
        member := {pair | pair.2 ∈ (if pair.1 = connection then g (core.connectionAt pair.1)
          else core.connectionAt pair.1).memberships}
        reads := {pair | pair.2 ∈ (if pair.1 = connection then g (core.connectionAt pair.1)
          else core.connectionAt pair.1).subscriptions} } := by
  have hat : ∀ c, ((core.modifyConnection connection g).modifySession key f).connectionAt c =
      if c = connection then g (core.connectionAt c) else core.connectionAt c := by
    intro c
    rw [connectionAt_modifySession, connectionAt_modifyConnection]
    simp only [hlive, and_true]
  obtain ⟨hspace, hentity, hvalue⟩ := @contents_modifySession
    (core.modifyConnection connection g) key f hspaces hentities hstate
  refine World.ext rfl ?_ ?_ ?_ ?_ ?_ hspace hentity hvalue
  · ext k
    exact mem_sessions_modifySession
  · ext c
    exact mem_connections_modifyConnection
  · funext c
    show (WovenCore.connectionAt _ c).authenticated = (core.connectionAt c).authenticated
    rw [hat]
    split
    · exact hauthenticated _
    · rfl
  · ext ⟨c, k⟩
    show k ∈ (WovenCore.connectionAt _ c).memberships ↔ _
    rw [hat]
    rfl
  · ext ⟨c, s⟩
    show s ∈ (WovenCore.connectionAt _ c).subscriptions ↔ _
    rw [hat]
    rfl

theorem world_join (hlive : connection ∈ core.connections) :
    (core.join connection key).world =
      { core.world with member := insert (connection, key) core.world.member } := by
  refine (world_modifyBoth hlive ?_ ?_ ?_ ?_).trans (World.ext rfl rfl rfl rfl ?_ ?_ rfl rfl rfl)
  any_goals exact fun _ => rfl
  · ext ⟨c, k⟩
    show k ∈ (ite _ _ _ : ConnectionState).memberships ↔
      (c, k) = (connection, key) ∨ k ∈ (core.connectionAt c).memberships
    split
    · rename_i hc
      obtain rfl : c = connection := hc
      rw [OrderedSet.mem_insert]
      simp
    · rename_i hc
      simp [hc]
  · ext ⟨c, s⟩
    show s ∈ (ite _ _ _ : ConnectionState).subscriptions ↔ s ∈ (core.connectionAt c).subscriptions
    split <;> rfl

theorem world_subscribe (hlive : connection ∈ core.connections) :
    (core.subscribe connection spaceKey).world =
      { core.world with reads := insert (connection, spaceKey) core.world.reads } := by
  refine (world_modifyBoth hlive ?_ ?_ ?_ ?_).trans (World.ext rfl rfl rfl rfl ?_ ?_ rfl rfl rfl)
  any_goals exact fun _ => rfl
  · ext ⟨c, k⟩
    show k ∈ (ite _ _ _ : ConnectionState).memberships ↔ k ∈ (core.connectionAt c).memberships
    split <;> rfl
  · ext ⟨c, s⟩
    show s ∈ (ite _ _ _ : ConnectionState).subscriptions ↔
      (c, s) = (connection, spaceKey) ∨ s ∈ (core.connectionAt c).subscriptions
    split
    · rename_i hc
      obtain rfl : c = connection := hc
      rw [OrderedSet.mem_insert]
      simp
    · rename_i hc
      simp [hc]

theorem world_unsubscribe (hlive : connection ∈ core.connections) :
    (core.unsubscribe connection spaceKey).world =
      { core.world with reads := core.world.reads \ {(connection, spaceKey)} } := by
  refine (world_modifyBoth hlive ?_ ?_ ?_ ?_).trans (World.ext rfl rfl rfl rfl ?_ ?_ rfl rfl rfl)
  any_goals exact fun _ => rfl
  · ext ⟨c, k⟩
    show k ∈ (ite _ _ _ : ConnectionState).memberships ↔ k ∈ (core.connectionAt c).memberships
    split <;> rfl
  · ext ⟨c, s⟩
    show s ∈ (ite _ _ _ : ConnectionState).subscriptions ↔
      s ∈ (core.connectionAt c).subscriptions ∧ (c, s) ≠ (connection, spaceKey)
    split
    · rename_i hc
      obtain rfl : c = connection := hc
      show s ∈ (core.connectionAt c).subscriptions.erase spaceKey ↔ _
      rw [OrderedSet.mem_erase]
      simp [and_comm]
    · rename_i hc
      simp [hc]

/-- A new connection has done nothing yet. -/
theorem world_connect {outbound : OutboundQueue} {next : Nat}
    (hfresh : connection ∉ core.connections) :
    WovenCore.world { core with
      nextConnectionId := next
      connections := core.connections.insert connection { outbound } } =
        { core.world with online := insert connection core.world.online } := by
  have hat : ∀ c, WovenCore.connectionAt { core with
      nextConnectionId := next
      connections := core.connections.insert connection { outbound } } c =
        if c = connection then { outbound } else core.connectionAt c := by
    intro c
    unfold connectionAt
    show ((core.connections.insert connection { outbound })[c]?).getD _ = _
    rw [OrderedMap.getElem?_insert]
    split <;> rfl
  have hsame : ∀ c state, state = (if c = connection then { outbound } else core.connectionAt c) →
      state.authenticated = (core.connectionAt c).authenticated ∧
        state.memberships = (core.connectionAt c).memberships ∧
          state.subscriptions = (core.connectionAt c).subscriptions := by
    rintro c _ rfl
    split
    · rename_i hc
      rw [hc, connectionAt_of_notMem hfresh]
      exact ⟨rfl, rfl, rfl⟩
    · exact ⟨rfl, rfl, rfl⟩
  refine World.ext rfl rfl ?_ ?_ ?_ ?_ rfl rfl rfl
  · ext c
    exact OrderedMap.mem_insert
  · funext c
    exact (hsame c _ (hat c)).1
  · ext ⟨c, k⟩
    exact iff_of_eq (congrArg (k ∈ ·) (hsame c _ (hat c)).2.1)
  · ext ⟨c, s⟩
    exact iff_of_eq (congrArg (s ∈ ·) (hsame c _ (hat c)).2.2)

theorem world_signIn {principal : AuthenticatedPrincipal} (hlive : connection ∈ core.connections) :
    (core.modifyConnection connection fun state =>
      { state with authenticated := some principal }).world =
        { core.world with principal := fun c =>
            if c = connection then some principal else core.world.principal c } := by
  have hat : ∀ c, (core.modifyConnection connection fun state =>
      { state with authenticated := some principal }).connectionAt c =
        if c = connection then { core.connectionAt c with authenticated := some principal }
        else core.connectionAt c := by
    intro c
    rw [connectionAt_modifyConnection]
    simp only [hlive, and_true]
  refine World.ext rfl rfl ?_ ?_ ?_ ?_ rfl rfl rfl
  · ext c
    exact mem_connections_modifyConnection
  · funext c
    show (WovenCore.connectionAt _ c).authenticated =
      if c = connection then _ else (core.connectionAt c).authenticated
    rw [hat]
    split <;> rfl
  · ext ⟨c, k⟩
    show k ∈ (WovenCore.connectionAt _ c).memberships ↔ k ∈ (core.connectionAt c).memberships
    rw [hat]
    split <;> rfl
  · ext ⟨c, s⟩
    show s ∈ (WovenCore.connectionAt _ c).subscriptions ↔ s ∈ (core.connectionAt c).subscriptions
    rw [hat]
    split <;> rfl

/-! ## Entities -/

theorem world_spawn {epoch : SpaceEpoch} {principal : AuthenticatedPrincipal}
    (hkey : spaceKey.session ∈ core.sessions) :
    (core.spawn connection spaceKey epoch principal).world =
      core.world.setEntity spaceKey.session ⟨core.nextEntityId⟩ (some
        { id := ⟨core.nextEntityId⟩, ownerConnection := connection,
          ownerPrincipal := principal.principalId, space := spaceKey.space, spaceEpoch := epoch,
          position := none }) := by
  have hpeople := @world_modifyConnection core connection
    (fun state => { state with ownedEntities := state.ownedEntities + 1 })
    (fun _ => rfl) (fun _ => rfl) fun _ => rfl
  have hat : ∀ k, (core.spawn connection spaceKey epoch principal).sessionAt k =
      { core.sessionAt k with
        entities := ((core.spawn connection spaceKey epoch principal).sessionAt k).entities } := by
    intro k
    unfold spawn
    simp only [sessionAt_modifyConnection]
    rw [sessionAt_modifySession]
    split <;> rfl
  refine World.ext rfl ?_ ?_ ?_ ?_ ?_ ?_ ?_ ?_
  · ext k
    exact mem_sessions_modifySession
  · exact (congrArg World.online hpeople :)
  · exact (congrArg World.principal hpeople :)
  · exact (congrArg World.member hpeople :)
  · exact (congrArg World.reads hpeople :)
  · funext s
    show ((core.spawn connection spaceKey epoch principal).sessionAt s.session).spaces[s.space]? = _
    rw [hat]
    rfl
  · funext k i
    exact entities_spawn hkey
  · funext k stateKey
    show ((core.spawn connection spaceKey epoch principal).sessionAt k).state[stateKey]? = _
    rw [hat]
    rfl

/-- A session changes one of its entities and what is indexed by it, and nothing else that is in
the world. -/
theorem world_modifyEntity {f : SessionState → SessionState} {g : EntityRecord → EntityRecord}
    {record : EntityRecord} (hkey : key ∈ core.sessions)
    (hfound : (core.sessionAt key).entities[id]? = some record)
    (hspaces : ∀ session, (f session).spaces = session.spaces)
    (hentities : ∀ session, (f session).entities = session.entities.modify id g) :
    (core.modifySession key f).world.space = core.world.space ∧
      (core.modifySession key f).world.entity =
        (core.world.setEntity key id (some (g record))).entity := by
  constructor
  · funext s
    show ((core.modifySession key f).sessionAt s.session).spaces[s.space]? =
      (core.sessionAt s.session).spaces[s.space]?
    rw [sessionAt_modifySession]
    split
    · rw [hspaces]
    · rfl
  · funext k i
    show ((core.modifySession key f).sessionAt k).entities[i]? =
      if k = key ∧ i = id then some (g record) else (core.sessionAt k).entities[i]?
    rw [sessionAt_modifySession]
    by_cases hk : k = key
    · subst hk
      simp only [hkey, and_true, if_true, true_and, hentities, OrderedMap.getElem?_modify]
      split
      · rename_i hi
        rw [hi, hfound]
        rfl
      · rfl
    · rw [if_neg fun h => hk h.1, if_neg fun h => hk h.1]

theorem world_move {cell : Option SpatialCellKey} {position : EntityPosition}
    {record : EntityRecord} (hkey : key ∈ core.sessions)
    (hfound : (core.sessionAt key).entities[id]? = some record) :
    (core.modifySession key fun session => (session.moveToCell id cell).modifyEntity id
      fun record => { record with position := some position }).world =
        core.world.setEntity key id (some { record with position := some position }) := by
  have hmoves : ∀ session : SessionState,
      (session.moveToCell id cell).modifyEntity id
        (fun record => { record with position := some position }) =
      { session with
        entities := session.entities.modify id fun record =>
          { record with position := some position }
        entityCells := (session.moveToCell id cell).entityCells
        cellEntities := (session.moveToCell id cell).cellEntities } := by
    intro session
    rw [SessionState.moveToCell_eq]
    rfl
  simp only [hmoves]
  obtain ⟨hspace, hentity⟩ := world_modifyEntity (f := fun session : SessionState =>
    { session with
        entities := session.entities.modify id fun record =>
          { record with position := some position }
        entityCells := (session.moveToCell id cell).entityCells
        cellEntities := (session.moveToCell id cell).cellEntities }) hkey hfound (fun _ => rfl)
    fun _ => rfl
  refine World.ext rfl ?_ rfl rfl rfl rfl hspace hentity ?_
  · ext k
    exact mem_sessions_modifySession
  · funext k stateKey
    show (WovenCore.sessionAt _ k).state[stateKey]? = (core.sessionAt k).state[stateKey]?
    rw [sessionAt_modifySession]
    split <;> rfl

/-- A placed entity takes nothing down with it. -/
theorem stands_transition {request : EntityTransitionRequest} {record : EntityRecord}
    (hlawful : core.world.Lawful) (hchecked : core.TransitionChecked request record) {thing : Thing}
    (hthing : (core.world.setEntity request.session request.entity
      (some (request.place record))).Has thing) :
    ¬ (core.world.setEntity request.session request.entity
      (some (request.place record))).Falls thing := by
  refine World.stands_of_supported (fun k i placed hplaced => ?_)
    (fun s descriptor parent hfound hnested => ?_) hthing
  · by_cases hsame : k = request.session ∧ i = request.entity
    · obtain ⟨rfl, rfl⟩ := hsame
      obtain rfl := Option.some.inj ((if_pos ⟨rfl, rfl⟩).symm.trans hplaced)
      exact ⟨(hlawful.supported _ _ _ hchecked.found).1, hchecked.destination⟩
    · exact hlawful.supported k i placed ((if_neg hsame).symm.trans hplaced)
  · obtain ⟨hparent, hanchor⟩ := hlawful.anchored s descriptor parent hfound hnested
    refine ⟨hparent, ?_⟩
    unfold World.setEntity
    dsimp only
    split
    · rfl
    · exact hanchor

/-- Of the values of the session, the transition leaves those that are still in scope. -/
theorem state_transition_iff {request : EntityTransitionRequest} {record : EntityRecord}
    {stateKey : StateKey} {value : StateRecord} (hlawful : core.world.Lawful)
    (hchecked : core.TransitionChecked request record)
    (hmoves : request.sourceSpace ≠ request.destinationSpace) :
    ((core.sessionAt request.session).transition request).state[stateKey]? = some value ↔
      ((core.sessionAt request.session).transition request).InScope stateKey.space
          stateKey.spaceEpoch stateKey.entity ∧
        (core.sessionAt request.session).state[stateKey]? = some value := by
  have hstate : ((core.sessionAt request.session).transition request).state =
      (core.sessionAt request.session).state.filter fun key _ =>
        !request.leaves key.space key.spaceEpoch key.entity := by
    rw [SessionState.transition_eq]
  rw [hstate, OrderedMap.getElem?_filter]
  constructor
  · rintro ⟨hfound, hkept⟩
    have hscope : (core.sessionAt request.session).InScope stateKey.space stateKey.spaceEpoch
        stateKey.entity := (hlawful.value request.session stateKey value hfound).1
    exact ⟨hscope.transition hchecked.found hchecked.space hchecked.source (by simpa using hkept),
      hfound⟩
  · rintro ⟨hafter, hfound⟩
    refine ⟨hfound, ?_⟩
    rw [Bool.not_eq_true', Bool.eq_false_iff]
    -- The entity itself is at its new place.
    intro hleaves
    obtain ⟨hleft, -, hid⟩ := SessionState.EntityTransitionRequest.leaves_iff.mp hleaves
    obtain ⟨after, hafter, hlocated⟩ := hafter.2 _ hid
    rw [SessionState.transition_eq, OrderedMap.getElem?_modify, if_pos rfl,
      hchecked.found] at hafter
    obtain rfl := Option.some.inj hafter
    exact hmoves (hleft.symm.trans hlocated.symm)

/-- An entity that has gone from one space to another takes nothing down with it; only what was
published of it there is left behind. -/
theorem world_transition {request : EntityTransitionRequest} {record : EntityRecord}
    (hlawful : core.world.Lawful) (hchecked : core.TransitionChecked request record)
    (hmoves : request.sourceSpace ≠ request.destinationSpace) :
    (core.transition request).world = (core.world.setEntity request.session request.entity
      (some (request.place record))).settle := by
  generalize hw : core.world.setEntity request.session request.entity
    (some (request.place record)) = w
  have hat : ∀ k, (core.transition request).sessionAt k =
      if k = request.session then (core.sessionAt k).transition request else core.sessionAt k := by
    intro k
    unfold transition
    rw [sessionAt_mapConnections, sessionAt_modifySession]
    simp only [hchecked.provisioned, and_true]
  obtain ⟨hspace, hentity⟩ : (core.transition request).world.space = core.world.space ∧
      (core.transition request).world.entity = w.entity := by
    rw [← hw]
    exact world_modifyEntity hchecked.provisioned hchecked.found
      (fun _ => by rw [SessionState.transition_eq]) fun _ => by rw [SessionState.transition_eq]
  have hpeople := @world_purgeOutbound core fun message => message.leftBehind request
  have hstands : ∀ thing, w.Has thing → ¬ w.Falls thing := by
    subst hw
    exact fun _ => stands_transition hlawful hchecked
  subst hw
  refine World.eq_settle rfl ?_ ?_ ?_ ?_ ?_ ?_ ?_ ?_
  · ext k
    exact mem_sessions_modifySession
  · exact (congrArg World.online hpeople :)
  · exact (congrArg World.principal hpeople :)
  · exact (congrArg World.member hpeople :)
  · intro s descriptor
    rw [hspace]
    refine ⟨fun hfound => ⟨hfound, hstands (.space s) ?_⟩, And.left⟩
    exact Option.isSome_iff_exists.mpr ⟨descriptor, hfound⟩
  · intro k i placed
    rw [hentity]
    refine ⟨fun hfound => ⟨hfound, hstands (.entity k i) ?_⟩, And.left⟩
    exact Option.isSome_iff_exists.mpr ⟨placed, hfound⟩
  · intro c s
    rw [hspace, show (core.transition request).world.reads = core.world.reads from
      (congrArg World.reads hpeople :)]
    refine ⟨fun hin => ⟨hin, ?_⟩, And.left⟩
    obtain ⟨hmember, hthere, -⟩ := hlawful.reads c s hin
    exact ⟨hmember, hthere⟩
  · intro k stateKey value
    show ((core.transition request).sessionAt k).state[stateKey]? = _ ↔
      ((core.transition request).sessionAt k).InScope stateKey.space stateKey.spaceEpoch
        stateKey.entity ∧ (core.sessionAt k).state[stateKey]? = _
    rw [hat]
    split
    · rename_i hk
      subst hk
      exact state_transition_iff hlawful hchecked hmoves
    · exact ⟨fun hfound => ⟨(hlawful.value k stateKey value hfound).1, hfound⟩, And.right⟩

/-! ## Values -/

theorem state_storeState {session : SessionState} {message : AuthorizedMessage}
    {stateKey : StateKey} : (session.storeState message).state[stateKey]? =
      World.storeOne (fun k => session.state[k]?) message stateKey := by
  unfold SessionState.storeState World.storeOne
  split
  · rename_i hstateful
    show (session.state.insert _ _)[stateKey]? = _
    rw [OrderedMap.getElem?_insert]
    simp only [hstateful, true_and]
  · rename_i hother
    rw [if_neg fun h => hother h.1]

theorem state_foldl_storeState {messages : List AuthorizedMessage} {session : SessionState}
    {stateKey : StateKey} : (messages.foldl SessionState.storeState session).state[stateKey]? =
      messages.foldl World.storeOne (fun k => session.state[k]?) stateKey := by
  induction messages generalizing session with
  | nil => rfl
  | cons message rest ih =>
    rw [List.foldl_cons, ih, List.foldl_cons]
    have hfirst : (fun k => (session.storeState message).state[k]?) =
        World.storeOne (fun k => session.state[k]?) message := funext fun _ => state_storeState
    rw [hfirst]

theorem world_commitPlan {plan : PublishPlan} (hkey : key ∈ core.sessions) :
    (core.commitPlan key plan).world = core.world.store key plan.messages := by
  have hat : ∀ k, (core.commitPlan key plan).sessionAt k =
      if k = key then (core.sessionAt k).commit plan else core.sessionAt k := by
    intro k
    unfold commitPlan
    rw [sessionAt_modifySession]
    show (if k = key ∧ key ∈ core.sessions then _ else core.sessionAt k) = _
    simp only [hkey, and_true]
    rfl
  refine World.ext rfl ?_ rfl rfl rfl rfl ?_ ?_ ?_
  · ext k
    exact mem_sessions_modifySession
  · funext s
    show ((core.commitPlan key plan).sessionAt s.session).spaces[s.space]? =
      (core.sessionAt s.session).spaces[s.space]?
    rw [hat]
    split
    · rw [SessionState.commit_eq]
    · rfl
  · funext k i
    show ((core.commitPlan key plan).sessionAt k).entities[i]? = (core.sessionAt k).entities[i]?
    rw [hat]
    split
    · rw [SessionState.commit_eq]
    · rfl
  · funext k stateKey
    show ((core.commitPlan key plan).sessionAt k).state[stateKey]? =
      (if k = key then plan.messages.foldl World.storeOne (core.world.value k)
        else core.world.value k) stateKey
    rw [hat]
    split
    · exact state_foldl_storeState
    · rfl

end WovenCore

end Signalweave
