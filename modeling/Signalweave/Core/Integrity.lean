import Signalweave.Core.Identities
import Signalweave.Core.SpaceGraph

/-!
# Integrity

What is in a session was put there by connections that may write in it, and only they can change
it: a connection without the grants to write is only ever heard as a reader.
-/

open Std

namespace Signalweave

open Stateful WovenCore

variable {core core' core'' : WovenCore} {key : SessionKey} {op : Op}
  {c connection : ConnectionId} {principal : AuthenticatedPrincipal}

/-! ## Who may write -/

/-- The grants of a principal let it write in some space of a session. -/
def AuthenticatedPrincipal.MayWrite (principal : AuthenticatedPrincipal) (key : SessionKey) :
    Prop :=
  principal.grants.canWriteNamespace key.namespaceId = true ∧
    principal.grants.canWriteSession key = true ∧
      ∃ space, principal.grants.canWriteSpace ⟨key, space⟩ = true

/-- A connection acts for a principal that may write in a session. -/
def WovenCore.MayWrite (core : WovenCore) (connection : ConnectionId) (key : SessionKey) : Prop :=
  ∃ principal, (core.connectionAt connection).authenticated = some principal ∧
    principal.MayWrite key

/-- The connection that asks for an operation. -/
def Op.actor : Op → Option ConnectionId
  | .authenticate c _ | .requestSessionAdmissionAt c _ _ _ | .joinSession c _
  | .joinSessionWithAdmission c _ _ | .leaveSession c _ _ | .subscribe c _ | .unsubscribe c _
  | .spawnEntity c _ _ | .updateEntityPosition c _ _ _ | .removeEntity c _ _ | .drainOutbound c
  | .transportLost c _ => some c
  | .transitionEntity request => some request.connection
  | .publishAt request _ _ _ => some request.connection
  | _ => none

/-- The session in which an operation of a connection writes. -/
def Op.writes : Op → Option SessionKey
  | .spawnEntity _ spaceKey _ => some spaceKey.session
  | .updateEntityPosition _ key _ _ | .removeEntity _ key _ => some key
  | .transitionEntity request => some request.session
  | .publishAt request _ _ _ => some request.session
  | _ => none

/-- Everything of a session but who is in it and who reads it. -/
def SessionState.content (session : SessionState) : SessionState :=
  { session with members := ∅, subscribers := ∅ }

theorem mayWrite_of_authenticatedPrincipal
    (h : core.authenticatedPrincipal connection = .ok principal)
    (hwrites : principal.MayWrite key) : core.MayWrite connection key := by
  obtain ⟨state, hstate, hprincipal⟩ := authenticatedPrincipal_eq_ok.mp h
  exact ⟨principal, by rw [connectionAt_of_some hstate, hprincipal], hwrites⟩

/-! ## What is in a session has a writer -/

/-- A connection is lost or leaves at its own request, but for the publications of others. -/
theorem Op.detaches.actor (h : op.detaches connection key) (hop : op.writes = none) :
    op.actor = some connection := by
  cases op <;> simp_all [Op.detaches, Op.loses, Op.actor, Op.writes]

theorem Op.loses.actor (h : op.loses connection) (hop : op.writes = none) :
    op.actor = some connection := by
  cases op <;> simp_all [Op.loses, Op.actor, Op.writes]

theorem Op.joins.actor (h : op.joins connection key) : op.actor = some connection := by
  cases op <;> simp_all [Op.joins, Op.actor]

theorem Op.removes.actor (h : op.removes key) (hop : op.writes = none) : op.actor = none := by
  cases op <;> simp_all [Op.removes, Op.actor, Op.writes]

/-- Every entity and every sequence of a session is of a connection that may write there. -/
structure Attributed (core : WovenCore) : Prop where
  entities : ∀ key (id : EntityId) record, (core.sessionAt key).entities[id]? = some record →
    core.MayWrite record.ownerConnection key
  sequences : ∀ key, ∀ sequence ∈ (core.sessionAt key).sequences,
    core.MayWrite sequence.connection key

theorem spawnEntity_refused {spaceKey : SpaceKey} {epoch : SpaceEpoch}
    (hnot : ¬ core.MayWrite connection spaceKey.session) :
    Ends (spawnEntity connection spaceKey epoch) core (fun _ _ => False)
      fun _ core' => core' = core := by
  simp [spawnEntity, requireNamespaceWrite, requireSessionWrite, requireSpaceWrite]
  intro _ _ _ _ principal hprincipal hnamespace hsession hspace
  exact absurd (mayWrite_of_authenticatedPrincipal hprincipal
    ⟨hnamespace, hsession, spaceKey.space, hspace⟩) hnot

theorem updateEntityPosition_refused {entity : EntityId} {position : EntityPosition}
    (hnot : ¬ core.MayWrite connection key) :
    Ends (updateEntityPosition connection key entity position) core (fun _ _ => False)
      fun _ core' => core' = core := by
  simp [updateEntityPosition, requireNamespaceWrite, requireSessionWrite, requireSpaceWrite]
  intro _ _ _ _ principal hprincipal hnamespace hsession _ _ _ _ record _ _ hspace
  exact absurd (mayWrite_of_authenticatedPrincipal hprincipal
    ⟨hnamespace, hsession, record.space, hspace⟩) hnot

theorem mayWrite_of_checkTransition {request : EntityTransitionRequest}
    (h : core.checkTransition request = .ok ()) :
    core.MayWrite request.connection request.session := by
  simp only [checkTransition, Except.bind_eq_ok, requireNamespaceWrite, requireSessionWrite,
    requireSpaceWrite, requireGrant_eq_ok] at h
  obtain ⟨-, -, -, -, -, -, -, -, -, -, -, -, -, -, principal, hprincipal, -, hnamespace, -,
    hsession, -, hspace, -⟩ := h
  exact mayWrite_of_authenticatedPrincipal hprincipal ⟨hnamespace, hsession, _, hspace⟩

theorem mayWrite_of_checkPublish {request : PublishRequest}
    {answer : AuthenticatedPrincipal × ChannelDefinition}
    (h : core.checkPublish request = .ok answer) :
    core.MayWrite request.connection request.session := by
  simp only [checkPublish, Except.bind_eq_ok, requireNamespaceWrite, requireSessionWrite,
    requireSpaceWrite, requireGrant_eq_ok] at h
  obtain ⟨-, -, principal, hprincipal, -, hnamespace, -, hsession, -, hspace, -⟩ := h
  exact mayWrite_of_authenticatedPrincipal hprincipal ⟨hnamespace, hsession, _, hspace⟩

theorem mayWrite_of_planPublish {request : PublishRequest} {call : Nat} {plan : PublishPlan}
    (h : core.planPublish request call = .ok plan) :
    core.MayWrite request.connection request.session := by
  simp only [planPublish, Except.bind_eq_ok] at h
  obtain ⟨answer, hcheck, -⟩ := h
  exact mayWrite_of_checkPublish hcheck

/-! ## Removing nothing -/

theorem SessionState.cascade_nothing {session : SessionState} (h : session.Keyed)
    {initial : ExtTreeSet EntityId} (hnone : ∀ id, id ∉ initial) :
    session.cascade initial = { entities := ∅, spaces := ∅ } := by
  have hspaces : (session.cascade initial).spaces = ∅ := by
    apply ExtTreeSet.ext_mem
    intro space
    rw [mem_cascade_spaces h]
    exact iff_of_false (not_doomedSpace hnone) ExtTreeSet.not_mem_empty
  have hentities : (session.cascade initial).entities = ∅ := by
    apply ExtTreeSet.ext_mem
    intro id
    rw [mem_cascade_entities h]
    refine iff_of_false ?_ ExtTreeSet.not_mem_empty
    rintro (hin | ⟨record, -, hdoomed⟩)
    · exact hnone id hin
    · exact not_doomedSpace hnone hdoomed
  rw [← hspaces, ← hentities]

theorem SessionState.dropRemoved_nothing {session : SessionState}
    (hbytes : session.stateBytes = session.storedBytes) :
    session.dropRemoved { entities := ∅, spaces := ∅ } = session := by
  have hkept : ∀ (space : SpaceId) (entity : Option EntityId),
      keptBy { entities := ∅, spaces := ∅ } space entity = true := by
    simp [keptBy_iff]
  have hentities : ∀ id : EntityId, (!(∅ : ExtTreeSet EntityId).contains id) = true := by simp
  show dropKeys (List.foldl removeSpace (dropEntities session _) []) _ = session
  have hdropped : dropEntities session { entities := ∅, spaces := ∅ } = session := by
    show { session with entities := session.entities.filter _ } = session
    simp only [hentities, OrderedMap.filter_true]
  rw [List.foldl_nil, hdropped]
  unfold dropKeys recomputeStateBytes
  simp only [hkept, OrderedMap.filter_true]
  show { session with stateBytes := session.storedBytes } = session
  rw [← hbytes]

theorem OutboundQueue.WellFormed.purge_nothing {queue : OutboundQueue} (h : queue.WellFormed)
    {p : OutboundMessage → Bool} (hp : ∀ message, p message = false) : queue.purge p = queue := by
  have hkept : ∀ message, (!p message) = true := by simp [hp]
  unfold OutboundQueue.purge
  simp only [hkept, OrderedMap.filter_true, List.filter_true]
  have horder : queue.latestOrder.filter (fun key => key ∈ queue.latest) = queue.latestOrder := by
    apply List.filter_eq_self.mpr
    intro key hkey
    exact decide_eq_true ((h.ordered key).mp hkey)
  rw [horder]

theorem ConnectionState.dropRemoved_nothing {state : ConnectionState}
    (h : state.outbound.WellFormed) :
    state.dropRemoved key { entities := ∅, spaces := ∅ } 0 = state := by
  have hsubscriptions : (state.subscriptions.filter fun space =>
      space.session ≠ key || !(∅ : ExtTreeSet SpaceId).contains space.space) =
        state.subscriptions := by
    apply ExtTreeSet.ext_mem
    intro space
    simp
  unfold dropRemoved purgeOutbound
  simp only [hsubscriptions, Nat.sub_zero]
  rw [h.purge_nothing]
  simp [OutboundMessage.removedBy]

/-- A removal of nothing leaves the core as it is. -/
theorem dropRemoved_nothing (h : core.Consistent)
    (hwell : ∀ c, (core.connectionAt c).outbound.WellFormed) :
    core.dropRemoved key { entities := ∅, spaces := ∅ } = core := by
  have howned : ∀ c, ((core.sessions[key]?).elim 0 fun session =>
      session.removedOwned { entities := ∅, spaces := ∅ } c) = 0 := by
    intro c
    cases core.sessions[key]? with
    | none => rfl
    | some session => simp [SessionState.removedOwned, SessionState.removedRecords]
  have hsessions : core.sessions.modify key (fun session =>
      session.dropRemoved { entities := ∅, spaces := ∅ }) = core.sessions := by
    apply ExtTreeMap.ext_getElem?
    intro k
    rw [OrderedMap.getElem?_modify]
    split
    · rename_i hk
      subst hk
      cases hfound : core.sessions[k]? with
      | none => rfl
      | some session =>
        have hbytes := (h.session k).bytes
        rw [sessionAt_of_some hfound] at hbytes
        rw [Option.map_some, SessionState.dropRemoved_nothing hbytes]
    · rfl
  have hconnections : core.connections.map (fun c state =>
      state.dropRemoved key { entities := ∅, spaces := ∅ } 0) = core.connections := by
    apply ExtTreeMap.ext_getElem?
    intro c
    rw [ExtTreeMap.getElem?_map]
    cases hfound : core.connections[c]? with
    | none => rfl
    | some state =>
      have hqueue := hwell c
      rw [connectionAt_of_some hfound] at hqueue
      rw [Option.map_some, ConnectionState.dropRemoved_nothing hqueue]
  unfold WovenCore.dropRemoved modifySession mapConnections
  simp only [howned, hsessions, hconnections]

/-- Where a connection owns nothing in a session, a leave takes its membership and no more. -/
theorem leave_owningNothing {reason : ReleaseReason} {now : Instant} (h : core.Sound)
    (hmember : key ∈ (core.connectionAt connection).memberships)
    (hnone : ∀ id, id ∉ core.ownedIn connection key) :
    core.leave connection key reason now =
      (core.releaseSessionAdmission connection key reason now).dropMembership connection key := by
  have hconsistent : (core.releaseSessionAdmission connection key reason now).Consistent :=
    h.consistent.releaseSessionAdmission
  have hkey : key ∈ (core.releaseSessionAdmission connection key reason now).sessions := by
    rw [sessions_releaseSessionAdmission]
    exact h.consistent.mem_sessions hmember
  have hremoval : (core.releaseSessionAdmission connection key reason now).removalOf key
      ((core.releaseSessionAdmission connection key reason now).ownedIn connection key) =
        { entities := ∅, spaces := ∅ } := by
    rw [removalOf_of_mem hkey, ownedIn_releaseSessionAdmission]
    exact SessionState.cascade_nothing (hconsistent.session key).keyed hnone
  unfold WovenCore.leave detachConnectionFromSession removeEntitiesAndAnchoredSpaces
  show WovenCore.dropMembership (WovenCore.dropRemoved _ key (WovenCore.removalOf _ key
    (WovenCore.ownedIn _ connection key))) connection key = _
  rw [hremoval, dropRemoved_nothing hconsistent]
  intro c
  rw [connectionAt, connections_releaseSessionAdmission, ← connectionAt]
  exact h.wellFormed c

/-! ## A connection with nothing in a session -/

/-- A connection has put nothing into a session. -/
structure WovenCore.HasNothing (core : WovenCore) (c : ConnectionId) (key : SessionKey) : Prop where
  entities : ∀ id, id ∉ core.ownedIn c key
  sequences : ∀ sequence ∈ (core.sessionAt key).sequences, sequence.connection ≠ c

theorem Attributed.hasNothing (h : Attributed core) (hconsistent : core.Consistent)
    (hnot : ¬ core.MayWrite c key) : core.HasNothing c key := by
  constructor
  · intro id hin
    obtain ⟨record, hrecord, rfl⟩ := (mem_ownedIn hconsistent).mp hin
    exact hnot (h.entities key id record hrecord)
  · rintro sequence hin rfl
    exact hnot (h.sequences key sequence hin)

theorem WovenCore.HasNothing.of_content (h : core.HasNothing c key) (hconsistent : core.Consistent)
    (hconsistent' : core'.Consistent)
    (hcontent : (core'.sessionAt key).content = (core.sessionAt key).content) :
    core'.HasNothing c key := by
  have hentities : (core'.sessionAt key).entities = (core.sessionAt key).entities := by
    show (core'.sessionAt key).content.entities = _
    rw [hcontent]
    rfl
  have hsequences : (core'.sessionAt key).sequences = (core.sessionAt key).sequences := by
    show (core'.sessionAt key).content.sequences = _
    rw [hcontent]
    rfl
  constructor
  · intro id hin
    rw [mem_ownedIn hconsistent', hentities, ← mem_ownedIn hconsistent] at hin
    exact h.entities id hin
  · rw [hsequences]
    exact h.sequences

theorem content_modifySession {k : SessionKey} {f : SessionState → SessionState}
    (h : k = key → (f (core.sessionAt key)).content = (core.sessionAt key).content) :
    ((core.modifySession k f).sessionAt key).content = (core.sessionAt key).content := by
  rw [sessionAt_modifySession]
  split
  · rename_i hk
    exact h hk.1.symm
  · rfl

/-- A leave of a session that the connection has put nothing into. -/
theorem content_leave {k : SessionKey} {reason : ReleaseReason} {now : Instant} (h : core.Sound)
    (hmember : k ∈ (core.connectionAt c).memberships) (hnothing : core.HasNothing c key) :
    ((core.leave c k reason now).sessionAt key).content = (core.sessionAt key).content := by
  by_cases hk : key = k
  · subst hk
    rw [leave_owningNothing h hmember hnothing.entities, dropMembership,
      sessionAt_modifyConnection]
    have hat : (core.releaseSessionAdmission c key reason now).sessionAt key =
        core.sessionAt key := sessionAt_releaseSessionAdmission
    rw [content_modifySession, hat]
    intro _
    rw [hat]
    have hsequences : (core.sessionAt key).sequences.filter (fun sequence _ =>
        sequence.connection ≠ c) = (core.sessionAt key).sequences := by
      apply ExtTreeMap.ext_getElem?
      intro sequence
      rw [ExtTreeMap.getElem?_filter']
      cases hfound : (core.sessionAt key).sequences[sequence]? with
      | none => rfl
      | some last =>
        exact Option.filter_some_pos (decide_eq_true
          (hnothing.sequences sequence (OrderedMap.mem_of_getElem? hfound)))
    unfold SessionState.leave SessionState.content
    simp only [hsequences]
  · rw [sessionAt_leave_of_ne hk]

/-- An operation of a connection that does not write: the session stays where the connection has
nothing in it. -/
theorem Change.content (h : Change op core core') (hsound : core.Sound) (hactor : op.actor = some c)
    (hop : op.writes = none) (hnothing : core.HasNothing c key) :
    (core'.sessionAt key).content = (core.sessionAt key).content := by
  cases h with
  | leave connection k reason now asked member =>
    obtain rfl := Option.some.inj (hactor.symm.trans (asked.actor hop))
    exact content_leave hsound member hnothing
  | join connection k asked principal authenticated readsNamespace readsSession provisioned bound
      room => exact content_modifySession fun _ => rfl
  | subscribe connection spaceKey member installed room =>
    exact content_modifySession fun _ => rfl
  | unsubscribe connection spaceKey subscribed => exact content_modifySession fun _ => rfl
  | removeEntities k initial asked =>
    exact absurd (hactor.symm.trans (asked.actor hop)) (Option.some_ne_none c)
  | releasePending connection k now asked =>
    rw [releasePendingAdmission_eq]
    rfl
  | requestAdmission | bindLease | authenticate | drain | disconnect => rfl
  | _ => simp [Op.actor, Op.writes] at hactor hop

/-- An operation of a connection that does not write: it is about the connection alone where the
connection has nothing in any session. -/
theorem Change.others (h : Change op core core') (hsound : core.Sound) (hactor : op.actor = some c)
    (hop : op.writes = none) (hnothing : ∀ key, core.HasNothing c key) :
    core'.journalOutbox = core.journalOutbox ∧
      ∀ other, other ≠ c → core'.connectionAt other = core.connectionAt other := by
  have hmodify : ∀ {before : WovenCore} {g : ConnectionState → ConnectionState} {other},
      other ≠ c → (before.modifyConnection c g).connectionAt other = before.connectionAt other := by
    intro before g other hne
    rw [connectionAt_modifyConnection, if_neg fun h => hne h.1]
  cases h with
  | leave connection k reason now asked member =>
    obtain rfl := Option.some.inj (hactor.symm.trans (asked.actor hop))
    rw [leave_owningNothing hsound member (hnothing k).entities]
    constructor
    · show (core.releaseSessionAdmission c k reason now).journalOutbox = _
      rw [releaseSessionAdmission_eq]
    · intro other hne
      rw [dropMembership, hmodify hne, connectionAt_modifySession, connectionAt,
        connections_releaseSessionAdmission, ← connectionAt]
  | join connection k asked principal authenticated readsNamespace readsSession provisioned bound
      room =>
    obtain rfl := Option.some.inj (hactor.symm.trans asked.actor)
    exact ⟨rfl, fun other hne => hmodify hne⟩
  | subscribe connection spaceKey member installed room =>
    obtain rfl := Option.some.inj hactor
    exact ⟨rfl, fun other hne => hmodify hne⟩
  | unsubscribe connection spaceKey subscribed =>
    obtain rfl := Option.some.inj hactor
    refine ⟨rfl, fun other hne => (hmodify hne).trans ?_⟩
    rw [connectionAt_modifySession]
  | removeEntities k initial asked =>
    exact absurd (hactor.symm.trans (asked.actor hop)) (Option.some_ne_none c)
  | releasePending connection k now asked =>
    rw [releasePendingAdmission_eq]
    exact ⟨rfl, fun _ _ => rfl⟩
  | requestAdmission | bindLease => exact ⟨rfl, fun _ _ => rfl⟩
  | authenticate connection credentials state principal found fresh =>
    obtain rfl := Option.some.inj hactor
    exact ⟨rfl, fun other hne => hmodify hne⟩
  | drain connection =>
    obtain rfl := Option.some.inj hactor
    exact ⟨rfl, fun other hne => hmodify hne⟩
  | disconnect connection asked left unbound =>
    obtain rfl := Option.some.inj (hactor.symm.trans (asked.actor hop))
    refine ⟨rfl, fun other hne => ?_⟩
    rw [connectionAt, OrderedMap.getElem?_erase, if_neg hne, ← connectionAt]
  | _ => simp [Op.actor, Op.writes] at hactor hop

/-! ## Over a run -/

theorem WovenCore.MayWrite.live (h : core.MayWrite c key) : c ∈ core.connections := by
  obtain ⟨principal, hprincipal, -⟩ := h
  by_contra hnot
  rw [connectionAt_of_notMem hnot] at hprincipal
  cases hprincipal

/-- A connection that stays keeps its principal. -/
theorem authenticated_step (h : core.Sound) (op : Op) (hlive : c ∈ (step core op).connections)
    (hprincipal : (core.connectionAt c).authenticated = some principal) :
    ((step core op).connectionAt c).authenticated = some principal := by
  by_cases hop : op.anonymous
  · exact (((changes_step h op).descends hop).authenticated c hlive).trans hprincipal
  · have hbefore : c ∈ core.connections := by
      by_contra hnot
      rw [connectionAt_of_notMem hnot] at hprincipal
      cases hprincipal
    cases op with
    | transportConnected =>
      have hends : Ends transportConnected core
          (fun _ core' => (core'.connectionAt c).authenticated = some principal)
          fun _ core' => (core'.connectionAt c).authenticated = some principal := by
        apply transportConnected_connects.mono
        · rintro connection _ ⟨rfl, outbound, rfl⟩
          have hne : c ≠ ⟨core.nextConnectionId⟩ := by
            rintro rfl
            exact Nat.lt_irrefl _ (h.consistent.connectionIds _ hbefore).2
          rw [connectionAt, OrderedMap.getElem?_insert, if_neg hne, ← connectionAt]
          exact hprincipal
        · rintro _ _ (rfl | rfl) <;> exact hprincipal
      rw [show step core .transportConnected = _ from after_discard _ _]
      exact hends.after
    | authenticate connection credentials =>
      have hends : Ends (authenticate connection credentials) core
          (fun _ core' => (core'.connectionAt c).authenticated = some principal)
          fun _ core' => (core'.connectionAt c).authenticated = some principal := by
        apply authenticate_signsIn.mono
        · rintro _ _ ⟨-, hfresh, shown, -, rfl⟩
          rw [connectionAt_modifyConnection, if_neg]
          · exact hprincipal
          · rintro ⟨rfl, -⟩
            cases hfresh.symm.trans hprincipal
        · rintro _ _ rfl
          exact hprincipal
      rw [show step core (.authenticate connection credentials) = _ from after_discard _ _]
      exact hends.after
    | spawnEntity connection spaceKey epoch =>
      have hends : Ends (spawnEntity connection spaceKey epoch) core
          (fun _ core' => (core'.connectionAt c).authenticated = some principal)
          fun _ core' => (core'.connectionAt c).authenticated = some principal := by
        apply spawnEntity_spawns.mono
        · rintro _ _ ⟨-, -, ⟨shown, -, rfl⟩, -⟩
          exact authenticated_spawn.trans hprincipal
        · rintro _ _ rfl
          exact hprincipal
      rw [show step core (.spawnEntity connection spaceKey epoch) = _ from after_discard _ _]
      exact hends.after
    | _ => exact absurd trivial hop

theorem WovenCore.MayWrite.step (h : core.MayWrite c key) (hsound : core.Sound) (op : Op)
    (hlive : c ∈ (step core op).connections) : (Signalweave.step core op).MayWrite c key := by
  obtain ⟨principal, hprincipal, hwrites⟩ := h
  exact ⟨principal, authenticated_step hsound op hlive hprincipal, hwrites⟩

/-- What a change of one session leaves of its sequences is old or of the publication. -/
theorem SessionChange.writtenSequences {session : SessionState}
    (h : SessionChange core key op session) {sequence : SequenceKey}
    (hin : sequence ∈ session.sequences) :
    sequence ∈ (core.sessionAt key).sequences ∨ core.MayWrite sequence.connection key := by
  cases h with
  | remove initial asked =>
    rw [SessionState.dropRemoved_sequences] at hin
    exact .inl (OrderedMap.mem_filter.mp hin).1
  | leave connection initial asked =>
    replace hin := (OrderedMap.mem_filter.mp hin).1
    rw [SessionState.dropRemoved_sequences] at hin
    exact .inl (OrderedMap.mem_filter.mp hin).1
  | advanceEpoch space proposed descriptor found later empty =>
    exact .inl (OrderedMap.mem_filter.mp hin).1
  | move connection entity position cell record descriptor entityFound spaceFound valid indexed =>
    rw [SessionState.moveToCell_eq] at hin
    exact .inl hin
  | transition request addressed found checked moves =>
    rw [SessionState.transition_eq] at hin
    exact .inl (OrderedMap.mem_filter.mp hin).1
  | commit request addressed now call clock plan planned =>
    subst addressed
    unfold SessionState.commit at hin
    rw [SessionState.foldl_storeState_eq] at hin
    rcases SessionState.mem_foldl_insert.mp hin with hplanned | hstored
    · rw [ExtTreeMap.map_fst_toList_eq_keys, ExtTreeMap.mem_keys] at hplanned
      obtain ⟨message, -, rfl, -⟩ := (planPublish_eq_ok planned).keys sequence hplanned
      exact .inr (mayWrite_of_planPublish planned)
    · exact .inl hstored
  | _ => exact .inl hin

/-- Where the connections are those of another core, so is what they may write. -/
theorem Attached.mayWrite (h : Attached core core') (hwrites : core'.MayWrite c key) :
    core.MayWrite c key := by
  obtain ⟨principal, hprincipal, hgrants⟩ := hwrites
  have hlive : c ∈ core'.connections := WovenCore.MayWrite.live ⟨principal, hprincipal, hgrants⟩
  exact ⟨principal, (h.authenticated c hlive).symm.trans hprincipal, hgrants⟩

/-- The connections of the entities and sequences after an operation could write before it. -/
structure AttributedBy (core core' : WovenCore) : Prop where
  entities : ∀ key (id : EntityId) record, (core'.sessionAt key).entities[id]? = some record →
    core.MayWrite record.ownerConnection key
  sequences : ∀ key, ∀ sequence ∈ (core'.sessionAt key).sequences,
    core.MayWrite sequence.connection key

theorem Attributed.changes (h : Attributed core) (hop : op.anonymous)
    (hchanges : Changes op core core') : AttributedBy core core' := by
  have hboth : Attached core core' ∧ AttributedBy core core' := by
    refine hchanges.invariant (P := fun after => Attached core after ∧ AttributedBy core after) ?_
      ⟨.of_connections rfl rfl rfl, h.entities, h.sequences⟩
    rintro middle after hchange ⟨hattached, hby⟩
    refine ⟨hattached.trans (hchange.attached hop), ?_, ?_⟩
    · intro key id record hrecord
      obtain ⟨old, hold, howner, -⟩ := (hchange.session key).owners hop hrecord
      rw [← howner]
      exact hby.entities key id old hold
    · intro key sequence hin
      rcases (hchange.session key).writtenSequences hin with hold | hwrites
      · exact hby.sequences key sequence hold
      · exact hattached.mayWrite hwrites
  exact hboth.2

theorem Attributed.of_sessions (h : Attributed core) (hsessions : core'.sessions = core.sessions) :
    AttributedBy core core' := by
  have hat : ∀ key, core'.sessionAt key = core.sessionAt key := by
    intro key
    rw [sessionAt, hsessions, sessionAt]
  constructor
  · intro key id record hrecord
    rw [hat] at hrecord
    exact h.entities key id record hrecord
  · intro key sequence hin
    rw [hat] at hin
    exact h.sequences key sequence hin

theorem Attributed.spawn (h : Attributed core) {spaceKey : SpaceKey} {epoch : SpaceEpoch}
    (hkey : spaceKey.session ∈ core.sessions)
    (hwrites : core.MayWrite connection spaceKey.session) :
    AttributedBy core (core.spawn connection spaceKey epoch principal) := by
  constructor
  · intro key id record hrecord
    rw [entities_spawn hkey] at hrecord
    split at hrecord
    · rename_i hnew
      obtain rfl := Option.some.inj hrecord
      exact hnew.1 ▸ hwrites
    · exact h.entities key id record hrecord
  · intro key sequence hin
    apply h.sequences key sequence
    replace hin : sequence ∈ ((WovenCore.modifySession _ _ _).sessionAt key).sequences := hin
    rw [sessionAt_modifySession] at hin
    split at hin <;> exact hin

theorem Attributed.by_step (h : Attributed core) (hsound : core.Sound) (op : Op) :
    AttributedBy core (step core op) := by
  by_cases hop : op.anonymous
  · exact h.changes hop (changes_step hsound op)
  · cases op with
    | transportConnected =>
      have hends : Ends transportConnected core (fun _ => AttributedBy core)
          fun _ => AttributedBy core := by
        apply transportConnected_connects.mono
        · rintro connection _ ⟨rfl, outbound, rfl⟩
          exact h.of_sessions rfl
        · rintro _ _ (rfl | rfl) <;> exact h.of_sessions rfl
      rw [show step core .transportConnected = _ from after_discard _ _]
      exact hends.after
    | authenticate connection credentials =>
      have hends : Ends (authenticate connection credentials) core (fun _ => AttributedBy core)
          fun _ => AttributedBy core := by
        apply authenticate_signsIn.mono
        · rintro _ _ ⟨-, -, shown, -, rfl⟩
          exact h.of_sessions rfl
        · rintro _ _ rfl
          exact h.of_sessions rfl
      rw [show step core (.authenticate connection credentials) = _ from after_discard _ _]
      exact hends.after
    | spawnEntity connection spaceKey epoch =>
      have hends : Ends (spawnEntity connection spaceKey epoch) core (fun _ => AttributedBy core)
          fun _ => AttributedBy core := by
        by_cases hwrites : core.MayWrite connection spaceKey.session
        · apply spawnEntity_spawns.mono
          · rintro _ _ ⟨-, hkey, ⟨shown, -, rfl⟩, -⟩
            exact h.spawn hkey hwrites
          · rintro _ _ rfl
            exact h.of_sessions rfl
        · apply (spawnEntity_refused hwrites).mono
          · rintro _ _ ⟨⟩
          · rintro _ _ rfl
            exact h.of_sessions rfl
      rw [show step core (.spawnEntity connection spaceKey epoch) = _ from after_discard _ _]
      exact hends.after
    | _ => exact absurd trivial hop

theorem attributed_step (hsound : core.Sound) (h : Attributed core) (op : Op) :
    Attributed (step core op) := by
  have hby := h.by_step hsound op
  have hconsistent := (sound_step hsound op).consistent
  constructor
  · intro key id record hrecord
    apply (hby.entities key id record hrecord).step hsound
    exact mem_connections_of_membership ((hconsistent.membership _ key).mp
      ((hconsistent.session key).owners id record hrecord))
  · intro key sequence hin
    apply (hby.sequences key sequence hin).step hsound
    exact mem_connections_of_membership ((hconsistent.membership _ key).mp
      ((hconsistent.session key).sequenceOwners sequence hin))

theorem Reachable.attributed (h : Reachable core) : Attributed core := by
  have hboth : core.Sound ∧ Attributed core := by
    refine Transition.Reachable.invariant (P := fun core => core.Sound ∧ Attributed core) ?_ ?_ h
    · intro core hinit
      refine ⟨hinit.empty.sound, ?_, ?_⟩
      · intro key id record hrecord
        rw [hinit.empty.sessionAt] at hrecord
        simp at hrecord
      · intro key sequence hin
        rw [hinit.empty.sessionAt] at hin
        simp at hin
    · rintro core op ⟨hsound, hattributed⟩
      exact ⟨sound_step hsound op, attributed_step hsound hattributed op⟩
  exact hboth.2

/-! ## What a connection without the grants can do -/

/-- Nothing has changed but what the one connection may read and has pending. -/
structure Harmless (c : ConnectionId) (core core' : WovenCore) : Prop where
  content : ∀ key, (core'.sessionAt key).content = (core.sessionAt key).content
  journal : core'.journalOutbox = core.journalOutbox
  others : ∀ other, other ≠ c → core'.connectionAt other = core.connectionAt other

theorem Harmless.refl : Harmless c core core := ⟨fun _ => rfl, rfl, fun _ _ => rfl⟩

theorem Harmless.trans (h : Harmless c core core') (h' : Harmless c core' core'') :
    Harmless c core core'' where
  content key := (h'.content key).trans (h.content key)
  journal := h'.journal.trans h.journal
  others other hne := (h'.others other hne).trans (h.others other hne)

theorem Harmless.limited {limiter : ConnectionRateLimiter} :
    Harmless c core (core.limited c limiter) where
  content _ := rfl
  journal := rfl
  others other hne := by
    rw [WovenCore.limited, connectionAt_modifyConnection, if_neg fun h => hne h.1]

theorem after_of_refused {α : Type} {method : CoreM α}
    (h : Ends method core (fun _ _ => False) fun _ core' => core' = core) :
    after method core = core :=
  (h.mono (fun _ _ => False.elim) fun _ _ heq => heq).after

/-- An operation by which a connection would write where it may not is refused. -/
theorem step_of_not_mayWrite (hsound : core.Sound) (hattributed : Attributed core)
    (hactor : op.actor = some c) (hwrites : op.writes = some key) (hnot : ¬ core.MayWrite c key) :
    step core op = core ∨ ∃ limiter, step core op = core.limited c limiter := by
  cases op with
  | spawnEntity connection spaceKey epoch =>
    obtain rfl := Option.some.inj hactor
    obtain rfl := Option.some.inj hwrites
    exact .inl ((after_discard _ _).trans (after_of_refused (spawnEntity_refused hnot)))
  | updateEntityPosition connection k entity position =>
    obtain rfl := Option.some.inj hactor
    obtain rfl := Option.some.inj hwrites
    exact .inl (after_of_refused (updateEntityPosition_refused hnot))
  | removeEntity connection k entity =>
    obtain rfl := Option.some.inj hactor
    obtain rfl := Option.some.inj hwrites
    refine .inl ((after_discard _ _).trans (after_of_refused (removeEntity_ends.mono ?_ ?_)))
    · -- The owner of the entity could write when it spawned it.
      rintro _ _ ⟨hallowed, -⟩
      obtain ⟨record, hrecord, rfl⟩ := hallowed.owned
      exact hnot (hattributed.entities k entity record hrecord)
    · exact fun _ _ h => h.2
  | transitionEntity request =>
    obtain rfl := Option.some.inj hactor
    obtain rfl := Option.some.inj hwrites
    refine .inl ((after_discard _ _).trans (after_of_refused (transitionEntity_ends.mono ?_ ?_)))
    · exact fun _ _ h => hnot (mayWrite_of_checkTransition h.1)
    · exact fun _ _ h => h.2
  | publishAt request now call clock =>
    obtain rfl := Option.some.inj hactor
    obtain rfl := Option.some.inj hwrites
    rw [step_publishAt]
    have hends : Ends (publishAt request now call clock) core
        (fun _ core' => core' = core ∨ ∃ limiter, core' = core.limited request.connection limiter)
        fun _ core' => core' = core ∨ ∃ limiter,
          core' = core.limited request.connection limiter := by
      apply publishAt_ends hsound
      · exact fun _ => .inl rfl
      · exact fun _ limiter => .inr ⟨limiter, rfl⟩
      · intro limiter plan _ _ _ hplan _ _
        have hattached : Attached core (core.limited request.connection limiter) :=
          .modifyConnection fun _ => rfl
        exact absurd (hattached.mayWrite (mayWrite_of_planPublish hplan)) hnot
    exact hends.after
  | _ => cases hwrites

/-- A request of a connection that may write nowhere. -/
theorem step_harmless (hsound : core.Sound) (hattributed : Attributed core)
    (hactor : op.actor = some c) (hnot : ∀ key, ¬ core.MayWrite c key) :
    Harmless c core (step core op) := by
  cases hwrites : op.writes with
  | some key =>
    rcases step_of_not_mayWrite hsound hattributed hactor hwrites (hnot key) with
      heq | ⟨limiter, heq⟩
    · rw [heq]
      exact .refl
    · rw [heq]
      exact .limited
  | none =>
    have hboth : (step core op).Sound ∧ (∀ key, (step core op).HasNothing c key) ∧
        Harmless c core (step core op) := by
      refine (changes_step hsound op).invariant (P := fun after => after.Sound ∧
        (∀ key, after.HasNothing c key) ∧ Harmless c core after) ?_
          ⟨hsound, fun key => hattributed.hasNothing hsound.consistent (hnot key), .refl⟩
      rintro middle after hchange ⟨hmiddle, hnothing, hharmless⟩
      have hafter := hchange.sound hmiddle
      obtain ⟨hjournal, hothers⟩ := hchange.others hmiddle hactor hwrites hnothing
      have hcontent : ∀ key, (after.sessionAt key).content = (middle.sessionAt key).content :=
        fun key => hchange.content hmiddle hactor hwrites (hnothing key)
      exact ⟨hafter, fun key => (hnothing key).of_content hmiddle.consistent hafter.consistent
        (hcontent key), hharmless.trans ⟨hcontent, hjournal, hothers⟩⟩
    exact hboth.2.2

theorem Op.removes.writes {k : SessionKey} (h : op.removes key) (hwrites : op.writes = some k) :
    k = key := by
  cases op <;> simp_all [Op.removes, Op.writes]

theorem Op.detaches.writes (h : op.detaches connection key) (hop : ¬ op.publishes) :
    op.writes = none := by
  cases op <;> simp_all [Op.detaches, Op.loses, Op.writes, Op.publishes]

theorem Op.joins.writes (h : op.joins connection key) : op.writes = none := by
  cases op <;> simp_all [Op.joins, Op.writes]

theorem Op.subscribes.writes (h : op.subscribes key) : op.writes = none := by
  cases op <;> simp_all [Op.subscribes, Op.writes]

/-- A writing operation is about one session. -/
theorem SessionChange.of_writes {session : SessionState} {k : SessionKey}
    (h : SessionChange core key op session) (hwrites : op.writes = some k) (hne : k ≠ key)
    (hop : ¬ op.publishes) : session = core.sessionAt key := by
  cases h with
  | same => rfl
  | remove initial asked => exact absurd (asked.writes hwrites) hne
  | leave connection initial asked =>
    exact absurd (hwrites.symm.trans (asked.writes hop)) (Option.some_ne_none k)
  | join connection asked => exact absurd (hwrites.symm.trans asked.writes) (Option.some_ne_none k)
  | subscribers space f asked =>
    exact absurd (hwrites.symm.trans asked.writes) (Option.some_ne_none k)
  | spawn | move => exact absurd (Option.some.inj hwrites) (Ne.symm hne)
  | transition request addressed =>
    exact absurd ((Option.some.inj hwrites).symm.trans addressed) hne
  | commit => exact absurd trivial hop
  | installSpace | advanceEpoch => cases hwrites

/-- A request of a connection that may not write in a session, other than a publication: what it
removes it has put elsewhere. -/
theorem step_content (hsound : core.Sound) (hattributed : Attributed core)
    (hactor : op.actor = some c) (hop : ¬ op.publishes) (hnot : ¬ core.MayWrite c key) :
    ((step core op).sessionAt key).content = (core.sessionAt key).content := by
  cases hwrites : op.writes with
  | some k =>
    by_cases hk : k = key
    · subst hk
      rcases step_of_not_mayWrite hsound hattributed hactor hwrites hnot with heq | ⟨limiter, heq⟩
      · rw [heq]
      · rw [heq]
        rfl
    · have hsame : (step core op).sessionAt key = core.sessionAt key :=
        (changes_step hsound op).invariant
          (P := fun after => after.sessionAt key = core.sessionAt key)
          (fun _ _ hchange hbefore =>
            ((hchange.session key).of_writes hwrites hk hop).trans hbefore) rfl
      rw [hsame]
  | none =>
    have hboth : (step core op).Sound ∧ (step core op).HasNothing c key ∧
        ((step core op).sessionAt key).content = (core.sessionAt key).content := by
      refine (changes_step hsound op).invariant (P := fun after => after.Sound ∧
        after.HasNothing c key ∧ (after.sessionAt key).content = (core.sessionAt key).content) ?_
          ⟨hsound, hattributed.hasNothing hsound.consistent hnot, rfl⟩
      rintro middle after hchange ⟨hmiddle, hnothing, hsame⟩
      have hafter := hchange.sound hmiddle
      have hcontent := hchange.content hmiddle hactor hwrites hnothing
      exact ⟨hafter, hnothing.of_content hmiddle.consistent hafter.consistent hcontent,
        hcontent.trans hsame⟩
    exact hboth.2.2

/-! ## Over a run -/

/-- The connection acts for the principal for as long as it is there. -/
def ActsFor (core : WovenCore) (c : ConnectionId) (principal : AuthenticatedPrincipal) : Prop :=
  c ∈ core.connections → (core.connectionAt c).authenticated = some principal

theorem ActsFor.not_mayWrite (h : ActsFor core c principal) (hnot : ¬ principal.MayWrite key) :
    ¬ core.MayWrite c key := by
  intro hwrites
  have hlive := hwrites.live
  obtain ⟨shown, hshown, hgrants⟩ := hwrites
  obtain rfl := Option.some.inj ((h hlive).symm.trans hshown)
  exact hnot hgrants

/-- No connection comes but by `transport_connected`. -/
theorem live_of_step (hsound : core.Sound) (hop : op ≠ .transportConnected)
    (hlive : c ∈ (step core op).connections) : c ∈ core.connections := by
  by_cases hanonymous : op.anonymous
  · exact ((changes_step hsound op).descends hanonymous).live c hlive
  · cases op with
    | transportConnected => exact absurd rfl hop
    | authenticate connection credentials =>
      have hends : Ends (authenticate connection credentials) core
          (fun _ core' => c ∈ core'.connections → c ∈ core.connections)
          fun _ core' => c ∈ core'.connections → c ∈ core.connections := by
        apply authenticate_signsIn.mono
        · rintro _ _ ⟨-, -, shown, -, rfl⟩
          exact mem_connections_modifyConnection.mp
        · rintro _ _ rfl
          exact id
      rw [show step core (.authenticate connection credentials) = _ from after_discard _ _] at hlive
      exact hends.after hlive
    | spawnEntity connection spaceKey epoch =>
      have hends : Ends (spawnEntity connection spaceKey epoch) core
          (fun _ core' => c ∈ core'.connections → c ∈ core.connections)
          fun _ core' => c ∈ core'.connections → c ∈ core.connections := by
        apply spawnEntity_spawns.mono
        · rintro _ _ ⟨-, -, ⟨shown, -, rfl⟩, -⟩
          exact mem_connections_modifyConnection.mp
        · rintro _ _ rfl
          exact id
      rw [show step core (.spawnEntity connection spaceKey epoch) = _ from
        after_discard _ _] at hlive
      exact hends.after hlive
    | _ => exact absurd trivial hanonymous

theorem ActsFor.step (h : ActsFor core c principal) (hsound : core.Sound)
    (hactor : op.actor = some c) : ActsFor (step core op) c principal := by
  intro hlive
  have hop : op ≠ .transportConnected := by
    rintro rfl
    cases hactor
  exact authenticated_step hsound op hlive (h (live_of_step hsound hop hlive))

/-- Every entity and every sequence that there is belongs to a connection that may write in its
session. A connection that may write nowhere changes no session, no record of the journal and no
other connection, whatever it asks for and for as long as it likes. In a session in which it may not
write, one that may write elsewhere changes nothing but who reads, except where it publishes: a
publication to another session may lose a slow consumer that has entities here. -/
theorem run_readOnly (h : Reachable core) :
    Attributed core ∧
      ∀ (c : ConnectionId) (principal : AuthenticatedPrincipal) (ops : List Op),
        core.authenticatedPrincipal c = .ok principal → (∀ op ∈ ops, op.actor = some c) →
        ((∀ key, ¬ principal.MayWrite key) → Harmless c core (Transition.run step core ops)) ∧
          ∀ key, ¬ principal.MayWrite key → (∀ op ∈ ops, ¬ op.publishes) →
            ((Transition.run step core ops).sessionAt key).content =
              (core.sessionAt key).content := by
  refine ⟨h.attributed, fun c principal ops hprincipal hops => ?_⟩
  have hacts : ActsFor core c principal := by
    obtain ⟨state, hstate, hshown⟩ := authenticatedPrincipal_eq_ok.mp hprincipal
    intro _
    rw [connectionAt_of_some hstate, hshown]
  constructor
  · intro hnot
    have hrun : Reachable (Transition.run step core ops) ∧
        ActsFor (Transition.run step core ops) c principal ∧
          Harmless c core (Transition.run step core ops) := by
      refine Transition.run_invariant_of (C := fun op => op.actor = some c)
        (P := fun after => Reachable after ∧ ActsFor after c principal ∧ Harmless c core after) ?_
          ⟨h, hacts, .refl⟩ hops
      rintro before op ⟨hreachable, hbefore, hharmless⟩ hactor
      exact ⟨hreachable.next op, hbefore.step hreachable.sound hactor, hharmless.trans
        (step_harmless hreachable.sound hreachable.attributed hactor fun key =>
          hbefore.not_mayWrite (hnot key))⟩
    exact hrun.2.2
  · intro key hnot hpublishes
    have hrun : Reachable (Transition.run step core ops) ∧
        ActsFor (Transition.run step core ops) c principal ∧
          ((Transition.run step core ops).sessionAt key).content =
            (core.sessionAt key).content := by
      refine Transition.run_invariant_of (C := fun op => op.actor = some c ∧ ¬ op.publishes)
        (P := fun after => Reachable after ∧ ActsFor after c principal ∧
          (after.sessionAt key).content = (core.sessionAt key).content) ?_ ⟨h, hacts, rfl⟩
            fun op hin => ⟨hops op hin, hpublishes op hin⟩
      rintro before op ⟨hreachable, hbefore, hsame⟩ ⟨hactor, hop⟩
      exact ⟨hreachable.next op, hbefore.step hreachable.sound hactor, (step_content
        hreachable.sound hreachable.attributed hactor hop (hbefore.not_mayWrite hnot)).trans hsame⟩
    exact hrun.2.2

namespace Sample

/-- The grants of a guest: it may read where the others may write. -/
def guestGrants : AuthorizationGrants where
  namespaces := .ofList [((⟨1⟩ : NamespaceId), AccessGrant.read)]
  sessions := .ofList [(session, AccessGrant.read)]
  spaces := .ofList [(spaceKey 1, AccessGrant.read)]
  channels := .ofList [((⟨session, ⟨1⟩⟩ : ChannelScope), AccessGrant.read)]

/-- Whoever shows a longer token is a guest. -/
def guarded : Authenticator where
  authenticate credentials :=
    .ok { principalId := ⟨credentials.token.length⟩
          grants := if credentials.token.length = 1 then grants else guestGrants }

/-- The first connection owns an entity and the second is a guest. -/
def visited : WovenCore :=
  Transition.run step
    { authenticator := guarded, config := {}, journalOutbox := { capacity := 1024 } }
    (setup ++ [.spawnEntity ⟨1⟩ (spaceKey 1) ⟨1⟩, .transportConnected, .authenticate ⟨2⟩ ⟨"bb"⟩,
      .joinSession ⟨2⟩ session])

theorem visited_reachable : Reachable visited := ⟨_, _, ⟨guarded, {}, rfl⟩, rfl⟩

/-- The guest looks around, tries to write and goes. -/
def visit : List Op :=
  [.subscribe ⟨2⟩ (spaceKey 1), .spawnEntity ⟨2⟩ (spaceKey 1) ⟨1⟩, .removeEntity ⟨2⟩ session ⟨1⟩,
    .drainOutbound ⟨2⟩, .transportLost ⟨2⟩ fun _ _ _ => 0]

theorem visited_guest : ∃ principal, visited.authenticatedPrincipal ⟨2⟩ = .ok principal ∧
    ∀ key, ¬ principal.MayWrite key := by
  have hreads : (visited.authenticatedPrincipal ⟨2⟩).toOption.any (fun principal =>
      principal.grants.namespaces.toList.all fun entry => !entry.2.permitsWrite) = true := by
    decide +kernel
  cases hprincipal : visited.authenticatedPrincipal ⟨2⟩ with
  | error e =>
    rw [hprincipal] at hreads
    cases hreads
  | ok principal =>
    rw [hprincipal] at hreads
    refine ⟨principal, rfl, ?_⟩
    rintro key ⟨hwrites, -⟩
    obtain ⟨grant, hgrant, hpermits⟩ := (Option.any_eq_true _ _).mp hwrites
    have hentry := List.all_eq_true.mp hreads _
      (ExtTreeMap.mem_toList_iff_getElem?_eq_some.mpr hgrant)
    simp [hpermits] at hentry

end Sample

theorem run_readOnly_visit :
    Attributed Sample.visited ∧
      (Sample.visited.sessionAt Sample.session).entities.size = 1 ∧
      Harmless ⟨2⟩ Sample.visited (Transition.run step Sample.visited Sample.visit) := by
  obtain ⟨principal, hprincipal, hreads⟩ := Sample.visited_guest
  obtain ⟨hattributed, hguest⟩ := run_readOnly Sample.visited_reachable
  exact ⟨hattributed, by decide +kernel,
    (hguest ⟨2⟩ principal Sample.visit hprincipal (by decide)).1 hreads⟩

end Signalweave
