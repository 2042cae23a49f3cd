import Signalweave.Core.Consistency
import Signalweave.Core.Planning

/-!
# Every change keeps the indexes in agreement

One lemma for each change that touches both sides, and the case analysis over all changes.
-/

open Std

namespace Signalweave

namespace WovenCore

variable {core : WovenCore}

/-! ## Removal -/

theorem removalOf_of_mem {key : SessionKey} (h : key ∈ core.sessions)
    (initial : ExtTreeSet EntityId) :
    core.removalOf key initial = (core.sessionAt key).cascade initial := by
  rw [removalOf, sessions_getElem? h]

/-- The counter of an owner moves by the owner's removed records. -/
theorem removedOwned_eq {session : SessionState} (hkeyed : session.Keyed) (removal : Removal)
    (connection : ConnectionId) :
    session.removedOwned removal connection =
      OrderedMap.total (fun _ record => if record.ownerConnection = connection then 1 else 0)
        (session.entities.filter fun id _ => removal.entities.contains id) := by
  have hids : ∀ entry ∈ session.entities.toList, entry.2.id = entry.1 := by
    intro entry hentry
    exact hkeyed.entities entry.1 entry.2 (ExtTreeMap.mem_toList_iff_getElem?_eq_some.mp hentry)
  unfold SessionState.removedOwned SessionState.removedRecords OrderedMap.total
  rw [ExtTreeMap.toList_filter]
  generalize session.entities.toList = entries at hids ⊢
  induction entries with
  | nil => rfl
  | cons entry rest ih =>
    have hid : entry.2.id = entry.1 := hids entry List.mem_cons_self
    have ih := ih fun other hother => hids other (List.mem_cons_of_mem _ hother)
    cases hin : removal.entities.contains entry.1 with
    | false => simpa [List.filter_cons, hid, hin] using ih
    | true =>
      by_cases howner : entry.2.ownerConnection = connection
      · simp only [List.map_cons, List.filter_cons, hid, hin, howner, if_true, beq_self_eq_true,
          List.length_cons, List.sum_cons] at ih ⊢
        omega
      · simpa [List.filter_cons, hid, hin, howner] using ih

theorem ownedBy_dropRemoved {session : SessionState} (hkeyed : session.Keyed) (removal : Removal)
    (connection : ConnectionId) :
    (session.dropRemoved removal).ownedBy connection + session.removedOwned removal connection =
      session.ownedBy connection := by
  rw [removedOwned_eq hkeyed, SessionState.ownedBy, SessionState.dropRemoved_entities, Nat.add_comm]
  exact OrderedMap.total_filter_add

section DropRemoved

variable {key : SessionKey} {removal : Removal}

theorem sessionAt_dropRemoved {k : SessionKey} :
    (core.dropRemoved key removal).sessionAt k =
      if k = key ∧ key ∈ core.sessions then (core.sessionAt k).dropRemoved removal
      else core.sessionAt k := by
  rw [dropRemoved, sessionAt_mapConnections, sessionAt_modifySession]

theorem memberships_dropRemoved {connection : ConnectionId} :
    ((core.dropRemoved key removal).connectionAt connection).memberships =
      (core.connectionAt connection).memberships := by
  rw [dropRemoved, connectionAt_mapConnections, connectionAt_modifySession]
  split <;> rfl

theorem mem_subscriptions_dropRemoved {connection : ConnectionId} {spaceKey : SpaceKey} :
    spaceKey ∈ ((core.dropRemoved key removal).connectionAt connection).subscriptions ↔
      spaceKey ∈ (core.connectionAt connection).subscriptions ∧
        (spaceKey.session = key → spaceKey.space ∉ removal.spaces) := by
  rw [dropRemoved, connectionAt_mapConnections, connectionAt_modifySession]
  split
  · simp only [ConnectionState.dropRemoved, ConnectionState.purgeOutbound,
      ← ExtTreeSet.contains_iff_mem]
    grind
  · rename_i hdead
    rw [connectionAt_of_notMem (by simpa using hdead)]
    simp

theorem mem_connections_dropRemoved {connection : ConnectionId} :
    connection ∈ (core.dropRemoved key removal).connections ↔ connection ∈ core.connections := by
  rw [dropRemoved, mem_connections_mapConnections, connections_modifySession]

theorem mem_sessions_dropRemoved {k : SessionKey} :
    k ∈ (core.dropRemoved key removal).sessions ↔ k ∈ core.sessions := by
  rw [dropRemoved, sessions_mapConnections, mem_sessions_modifySession]

/-- A session that does not exist loses nothing, and neither does any connection. -/
theorem Consistent.dropRemoved_of_notMem (h : core.Consistent) (hkey : key ∉ core.sessions)
    (entities : ExtTreeSet EntityId) :
    (core.dropRemoved key { entities, spaces := ∅ }).Consistent := by
  have howned : ∀ c, (core.sessions[key]?).elim 0
      (fun session => session.removedOwned { entities, spaces := ∅ } c) = 0 := by
    intro c
    rw [ExtTreeMap.getElem?_eq_none hkey]
    rfl
  have hsame : core.modifySession key (fun session => session.dropRemoved
      { entities, spaces := ∅ }) = core := by
    unfold WovenCore.modifySession
    congr 1
    apply ExtTreeMap.ext_getElem?
    intro k
    rw [OrderedMap.getElem?_modify]
    split
    · rename_i hk
      rw [hk, ExtTreeMap.getElem?_eq_none hkey]
      rfl
    · rfl
  unfold WovenCore.dropRemoved
  simp only [howned, hsame]
  apply h.mapConnections
  · exact fun _ _ => rfl
  · intro c state
    apply ExtTreeSet.ext_mem
    intro spaceKey
    simp [ConnectionState.dropRemoved, ConnectionState.purgeOutbound]
  · exact fun _ _ => rfl

theorem Consistent.dropRemoved (h : core.Consistent) (key : SessionKey)
    (initial : ExtTreeSet EntityId) :
    (core.dropRemoved key (core.removalOf key initial)).Consistent := by
  by_cases hkey : key ∈ core.sessions
  swap
  · rw [removalOf, ExtTreeMap.getElem?_eq_none hkey]
    exact h.dropRemoved_of_notMem hkey initial
  rw [removalOf_of_mem hkey]
  have hkeyed := (h.session key).keyed
  have hsessionAt : ∀ k, (core.dropRemoved key ((core.sessionAt key).cascade initial)).sessionAt k =
      if k = key then (core.sessionAt k).dropRemoved ((core.sessionAt key).cascade initial)
      else core.sessionAt k := by
    intro k
    rw [sessionAt_dropRemoved]
    simp [hkey]
  refine ⟨?_, ?_, ?_, ?_, ?_, ?_, h.nextConnection, ?_, h.nextEntity⟩
  · intro k
    rw [hsessionAt]
    split
    · rename_i heq
      rw [← heq]
      exact (h.session k).dropRemoved
    · exact h.session k
  · intro c k
    rw [memberships_dropRemoved, hsessionAt, ← h.membership]
    split
    · rw [SessionState.dropRemoved_members]
    · rfl
  · intro c k space
    rw [mem_subscriptions_dropRemoved, hsessionAt, ← h.subscription]
    by_cases hk : k = key
    · rw [if_pos hk, SessionState.subscribersOf, SessionState.dropRemoved_subscribers]
      by_cases hspace : space ∈ ((core.sessionAt key).cascade initial).spaces
      · simp [hspace, hk]
      · simp [hspace, SessionState.subscribersOf]
    · simp [hk]
  · intro c spaceKey hspaceKey
    rw [memberships_dropRemoved]
    exact h.subscriptionMember c spaceKey (mem_subscriptions_dropRemoved.mp hspaceKey).1
  · intro c
    have hupdate := ownedCount_update core
      (core.dropRemoved key ((core.sessionAt key).cascade initial)) key
      (fun k hk => sessions_modifySession_of_ne hk) c
    have hsplit := ownedBy_dropRemoved hkeyed ((core.sessionAt key).cascade initial) c
    have howned := h.owned c
    rw [hsessionAt, if_pos rfl] at hupdate
    rw [WovenCore.dropRemoved, connectionAt_mapConnections, connectionAt_modifySession,
      sessions_getElem? hkey]
    change _ = (core.dropRemoved key ((core.sessionAt key).cascade initial)).ownedCount c
    split
    · change (core.connectionAt c).ownedEntities -
        (core.sessionAt key).removedOwned ((core.sessionAt key).cascade initial) c = _
      omega
    · rename_i hdead
      rw [connectionAt_of_notMem (by simpa using hdead)] at howned ⊢
      change 0 = _ at howned
      change 0 = _
      omega
  · intro c hc
    exact h.connectionIds c (mem_connections_dropRemoved.mp hc)
  · intro k id hid
    apply h.entityIds k id
    rw [hsessionAt] at hid
    split at hid
    · rw [SessionState.dropRemoved_entities] at hid
      exact ExtTreeMap.mem_of_mem_filter hid
    · exact hid

end DropRemoved

/-! ## Members and subscribers -/

section Members

variable {connection : ConnectionId} {key : SessionKey} {spaceKey : SpaceKey}

theorem mem_connections_of_authenticated {principal : AuthenticatedPrincipal}
    (h : core.authenticatedPrincipal connection = .ok principal) :
    connection ∈ core.connections := by
  obtain ⟨state, hstate, -⟩ := authenticatedPrincipal_eq_ok.mp h
  exact OrderedMap.mem_of_getElem? hstate

theorem mem_sessions_of_members (h : connection ∈ (core.sessionAt key).members) :
    key ∈ core.sessions := by
  by_contra hmem
  simp [sessionAt_of_notMem hmem] at h

theorem Consistent.mem_sessions (h : core.Consistent)
    (hmember : key ∈ (core.connectionAt connection).memberships) : key ∈ core.sessions :=
  mem_sessions_of_members ((h.membership connection key).mpr hmember)

theorem ownedCount_of_entities (core core' : WovenCore) (key : SessionKey)
    (hother : ∀ k, k ≠ key → core'.sessions[k]? = core.sessions[k]?)
    (hentities : (core'.sessionAt key).entities = (core.sessionAt key).entities)
    (c : ConnectionId) : core'.ownedCount c = core.ownedCount c := by
  have hupdate := ownedCount_update core core' key hother c
  have howned : (core'.sessionAt key).ownedBy c = (core.sessionAt key).ownedBy c := by
    unfold SessionState.ownedBy
    rw [hentities]
  omega

theorem Consistent.join (h : core.Consistent) (hlive : connection ∈ core.connections)
    (hkey : key ∈ core.sessions) : (core.join connection key).Consistent := by
  have hs : ∀ k, (core.join connection key).sessionAt k =
      if k = key then
        { core.sessionAt k with members := (core.sessionAt k).members.insert connection }
      else core.sessionAt k := by
    intro k
    simp [WovenCore.join, hkey]
  have hc : ∀ c, (core.join connection key).connectionAt c =
      if c = connection then
        { core.connectionAt c with memberships := (core.connectionAt c).memberships.insert key }
      else core.connectionAt c := by
    intro c
    simp [WovenCore.join, hlive]
  refine ⟨?_, ?_, ?_, ?_, ?_, ?_, h.nextConnection, ?_, h.nextEntity⟩
  · intro k
    rw [hs]
    split
    · exact (h.session k).join
    · exact h.session k
  · intro c k
    have hbefore := h.membership c k
    rw [hs, hc]
    by_cases hck : c = connection <;> by_cases hkk : k = key <;>
      simp_all [OrderedSet.mem_insert, - ExtTreeSet.mem_insert]
  · intro c k space
    have hbefore := h.subscription c k space
    rw [hs, hc]
    by_cases hck : c = connection <;> by_cases hkk : k = key <;>
      simpa [hck, hkk, SessionState.subscribersOf] using hbefore
  · intro c other hother
    rw [hc] at hother ⊢
    split at hother
    · rename_i heq
      rw [if_pos heq]
      exact OrderedSet.mem_insert.mpr (.inr (h.subscriptionMember c other hother))
    · rename_i hne
      rw [if_neg hne]
      exact h.subscriptionMember c other hother
  · intro c
    have hcount : (core.join connection key).ownedCount c = core.ownedCount c :=
      ownedCount_of_entities core (core.join connection key) key
        (fun k hk => sessions_modifySession_of_ne hk) (by rw [hs, if_pos rfl]) c
    rw [hcount, ← h.owned c, hc]
    split <;> rfl
  · intro c hlive'
    exact h.connectionIds c (mem_connections_modifyConnection.mp hlive')
  · intro k id hid
    rw [hs] at hid
    split at hid <;> exact h.entityIds k id hid

/-- One connection and one space change what they say of each other, and nothing else does. -/
theorem Consistent.modifySubscription {core' : WovenCore} (h : core.Consistent)
    (f : ExtTreeSet ConnectionId → ExtTreeSet ConnectionId) (g : ConnectionState → ConnectionState)
    (hs : ∀ k, core'.sessionAt k = if k = spaceKey.session ∧ spaceKey.session ∈ core.sessions then
      { core.sessionAt k with
        subscribers := (core.sessionAt k).subscribers.modify spaceKey.space f }
      else core.sessionAt k)
    (hother : ∀ k, k ≠ spaceKey.session → core'.sessions[k]? = core.sessions[k]?)
    (hc : ∀ c, core'.connectionAt c =
      if c = connection then g (core.connectionAt c) else core.connectionAt c)
    (hlive : ∀ c, c ∈ core'.connections ↔ c ∈ core.connections)
    (hnext : core'.nextConnectionId = core.nextConnectionId)
    (hentity : core'.nextEntityId = core.nextEntityId)
    (hmemberships : ∀ state, (g state).memberships = state.memberships)
    (howned : ∀ state, (g state).ownedEntities = state.ownedEntities)
    (hagree : ∀ c k space, c ∈ (core'.sessionAt k).subscribersOf space ↔
      ⟨k, space⟩ ∈ (core'.connectionAt c).subscriptions)
    (hmember : ∀ other, other ∈ (g (core.connectionAt connection)).subscriptions →
      other.session ∈ (core.connectionAt connection).memberships) : core'.Consistent := by
  have hsame : ∀ c, (core'.connectionAt c).memberships = (core.connectionAt c).memberships := by
    intro c
    rw [hc]
    split
    · rw [hmemberships]
    · rfl
  refine ⟨?_, ?_, hagree, ?_, ?_, ?_, hnext ▸ h.nextConnection, ?_, hentity ▸ h.nextEntity⟩
  · intro k
    rw [hs]
    split
    · exact (h.session k).modifySubscribers
    · exact h.session k
  · intro c k
    rw [hsame, ← h.membership, hs]
    split <;> rfl
  · intro c other hin
    rw [hsame]
    rw [hc] at hin
    split at hin
    · rename_i heq
      subst heq
      exact hmember other hin
    · exact h.subscriptionMember c other hin
  · intro c
    have hentities : (core'.sessionAt spaceKey.session).entities =
        (core.sessionAt spaceKey.session).entities := by
      rw [hs]
      split <;> rfl
    rw [ownedCount_of_entities core core' spaceKey.session hother hentities, ← h.owned c, hc]
    split
    · rw [howned]
    · rfl
  · intro c hin
    rw [hnext]
    exact h.connectionIds c ((hlive c).mp hin)
  · intro k id hid
    rw [hentity]
    rw [hs] at hid
    split at hid <;> exact h.entityIds k id hid

theorem subscribersOf_modify {session : SessionState} {space : SpaceId}
    {f : ExtTreeSet ConnectionId → ExtTreeSet ConnectionId} {other : SpaceId} :
    { session with subscribers := session.subscribers.modify space f }.subscribersOf other =
      if other = space ∧ space ∈ session.subscribers then f (session.subscribersOf other)
      else session.subscribersOf other := by
  simp only [SessionState.subscribersOf, OrderedMap.getElem?_modify]
  by_cases heq : other = space
  · subst heq
    by_cases hmem : other ∈ session.subscribers
    · simp [hmem]
    · simp [hmem]
  · simp [heq]

theorem Consistent.subscribe (h : core.Consistent)
    (hmember : spaceKey.session ∈ (core.connectionAt connection).memberships)
    (hinstalled : spaceKey.space ∈ (core.sessionAt spaceKey.session).spaces) :
    (core.subscribe connection spaceKey).Consistent := by
  have hkey : spaceKey.session ∈ core.sessions := h.mem_sessions hmember
  have hlive : connection ∈ core.connections := mem_connections_of_membership hmember
  have hs : ∀ k, (core.subscribe connection spaceKey).sessionAt k =
      if k = spaceKey.session ∧ spaceKey.session ∈ core.sessions then
        { core.sessionAt k with
          subscribers := (core.sessionAt k).subscribers.modify spaceKey.space
            fun subscribers => subscribers.insert connection }
      else core.sessionAt k := by
    exact fun k => sessionAt_modifySession
  have hc : ∀ c, (core.subscribe connection spaceKey).connectionAt c =
      if c = connection then
        { core.connectionAt c with
          subscriptions := (core.connectionAt c).subscriptions.insert spaceKey }
      else core.connectionAt c := by
    intro c
    simp [WovenCore.subscribe, hlive]
  apply h.modifySubscription (fun subscribers => subscribers.insert connection)
    (fun state => { state with subscriptions := state.subscriptions.insert spaceKey }) hs
    (fun k hk => sessions_modifySession_of_ne hk) hc
    (fun c => mem_connections_modifyConnection) rfl rfl (fun _ => rfl) (fun _ => rfl)
  · intro c k space
    have hbefore := h.subscription c k space
    have hspaces := ((h.session spaceKey.session).subscriberSpaces spaceKey.space).mpr hinstalled
    rw [hs, hc]
    obtain ⟨key, target⟩ := spaceKey
    by_cases hk : k = key
    · subst hk
      rw [if_pos ⟨rfl, hkey⟩, subscribersOf_modify]
      by_cases hspace : space = target <;> by_cases hck : c = connection <;>
        simp_all [OrderedSet.mem_insert, - ExtTreeSet.mem_insert]
    · rw [if_neg (fun hand => hk hand.1), hbefore]
      by_cases hck : c = connection <;>
        simp [hck, hk, OrderedSet.mem_insert, - ExtTreeSet.mem_insert]
  · intro other hother
    rcases OrderedSet.mem_insert.mp hother with rfl | hother
    · exact hmember
    · exact h.subscriptionMember connection other hother

theorem Consistent.unsubscribe (h : core.Consistent)
    (hsubscribed : spaceKey ∈ (core.connectionAt connection).subscriptions) :
    (core.unsubscribe connection spaceKey).Consistent := by
  have hlive : connection ∈ core.connections := mem_connections_of_subscription hsubscribed
  have hkey : spaceKey.session ∈ core.sessions :=
    h.mem_sessions (h.subscriptionMember connection spaceKey hsubscribed)
  have hs : ∀ k, (core.unsubscribe connection spaceKey).sessionAt k =
      if k = spaceKey.session ∧ spaceKey.session ∈ core.sessions then
        { core.sessionAt k with
          subscribers := (core.sessionAt k).subscribers.modify spaceKey.space
            fun subscribers => subscribers.erase connection }
      else core.sessionAt k := by
    exact fun k => sessionAt_modifySession
  have hc : ∀ c, (core.unsubscribe connection spaceKey).connectionAt c =
      if c = connection then
        { core.connectionAt c with
          subscriptions := (core.connectionAt c).subscriptions.erase spaceKey }.purgeOutbound
            fun message => message.inSpace spaceKey
      else core.connectionAt c := by
    intro c
    simp [WovenCore.unsubscribe, hlive]
  apply h.modifySubscription (fun subscribers => subscribers.erase connection)
    (fun state => { state with
      subscriptions := state.subscriptions.erase spaceKey }.purgeOutbound
        fun message => message.inSpace spaceKey) hs
    (fun k hk => sessions_modifySession_of_ne hk) hc
    (fun c => mem_connections_modifyConnection) rfl rfl (fun _ => rfl) (fun _ => rfl)
  · intro c k space
    have hbefore := h.subscription c k space
    have hspaces : spaceKey.space ∈ (core.sessionAt spaceKey.session).subscribers := by
      have hin := (h.subscription connection spaceKey.session spaceKey.space).mpr hsubscribed
      by_contra hnone
      simp [SessionState.subscribersOf, hnone] at hin
    rw [hs, hc]
    obtain ⟨key, target⟩ := spaceKey
    by_cases hk : k = key
    · subst hk
      rw [if_pos ⟨rfl, hkey⟩, subscribersOf_modify]
      by_cases hspace : space = target <;> by_cases hck : c = connection <;>
        simp_all [OrderedSet.mem_erase, ConnectionState.purgeOutbound, - ExtTreeSet.mem_erase]
    · rw [if_neg (fun hand => hk hand.1), hbefore]
      by_cases hck : c = connection <;>
        simp [hck, hk, OrderedSet.mem_erase, ConnectionState.purgeOutbound, - ExtTreeSet.mem_erase]
  · intro other hother
    exact h.subscriptionMember connection other (OrderedSet.mem_erase.mp hother).2

theorem Consistent.dropMembership (h : core.Consistent) (hlive : connection ∈ core.connections)
    (hkey : key ∈ core.sessions)
    (hnone : ∀ (id : EntityId) (record : EntityRecord),
      (core.sessionAt key).entities[id]? = some record → record.ownerConnection ≠ connection) :
    (core.dropMembership connection key).Consistent := by
  have hs : ∀ k, (core.dropMembership connection key).sessionAt k =
      if k = key then (core.sessionAt k).leave connection else core.sessionAt k := by
    intro k
    simp [WovenCore.dropMembership, hkey]
  have hc : ∀ c, (core.dropMembership connection key).connectionAt c =
      if c = connection then (core.connectionAt c).leave key else core.connectionAt c := by
    intro c
    simp [WovenCore.dropMembership, hlive]
  refine ⟨?_, ?_, ?_, ?_, ?_, ?_, h.nextConnection, ?_, h.nextEntity⟩
  · intro k
    rw [hs]
    split
    · rename_i heq
      exact (h.session k).leave (heq ▸ hnone)
    · exact h.session k
  · intro c k
    have hbefore := h.membership c k
    rw [hs, hc]
    by_cases hck : c = connection <;> by_cases hkk : k = key <;>
      simp_all [SessionState.leave, ConnectionState.leave, ConnectionState.purgeOutbound,
        OrderedSet.mem_erase, - ExtTreeSet.mem_erase]
  · intro c k space
    have hbefore := h.subscription c k space
    have hleave : ((core.sessionAt k).leave connection).subscribersOf space =
        ((core.sessionAt k).subscribersOf space).erase connection := by
      unfold SessionState.leave SessionState.subscribersOf
      cases hspace : (core.sessionAt k).subscribers[space]? with
      | none => simp [hspace]
      | some subscribers => simp [hspace]
    rw [hs, hc]
    by_cases hck : c = connection <;> by_cases hkk : k = key <;>
      simp_all [ConnectionState.leave, ConnectionState.purgeOutbound, OrderedSet.mem_erase,
        - ExtTreeSet.mem_erase]
  · intro c other hother
    rw [hc] at hother ⊢
    split at hother
    · rename_i heq
      rw [if_pos heq]
      simp only [ConnectionState.leave, ConnectionState.purgeOutbound, OrderedSet.mem_filter]
        at hother
      obtain ⟨hin, hne⟩ := hother
      exact OrderedSet.mem_erase.mpr ⟨by simpa using hne, h.subscriptionMember c other hin⟩
    · rename_i hne
      rw [if_neg hne]
      exact h.subscriptionMember c other hother
  · intro c
    have hcount : (core.dropMembership connection key).ownedCount c = core.ownedCount c :=
      ownedCount_of_entities core (core.dropMembership connection key) key
        (fun k hk => sessions_modifySession_of_ne hk) (by rw [hs, if_pos rfl]; rfl) c
    rw [hcount, ← h.owned c, hc]
    split <;> rfl
  · intro c hin
    exact h.connectionIds c (mem_connections_modifyConnection.mp hin)
  · intro k id hid
    rw [hs] at hid
    split at hid <;> exact h.entityIds k id hid

theorem mem_entitiesWhere {p : EntityRecord → Bool} {id : EntityId}
    (hkeyed : (core.sessionAt key).Keyed) :
    id ∈ core.entitiesWhere key p ↔
      ∃ record, (core.sessionAt key).entities[id]? = some record ∧ p record = true := by
  unfold entitiesWhere
  cases hsession : core.sessions[key]? with
  | none =>
    rw [sessionAt, hsession]
    simp
  | some session =>
    rw [sessionAt_of_some hsession] at hkeyed ⊢
    rw [ExtTreeSet.mem_ofList, List.contains_iff_mem, List.mem_map]
    constructor
    · rintro ⟨record, hrecord, rfl⟩
      obtain ⟨hvalue, hp⟩ := List.mem_filter.mp hrecord
      obtain ⟨other, hother⟩ := SessionState.mem_values.mp hvalue
      rw [hkeyed.entities other record hother]
      exact ⟨record, hother, hp⟩
    · rintro ⟨record, hid, hp⟩
      exact ⟨record, List.mem_filter.mpr ⟨SessionState.mem_values.mpr ⟨id, hid⟩, hp⟩,
        hkeyed.entities id record hid⟩

/-- The admission tables take no part in the indexes. -/
theorem releaseSessionAdmission_eq (core : WovenCore) (connection : ConnectionId)
    (key : SessionKey) (reason : ReleaseReason) (now : Instant) :
    core.releaseSessionAdmission connection key reason now =
      { core with
        admissions := (core.releaseSessionAdmission connection key reason now).admissions
        admissionLeases :=
          (core.releaseSessionAdmission connection key reason now).admissionLeases } := by
  unfold releaseSessionAdmission
  split <;> rfl

theorem releasePendingAdmission_eq (core : WovenCore) (connection : ConnectionId)
    (key : SessionKey) (now : Instant) :
    core.releasePendingAdmission connection key now =
      { core with
        admissions := (core.releasePendingAdmission connection key now).admissions
        pendingAdmissions :=
          (core.releasePendingAdmission connection key now).pendingAdmissions } := by
  unfold releasePendingAdmission
  split <;> rfl

theorem Consistent.detach (h : core.Consistent)
    (hmember : key ∈ (core.connectionAt connection).memberships) :
    (core.detachConnectionFromSession connection key).2.Consistent := by
  have hlive := mem_connections_of_membership hmember
  have hkey := h.mem_sessions hmember
  have hkeyed := (h.session key).keyed
  apply (h.dropRemoved key _).dropMembership
  · exact mem_connections_dropRemoved.mpr hlive
  · exact mem_sessions_dropRemoved.mpr hkey
  · intro id record hid howner
    rw [sessionAt_dropRemoved, if_pos ⟨rfl, hkey⟩] at hid
    obtain ⟨hfound, hnot⟩ := SessionState.mem_dropRemoved_entities.mp hid
    apply hnot
    rw [removalOf_of_mem hkey, SessionState.mem_cascade_entities hkeyed]
    exact .inl ((mem_entitiesWhere hkeyed).mpr ⟨record, hfound, by simpa using howner⟩)

theorem Consistent.leave (h : core.Consistent)
    (hmember : key ∈ (core.connectionAt connection).memberships) (reason : ReleaseReason)
    (now : Instant) : (core.leave connection key reason now).Consistent := by
  unfold WovenCore.leave
  rw [releaseSessionAdmission_eq]
  exact Consistent.detach (h.congr rfl rfl rfl rfl) hmember

end Members

/-! ## Sessions and connections come and go -/

section Tables

variable {connection : ConnectionId} {key : SessionKey}

/-- A new session is as empty as the session that was read under its key before. -/
theorem sessionAt_provision (hfresh : key ∉ core.sessions) (k : SessionKey) :
    { core with sessions := core.sessions.insert key {} }.sessionAt k = core.sessionAt k := by
  unfold sessionAt
  rw [OrderedMap.getElem?_insert]
  split
  · rename_i heq
    rw [heq, ExtTreeMap.getElem?_eq_none hfresh]
    rfl
  · rfl

theorem Consistent.provision (h : core.Consistent) (hfresh : key ∉ core.sessions) :
    { core with sessions := core.sessions.insert key {} }.Consistent := by
  have hs := sessionAt_provision hfresh
  refine h.frame (fun k => hs k ▸ h.session k) ?_ ?_
  · refine ⟨fun k => by rw [hs], fun k space => by rw [hs], ?_, fun k id hid => by rwa [hs] at hid,
      rfl⟩
    intro c
    refine ownedCount_of_entities core _ key ?_ (by rw [hs]) c
    intro k hk
    rw [OrderedMap.getElem?_insert, if_neg hk]
  · exact ⟨fun _ => rfl, fun _ => rfl, fun _ => rfl, fun _ => Iff.rfl, rfl⟩

/-- A new connection has nothing, which is what was read under its id before. -/
theorem Consistent.connect (h : core.Consistent) (outbound : OutboundQueue) :
    { core with
      nextConnectionId := core.nextConnectionId + 1
      connections := core.connections.insert ⟨core.nextConnectionId⟩ { outbound } }.Consistent := by
  have hdead : (⟨core.nextConnectionId⟩ : ConnectionId) ∉ core.connections := by
    intro hlive
    have := (h.connectionIds _ hlive).2
    simp at this
  have hc : ∀ c, { core with
      nextConnectionId := core.nextConnectionId + 1
      connections := core.connections.insert ⟨core.nextConnectionId⟩ { outbound } }.connectionAt c =
        if c = ⟨core.nextConnectionId⟩ then { outbound } else core.connectionAt c := by
    intro c
    unfold connectionAt
    rw [OrderedMap.getElem?_insert]
    split <;> rfl
  have hbefore := connectionAt_of_notMem hdead
  refine ⟨h.session, ?_, ?_, ?_, ?_, ?_, Nat.succ_pos _, h.entityIds, h.nextEntity⟩
  · intro c k
    rw [hc]
    split
    · rename_i heq
      rw [heq]
      exact (h.membership ⟨core.nextConnectionId⟩ k).trans (by rw [hbefore])
    · exact h.membership c k
  · intro c k space
    rw [hc]
    split
    · rename_i heq
      rw [heq]
      exact (h.subscription ⟨core.nextConnectionId⟩ k space).trans (by rw [hbefore])
    · exact h.subscription c k space
  · intro c other hother
    rw [hc] at hother ⊢
    split at hother
    · simp at hother
    · rename_i hne
      rw [if_neg hne]
      exact h.subscriptionMember c other hother
  · intro c
    rw [hc]
    split
    · rename_i heq
      have howned := h.owned c
      rw [heq, hbefore] at howned
      rw [heq]
      exact howned
    · exact h.owned c
  · intro c hlive
    rcases OrderedMap.mem_insert.mp hlive with rfl | hlive
    · exact ⟨h.nextConnection, Nat.lt_succ_self _⟩
    · obtain ⟨hpos, hlt⟩ := h.connectionIds c hlive
      exact ⟨hpos, Nat.lt_succ_of_lt hlt⟩

/-- A connection without memberships owns nothing and is subscribed to nothing. -/
theorem Consistent.disconnect (h : core.Consistent)
    (hleft : ∀ k, k ∉ (core.connectionAt connection).memberships) :
    { core with connections := core.connections.erase connection }.Consistent := by
  have hc : ∀ c, { core with
      connections := core.connections.erase connection }.connectionAt c =
        if c = connection then { outbound := { config := {} } } else core.connectionAt c := by
    intro c
    unfold connectionAt
    rw [OrderedMap.getElem?_erase]
    split <;> rfl
  refine ⟨h.session, ?_, ?_, ?_, ?_, ?_, h.nextConnection, h.entityIds, h.nextEntity⟩
  · intro c k
    rw [hc]
    split
    · rename_i heq
      rw [heq]
      exact ⟨fun hin => absurd ((h.membership connection k).mp hin) (hleft k), by simp⟩
    · exact h.membership c k
  · intro c k space
    rw [hc]
    split
    · rename_i heq
      have hnot := mt (h.subscriptionMember connection ⟨k, space⟩) (hleft k)
      rw [heq]
      exact ⟨fun hin => absurd ((h.subscription connection k space).mp hin) hnot, by simp⟩
    · exact h.subscription c k space
  · intro c other hother
    rw [hc] at hother ⊢
    split at hother
    · simp at hother
    · rename_i hne
      rw [if_neg hne]
      exact h.subscriptionMember c other hother
  · intro c
    rw [hc]
    split
    · rename_i heq
      rw [heq]
      symm
      apply OrderedMap.total_eq_zero
      intro k session hsession
      apply ownedBy_eq_zero
      intro id record hid howner
      have hat : core.sessionAt k = session := sessionAt_of_some hsession
      have hmember := (h.session k).owners id record (hat ▸ hid)
      rw [howner] at hmember
      exact hleft k ((h.membership connection k).mp hmember)
    · exact h.owned c
  · intro c hlive
    exact h.connectionIds c (OrderedMap.mem_erase.mp hlive).2

end Tables

/-! ## Entities -/

section Entities

variable {connection : ConnectionId} {spaceKey : SpaceKey} {epoch : SpaceEpoch}

theorem sessionAt_spawn {principal : AuthenticatedPrincipal}
    (hkey : spaceKey.session ∈ core.sessions) (k : SessionKey) :
    (core.spawn connection spaceKey epoch principal).sessionAt k =
      if k = spaceKey.session then
        { core.sessionAt k with
          entities := (core.sessionAt k).entities.insert ⟨core.nextEntityId⟩
            { id := ⟨core.nextEntityId⟩, ownerConnection := connection,
              ownerPrincipal := principal.principalId, space := spaceKey.space,
              spaceEpoch := epoch, position := none } }
      else core.sessionAt k := by
  refine sessionAt_modifySession.trans ?_
  by_cases hk : k = spaceKey.session
  · rw [if_pos ⟨hk, hkey⟩, if_pos hk]
    rfl
  · rw [if_neg (fun hand => hk hand.1), if_neg hk]
    rfl

theorem connectionAt_spawn {principal : AuthenticatedPrincipal}
    (hlive : connection ∈ core.connections) (c : ConnectionId) :
    (core.spawn connection spaceKey epoch principal).connectionAt c =
      if c = connection then
        { core.connectionAt c with ownedEntities := (core.connectionAt c).ownedEntities + 1 }
      else core.connectionAt c := by
  refine connectionAt_modifyConnection.trans ?_
  by_cases hck : c = connection
  · rw [if_pos ⟨hck, hlive⟩, if_pos hck]
    rfl
  · rw [if_neg (fun hand => hck hand.1), if_neg hck]
    rfl

theorem ownedBy_spawn {principal : AuthenticatedPrincipal}
    (hkey : spaceKey.session ∈ core.sessions)
    (hfresh : (⟨core.nextEntityId⟩ : EntityId) ∉ (core.sessionAt spaceKey.session).entities)
    (c : ConnectionId) :
    ((core.spawn connection spaceKey epoch principal).sessionAt spaceKey.session).ownedBy c =
      (core.sessionAt spaceKey.session).ownedBy c + if connection = c then 1 else 0 := by
  have htotal := OrderedMap.total_insert
    (f := fun _ record => if EntityRecord.ownerConnection record = c then 1 else 0)
    (m := (core.sessionAt spaceKey.session).entities) (k := ⟨core.nextEntityId⟩)
    (v := { id := ⟨core.nextEntityId⟩, ownerConnection := connection,
            ownerPrincipal := principal.principalId, space := spaceKey.space,
            spaceEpoch := epoch, position := none })
  rw [OrderedMap.share, ExtTreeMap.getElem?_eq_none hfresh] at htotal
  rw [sessionAt_spawn hkey, if_pos rfl]
  exact htotal

theorem Consistent.spawn {principal : AuthenticatedPrincipal} (h : core.Consistent)
    (hmember : spaceKey.session ∈ (core.connectionAt connection).memberships)
    (hinstalled : (core.sessionAt spaceKey.session).Installed spaceKey.space epoch) :
    (core.spawn connection spaceKey epoch principal).Consistent := by
  have hkey := h.mem_sessions hmember
  have hs := @sessionAt_spawn core connection spaceKey epoch principal hkey
  have hc := @connectionAt_spawn core connection spaceKey epoch principal
    (mem_connections_of_membership hmember)
  have hfresh : ∀ k, (⟨core.nextEntityId⟩ : EntityId) ∉ (core.sessionAt k).entities := by
    intro k hin
    have := (h.entityIds k _ hin).2
    simp at this
  have hmemberships : ∀ c, ((core.spawn connection spaceKey epoch principal).connectionAt
      c).memberships = (core.connectionAt c).memberships := by
    intro c
    rw [hc]
    split <;> rfl
  have hsubscriptions : ∀ c, ((core.spawn connection spaceKey epoch principal).connectionAt
      c).subscriptions = (core.connectionAt c).subscriptions := by
    intro c
    rw [hc]
    split <;> rfl
  refine ⟨?_, ?_, ?_, ?_, ?_, ?_, h.nextConnection, ?_, Nat.succ_pos _⟩
  · intro k
    rw [hs]
    split
    · rename_i heq
      subst heq
      exact (h.session _).spawn (hfresh _) rfl ((h.membership connection _).mpr hmember) hinstalled
    · exact h.session k
  · intro c k
    rw [hmemberships, ← h.membership, hs]
    split <;> rfl
  · intro c k space
    rw [hsubscriptions, ← h.subscription, hs]
    split <;> rfl
  · intro c other hother
    rw [hmemberships]
    exact h.subscriptionMember c other (hsubscriptions c ▸ hother)
  · intro c
    have hupdate := ownedCount_update core (core.spawn connection spaceKey epoch principal)
      spaceKey.session (fun k hk => sessions_modifySession_of_ne hk) c
    rw [ownedBy_spawn hkey (hfresh _)] at hupdate
    have howned := h.owned c
    rw [hc]
    by_cases hck : c = connection
    · rw [if_pos hck]
      rw [if_pos hck.symm] at hupdate
      change (core.connectionAt c).ownedEntities + 1 = _
      omega
    · rw [if_neg hck]
      rw [if_neg (Ne.symm hck)] at hupdate
      omega
  · intro c hin
    exact h.connectionIds c (mem_connections_modifyConnection.mp hin)
  · intro k id hid
    rw [hs] at hid
    have hold : ∀ {id : EntityId}, id ∈ (core.sessionAt k).entities →
        0 < id.get ∧ id.get < core.nextEntityId + 1 := by
      intro id hid
      obtain ⟨hpos, hlt⟩ := h.entityIds k id hid
      exact ⟨hpos, Nat.lt_succ_of_lt hlt⟩
    split at hid
    · rcases OrderedMap.mem_insert.mp hid with rfl | hid
      · exact ⟨h.nextEntity, Nat.lt_succ_self _⟩
      · exact hold hid
    · exact hold hid

/-- What the checks of a transition establish. -/
structure TransitionChecked (core : WovenCore) (request : EntityTransitionRequest)
    (record : EntityRecord) : Prop where
  principal : ∃ principal, core.authenticatedPrincipal request.connection = .ok principal
  member : request.session ∈ (core.connectionAt request.connection).memberships
  provisioned : request.session ∈ core.sessions
  subscribed : ⟨request.session, request.destinationSpace⟩ ∈
    (core.connectionAt request.connection).subscriptions
  source : (core.sessionAt request.session).Installed request.sourceSpace request.sourceEpoch
  destination : (core.sessionAt request.session).Installed request.destinationSpace
    request.destinationEpoch
  found : (core.sessionAt request.session).entities[request.entity]? = some record
  owner : record.ownerConnection = request.connection
  space : record.space = request.sourceSpace
  epoch : record.spaceEpoch = request.sourceEpoch

theorem checkTransition_eq_ok {request : EntityTransitionRequest} {u : Unit}
    (h : core.checkTransition request = .ok u) :
    ∃ record, core.TransitionChecked request record := by
  simp only [checkTransition, Except.bind_eq_ok, Except.ite_eq_ok, Except.throw_bind,
    Except.throw_ne_ok, Option.okOr_eq_ok, and_false, false_or, requireMembership_eq_ok,
    requireSubscription_eq_ok] at h
  obtain ⟨-, -, -, -, -, -, -, -, -, -, -, -, -, -, principal, hprincipal, -, -, -, -, -, -, -, -,
    -, ⟨state, hstate, hmember⟩, -, -, -, ⟨state', hstate', hsubscribed⟩, session, hsession,
    source, hsource, hsourceEpoch, destination, hdestination, hdestinationEpoch, record, hrecord,
    howner, hplace, -⟩ := h
  have hat := sessionAt_of_some hsession
  refine ⟨record, ⟨principal, hprincipal⟩, ?_, OrderedMap.mem_of_getElem? hsession, ?_, ?_, ?_,
    ?_, by simpa using howner, ?_, ?_⟩
  · rwa [connectionAt_of_some hstate]
  · rwa [connectionAt_of_some hstate']
  · exact hat ▸ ⟨source, hsource, by simpa using hsourceEpoch⟩
  · exact hat ▸ ⟨destination, hdestination, by simpa using hdestinationEpoch⟩
  · exact hat ▸ hrecord
  · by_contra hne
    exact hplace (.inl hne)
  · by_contra hne
    exact hplace (.inr hne)

theorem Consistent.transition {request : EntityTransitionRequest} (h : core.Consistent)
    (hchecked : core.checkTransition request = .ok ()) :
    (core.transition request).Consistent := by
  obtain ⟨record, hchecked⟩ := checkTransition_eq_ok hchecked
  apply Consistent.mapConnections
  · apply h.modifySession
    · intro _
      exact (h.session _).transition hchecked.found hchecked.space hchecked.source
        hchecked.destination
    · rw [SessionState.transition_eq]
    · intro space
      rw [SessionState.transition_eq]
      rfl
    · intro id
      rw [SessionState.transition_eq, OrderedMap.getElem?_modify]
      split
      · rw [Option.map_map]
        rfl
      · rfl
  · exact fun _ _ => rfl
  · exact fun _ _ => rfl
  · exact fun _ _ => rfl

end Entities

/-! ## All changes -/

theorem Consistent.commitPlan {request : PublishRequest} {call : Nat} {plan : PublishPlan}
    (h : core.Consistent) (hplan : core.planPublish request call = .ok plan) :
    (core.commitPlan request.session plan).Consistent := by
  have hplanned := planPublish_eq_ok hplan
  unfold WovenCore.commitPlan
  apply Consistent.modifySession
  · exact h.congr rfl rfl rfl rfl
  · intro _
    apply (h.session request.session).commit
    · intro message hmessage
      obtain ⟨before, hvalid⟩ := hplanned.messages message hmessage
      exact hvalid.scope
    · intro k hk
      obtain ⟨message, before, rfl, hvalid⟩ := hplanned.keys k hk
      exact ⟨hvalid.scope, (h.membership _ _).mpr hplanned.member⟩
  · rw [SessionState.commit_eq]
  · intro space
    rw [SessionState.commit_eq]
    rfl
  · intro id
    rw [SessionState.commit_eq]

end WovenCore

open WovenCore

theorem Change.consistent {op : Op} {core core' : WovenCore} (hchange : Change op core core')
    (h : core.Consistent) : core'.Consistent := by
  cases hchange with
  | registerChannel => exact h.congr rfl rfl rfl rfl
  | provisionSession key fresh => exact h.provision fresh
  | configureAdmission => exact h.congr rfl rfl rfl rfl
  | applyCapacity => exact h.congr rfl rfl rfl rfl
  | requestAdmission => exact h.congr rfl rfl rfl rfl
  | bindLease => exact h.congr rfl rfl rfl rfl
  | join connection key _ principal authenticated _ _ provisioned =>
    exact h.join (mem_connections_of_authenticated authenticated) provisioned
  | installSpace key descriptor session found _ fresh =>
    obtain rfl := sessionAt_of_some found
    apply h.modifySession
    · exact fun _ => (h.session key).installSpace fresh
    · rfl
    · intro space
      have hnone : descriptor.id ∉ (core.sessionAt key).subscribers :=
        fun hin => fresh (((h.session key).subscriberSpaces _).mp hin)
      unfold SessionState.installSpace SessionState.subscribersOf
      rw [OrderedMap.getElem?_insert]
      split
      · rename_i heq
        rw [heq, ExtTreeMap.getElem?_eq_none hnone]
        rfl
      · rfl
    · exact fun _ => rfl
  | removeEntities key initial => exact h.dropRemoved key initial
  | purgeSpace => exact h.mapConnections (fun _ _ => rfl) (fun _ _ => rfl) (fun _ _ => rfl)
  | advanceEpoch key space proposed descriptor found later empty =>
    apply Consistent.modifySession
    · exact h.mapConnections (fun _ _ => rfl) (fun _ _ => rfl) (fun _ _ => rfl)
    · exact fun _ => (h.session key).advanceEpoch empty
    · rfl
    · exact fun _ => rfl
    · exact fun _ => rfl
  | takeConnectionId =>
    refine ⟨h.session, h.membership, h.subscription, h.subscriptionMember, h.owned, ?_,
      Nat.succ_pos _, h.entityIds, h.nextEntity⟩
    intro c hc
    obtain ⟨hpos, hlt⟩ := h.connectionIds c hc
    exact ⟨hpos, Nat.lt_succ_of_lt hlt⟩
  | connect outbound => exact h.connect outbound
  | authenticate =>
    exact h.modifyConnection (fun _ => rfl) (fun _ => rfl) (fun _ => rfl)
  | leave connection key reason now _ member => exact h.leave member reason now
  | subscribe connection spaceKey member installed => exact h.subscribe member installed
  | unsubscribe connection spaceKey subscribed => exact h.unsubscribe subscribed
  | spawn connection spaceKey epoch principal member _ installed =>
    exact h.spawn member installed
  | move _ key entity position cell =>
    apply h.modifySession
    · exact fun _ => (h.session key).move
    · rw [SessionState.moveToCell_eq]
      rfl
    · intro space
      rw [SessionState.moveToCell_eq]
      rfl
    · intro id
      rw [SessionState.moveToCell_eq, SessionState.modifyEntity, OrderedMap.getElem?_modify]
      split
      · rw [Option.map_map]
        rfl
      · rfl
  | transition request checked => exact h.transition checked
  | limit => exact h.modifyConnection (fun _ => rfl) (fun _ => rfl) (fun _ => rfl)
  | commit request now call clock plan planned => exact h.commitPlan planned
  | deliver => exact h.modifyConnection (fun _ => rfl) (fun _ => rfl) (fun _ => rfl)
  | drain => exact h.modifyConnection (fun _ => rfl) (fun _ => rfl) (fun _ => rfl)
  | popJournal => exact h.congr rfl rfl rfl rfl
  | releasePending connection key now =>
    rw [releasePendingAdmission_eq]
    exact h.congr rfl rfl rfl rfl
  | disconnect connection _ left => exact h.disconnect left

end Signalweave
