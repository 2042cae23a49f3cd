import Signalweave.Core.EpochAdvance

/-!
# What falls with an entity or a connection

A removal takes with it the spaces that are anchored in what it removes, and their entities. The
summary lists each entity that has gone, once.
-/

open Std

namespace Signalweave

open Stateful

namespace WovenCore

variable {core core' core'' : WovenCore} {key k : SessionKey} {id : EntityId}
  {falls falls' : SessionKey → EntityId → Prop} {removed removed' : List RemovedEntity}

/-- How often a list names an entity as removed from a space. -/
def timesRemoved (removed : List RemovedEntity) (spaceKey : SpaceKey) (id : EntityId) : Nat :=
  removed.countP fun entry =>
    entry.session == spaceKey.session && entry.space == spaceKey.space && entry.entity == id

/-- Between two states the entities that fall have gone, and the list names each of them once, with
the space it was in. -/
structure Removes (core core' : WovenCore) (falls : SessionKey → EntityId → Prop)
    (removed : List RemovedEntity) : Prop where
  kept : ∀ key (id : EntityId) record, (core.sessionAt key).entities[id]? = some record →
    ¬ falls key id → (core'.sessionAt key).entities[id]? = some record
  gone : ∀ key id, falls key id → id ∉ (core'.sessionAt key).entities
  old : ∀ key (id : EntityId) record, (core'.sessionAt key).entities[id]? = some record →
    (core.sessionAt key).entities[id]? = some record
  found : ∀ key id, falls key id → id ∈ (core.sessionAt key).entities
  listed : ∀ key (id : EntityId) record space,
    (core.sessionAt key).entities[id]? = some record → falls key id →
      timesRemoved removed ⟨key, space⟩ id = if record.space = space then 1 else 0
  only : ∀ entry ∈ removed, falls entry.session entry.entity

theorem timesRemoved_append {spaceKey : SpaceKey} :
    timesRemoved (removed ++ removed') spaceKey id =
      timesRemoved removed spaceKey id + timesRemoved removed' spaceKey id :=
  List.countP_append

theorem timesRemoved_eq_zero {spaceKey : SpaceKey}
    (h : ∀ entry ∈ removed, entry.session = spaceKey.session → entry.entity ≠ id) :
    timesRemoved removed spaceKey id = 0 := by
  apply List.countP_eq_zero.mpr
  intro entry hin
  simp only [Bool.and_eq_true, beq_iff_eq]
  rintro ⟨⟨hsession, -⟩, hid⟩
  exact h entry hin hsession hid

theorem Removes.refl (core : WovenCore) : Removes core core (fun _ _ => False) [] where
  kept _ _ _ h _ := h
  gone _ _ := False.elim
  old _ _ _ h := h
  found _ _ := False.elim
  listed _ _ _ _ _ := False.elim
  only _ h := by cases h

/-- Only the entity tables count. -/
theorem Removes.congr (h : Removes core core' falls removed)
    (hentities : ∀ key, (core''.sessionAt key).entities = (core'.sessionAt key).entities) :
    Removes core core'' falls removed where
  kept key id record hrecord hnot := by
    rw [hentities]
    exact h.kept key id record hrecord hnot
  gone key id hfalls := by
    rw [hentities]
    exact h.gone key id hfalls
  old key id record := by
    rw [hentities]
    exact h.old key id record
  found := h.found
  listed := h.listed
  only := h.only

theorem Removes.of_sessions (h : Removes core' core'' falls removed)
    (hsessions : core'.sessions = core.sessions) : Removes core core'' falls removed := by
  have hat : ∀ key, core'.sessionAt key = core.sessionAt key := by
    intro key
    rw [sessionAt, hsessions, sessionAt]
  refine ⟨?_, h.gone, ?_, ?_, ?_, h.only⟩
  · intro key id record hrecord
    rw [← hat] at hrecord
    exact h.kept key id record hrecord
  · intro key id record hrecord
    rw [← hat]
    exact h.old key id record hrecord
  · intro key id hfalls
    rw [← hat]
    exact h.found key id hfalls
  · intro key id record space hrecord
    rw [← hat] at hrecord
    exact h.listed key id record space hrecord

theorem Removes.trans (h : Removes core core' falls removed)
    (h' : Removes core' core'' falls' removed') :
    Removes core core'' (fun key id => falls key id ∨ falls' key id) (removed ++ removed') where
  kept key id record hrecord hnot :=
    h'.kept key id record (h.kept key id record hrecord (mt Or.inl hnot)) (mt Or.inr hnot)
  gone key id := by
    rintro (hfalls | hfalls)
    · intro hin
      obtain ⟨record, hrecord⟩ := OrderedMap.exists_of_mem hin
      exact h.gone key id hfalls (OrderedMap.mem_of_getElem? (h'.old key id record hrecord))
    · exact h'.gone key id hfalls
  old key id record hrecord := h.old key id record (h'.old key id record hrecord)
  found key id := by
    rintro (hfalls | hfalls)
    · exact h.found key id hfalls
    · obtain ⟨record, hrecord⟩ := OrderedMap.exists_of_mem (h'.found key id hfalls)
      exact OrderedMap.mem_of_getElem? (h.old key id record hrecord)
  listed key id record space hrecord hfalls := by
    rw [timesRemoved_append]
    by_cases hfirst : falls key id
    · have hsecond : timesRemoved removed' ⟨key, space⟩ id = 0 := by
        apply timesRemoved_eq_zero
        rintro entry hin hsession rfl
        have hfound := h'.found _ _ (h'.only entry hin)
        rw [hsession] at hfound
        exact h.gone key _ hfirst hfound
      rw [h.listed key id record space hrecord hfirst, hsecond]
      rfl
    · have hnone : timesRemoved removed ⟨key, space⟩ id = 0 := by
        apply timesRemoved_eq_zero
        rintro entry hin hsession rfl
        have hentry := h.only entry hin
        rw [hsession] at hentry
        exact hfirst hentry
      rw [hnone, Nat.zero_add, h'.listed key id record space (h.kept key id record hrecord hfirst)
        (hfalls.resolve_left hfirst)]
  only entry hin := by
    rcases List.mem_append.mp hin with hin | hin
    · exact Or.inl (h.only entry hin)
    · exact Or.inr (h'.only entry hin)

theorem Removes.of_iff (h : Removes core core' falls removed)
    (hiff : ∀ key id, falls' key id ↔ falls key id) : Removes core core' falls' removed := by
  have hsame : falls' = falls := by
    funext key id
    exact propext (hiff key id)
  rw [hsame]
  exact h

/-! ## One removal -/

theorem timesRemoved_of_mem (hnodup : (removed.map RemovedEntity.entity).Nodup)
    {entry : RemovedEntity} (hin : entry ∈ removed) (space : SpaceId) :
    timesRemoved removed ⟨entry.session, space⟩ entry.entity =
      if entry.space = space then 1 else 0 := by
  induction removed with
  | nil => cases hin
  | cons first rest ih =>
    obtain ⟨hfresh, hrest⟩ := List.nodup_cons.mp hnodup
    have hcons : timesRemoved (first :: rest) ⟨entry.session, space⟩ entry.entity =
        timesRemoved rest ⟨entry.session, space⟩ entry.entity +
          if first.session = entry.session ∧ first.space = space ∧ first.entity = entry.entity
            then 1 else 0 := by
      unfold timesRemoved
      rw [List.countP_cons]
      simp [and_assoc]
    rw [hcons]
    rcases List.mem_cons.mp hin with rfl | hin
    · have hnone : timesRemoved rest ⟨entry.session, space⟩ entry.entity = 0 := by
        apply timesRemoved_eq_zero
        rintro other hother - hsame
        exact hfresh (List.mem_map.mpr ⟨other, hother, hsame⟩)
      rw [hnone]
      simp
    · have hne : first.entity ≠ entry.entity := by
        intro hsame
        exact hfresh (List.mem_map.mpr ⟨entry, hin, hsame.symm⟩)
      have hfirst : ¬ (first.session = entry.session ∧ first.space = space ∧
          first.entity = entry.entity) := fun hand => hne hand.2.2
      rw [ih hrest hin, if_neg hfirst, Nat.add_zero]

/-- What the summary of a removal lists. -/
theorem removedEntities_removalSummary (hkey : key ∈ core.sessions) (removal : Removal) :
    (core.removalSummary key removal).removedEntities =
      ((core.sessionAt key).removedRecords removal).map fun record =>
        { entity := record.id, session := key, space := record.space
          spaceEpoch := record.spaceEpoch } := by
  unfold removalSummary
  rw [sessions_getElem? hkey]

theorem mem_removedRecords {session : SessionState} {removal : Removal} {record : EntityRecord}
    (hkeyed : session.Keyed) : record ∈ session.removedRecords removal ↔
      session.entities[record.id]? = some record ∧ record.id ∈ removal.entities := by
  unfold SessionState.removedRecords
  rw [List.mem_filter, SessionState.mem_values]
  constructor
  · rintro ⟨⟨id, hid⟩, hin⟩
    refine ⟨?_, hin⟩
    rw [hkeyed.entities id record hid]
    exact hid
  · rintro ⟨hrecord, hin⟩
    exact ⟨⟨record.id, hrecord⟩, hin⟩

theorem nodup_removedRecords {session : SessionState} (hkeyed : session.Keyed)
    (removal : Removal) : ((session.removedRecords removal).map EntityRecord.id).Nodup := by
  have hkeys : (session.entities.toList.map Prod.snd).Pairwise
      fun first second => first.id ≠ second.id := by
    apply List.pairwise_map.mpr
    apply (ExtTreeMap.distinct_keys_toList (t := session.entities)).imp_of_mem
    rintro ⟨first, record⟩ ⟨second, record'⟩ hfirst hsecond hne
    have hid := hkeyed.entities first record (ExtTreeMap.mem_toList_iff_getElem?_eq_some.mp hfirst)
    have hid' := hkeyed.entities second record'
      (ExtTreeMap.mem_toList_iff_getElem?_eq_some.mp hsecond)
    dsimp only
    rw [hid, hid']
    rintro rfl
    exact hne compare_self
  exact List.pairwise_map.mpr (hkeys.filter _)

/-- The removal of some entities, with the spaces anchored in them. -/
theorem removes_dropRemoved (h : core.Consistent) (hkey : key ∈ core.sessions)
    {initial : ExtTreeSet EntityId}
    (hinitial : ∀ id, id ∈ initial → id ∈ (core.sessionAt key).entities) :
    Removes core (core.dropRemoved key (core.removalOf key initial))
      (fun k id => k = key ∧ DoomedEntity (core.sessionAt key) initial id)
      (core.removalSummary key (core.removalOf key initial)).removedEntities := by
  have hkeyed := (h.session key).keyed
  have hremoved : ∀ id, id ∈ (core.removalOf key initial).entities ↔
      DoomedEntity (core.sessionAt key) initial id := by
    intro id
    rw [removalOf_of_mem hkey, SessionState.mem_cascade_entities hkeyed]
  have hat : ∀ k (id : EntityId) record, ((core.dropRemoved key (core.removalOf key
      initial)).sessionAt k).entities[id]? = some record ↔
        (core.sessionAt k).entities[id]? = some record ∧
          ¬ (k = key ∧ DoomedEntity (core.sessionAt key) initial id) := by
    intro k id record
    rw [sessionAt_dropRemoved]
    by_cases hk : k = key
    · subst hk
      rw [if_pos ⟨rfl, hkey⟩, SessionState.mem_dropRemoved_entities, hremoved]
      simp
    · rw [if_neg fun hand => hk hand.1]
      simp [hk]
  refine ⟨?_, ?_, ?_, ?_, ?_, ?_⟩
  · intro k id record hrecord hnot
    exact (hat k id record).mpr ⟨hrecord, hnot⟩
  · intro k id hfalls hin
    obtain ⟨record, hrecord⟩ := OrderedMap.exists_of_mem hin
    exact ((hat k id record).mp hrecord).2 hfalls
  · intro k id record hrecord
    exact ((hat k id record).mp hrecord).1
  · rintro k id ⟨rfl, hdoomed⟩
    rcases hdoomed with hin | ⟨record, hrecord, -⟩
    · exact hinitial id hin
    · exact OrderedMap.mem_of_getElem? hrecord
  · rintro k id record space hrecord ⟨rfl, hdoomed⟩
    have hid := hkeyed.entities id record hrecord
    have hin : record ∈ (core.sessionAt k).removedRecords (core.removalOf k initial) := by
      refine (mem_removedRecords hkeyed).mpr ?_
      rw [hid]
      exact ⟨hrecord, (hremoved id).mpr hdoomed⟩
    have hnodup := nodup_removedRecords hkeyed (core.removalOf k initial)
    rw [removedEntities_removalSummary hkey, ← hid]
    refine timesRemoved_of_mem ?_ (List.mem_map.mpr ⟨record, hin, rfl⟩) space
    rw [List.map_map]
    exact hnodup
  · intro entry hin
    rw [removedEntities_removalSummary hkey] at hin
    obtain ⟨record, hrecord, rfl⟩ := List.mem_map.mp hin
    exact ⟨rfl, (hremoved _).mp ((mem_removedRecords hkeyed).mp hrecord).2⟩

/-! ## The loss of a connection -/

section Lost

variable {connection c : ConnectionId} {spaceKey : SpaceKey} {reason : ReleaseReason}
  {now : Instant} {clock : ReleaseClock}

/-- The entities of a session that a connection owns. -/
def ownedIn (core : WovenCore) (connection : ConnectionId) (key : SessionKey) :
    ExtTreeSet EntityId :=
  core.entitiesWhere key fun record => record.ownerConnection == connection

/-- The spaces that go when a connection goes. -/
def SpaceFalls (core : WovenCore) (connection : ConnectionId) (spaceKey : SpaceKey) : Prop :=
  DoomedSpace (core.sessionAt spaceKey.session) (core.ownedIn connection spaceKey.session)
    spaceKey.space

/-- The entities that go when a connection goes. -/
def EntityFalls (core : WovenCore) (connection : ConnectionId) (key : SessionKey) (id : EntityId) :
    Prop :=
  DoomedEntity (core.sessionAt key) (core.ownedIn connection key) id

theorem mem_ownedIn (h : core.Consistent) : id ∈ core.ownedIn connection key ↔
    ∃ record, (core.sessionAt key).entities[id]? = some record ∧
      record.ownerConnection = connection := by
  unfold ownedIn
  rw [mem_entitiesWhere (h.session key).keyed]
  simp

theorem ownedIn_subset (h : core.Consistent) (hin : id ∈ core.ownedIn connection key) :
    id ∈ (core.sessionAt key).entities := by
  obtain ⟨record, hrecord, -⟩ := (mem_ownedIn h).mp hin
  exact OrderedMap.mem_of_getElem? hrecord

/-- Nothing spreads where nothing is removed to begin with. -/
theorem not_doomedSpace {session : SessionState} {initial : ExtTreeSet EntityId} {space : SpaceId}
    (hnone : ∀ id, id ∉ initial) : ¬ DoomedSpace session initial space := by
  intro h
  induction h with
  | anchor _ _ removed => exact hnone _ removed
  | anchorSpace _ _ _ _ ih => exact ih
  | parentSpace _ _ _ ih => exact ih

/-- A connection owns entities where it is a member, and nowhere else. -/
theorem not_mem_ownedIn (h : core.Consistent)
    (hmember : key ∉ (core.connectionAt connection).memberships) (id : EntityId) :
    id ∉ core.ownedIn connection key := by
  intro hin
  obtain ⟨record, hrecord, rfl⟩ := (mem_ownedIn h).mp hin
  exact hmember ((h.membership _ key).mp ((h.session key).owners id record hrecord))

theorem SpaceFalls.member (hfalls : core.SpaceFalls connection spaceKey) (h : core.Consistent) :
    spaceKey.session ∈ (core.connectionAt connection).memberships := by
  by_contra hmember
  exact not_doomedSpace (not_mem_ownedIn h hmember) hfalls

theorem EntityFalls.member (hfalls : core.EntityFalls connection key id) (h : core.Consistent) :
    key ∈ (core.connectionAt connection).memberships := by
  by_contra hmember
  rcases hfalls with hin | ⟨record, -, hdoomed⟩
  · exact not_mem_ownedIn h hmember id hin
  · exact not_doomedSpace (not_mem_ownedIn h hmember) hdoomed

/-- The session after a leave. -/
theorem sessionAt_leave_of_ne (hne : k ≠ key) :
    (core.leave connection key reason now).sessionAt k = core.sessionAt k := by
  unfold leave detachConnectionFromSession removeEntitiesAndAnchoredSpaces dropMembership
  rw [sessionAt_modifyConnection, sessionAt_modifySession, if_neg fun hand => hne hand.1,
    sessionAt_dropRemoved, if_neg fun hand => hne hand.1, releaseSessionAdmission_eq]
  rfl

theorem sessions_releaseSessionAdmission :
    (core.releaseSessionAdmission connection key reason now).sessions = core.sessions := by
  rw [releaseSessionAdmission_eq]

theorem Consistent.releaseSessionAdmission (h : core.Consistent) :
    (core.releaseSessionAdmission connection key reason now).Consistent := by
  rw [releaseSessionAdmission_eq]
  exact h.congr rfl rfl rfl rfl

theorem ownedIn_releaseSessionAdmission :
    (core.releaseSessionAdmission connection key reason now).ownedIn connection k =
      core.ownedIn connection k := by
  unfold ownedIn entitiesWhere
  rw [sessions_releaseSessionAdmission]

theorem sessionAt_releaseSessionAdmission :
    (core.releaseSessionAdmission connection key reason now).sessionAt k = core.sessionAt k := by
  rw [sessionAt, sessions_releaseSessionAdmission, sessionAt]

/-- The entities that a leave removes. -/
theorem removes_leave (h : core.Consistent)
    (hmember : key ∈ (core.connectionAt connection).memberships) :
    Removes core (core.leave connection key reason now)
      (fun k id => k = key ∧ core.EntityFalls connection k id)
      ((core.releaseSessionAdmission connection key reason
        now).detachConnectionFromSession connection key).1.removedEntities := by
  have hconsistent : (core.releaseSessionAdmission connection key reason now).Consistent :=
    h.releaseSessionAdmission
  have hkey : key ∈ (core.releaseSessionAdmission connection key reason now).sessions := by
    rw [sessions_releaseSessionAdmission]
    exact h.mem_sessions hmember
  have hremoves := removes_dropRemoved hconsistent hkey
    fun id => @ownedIn_subset (core.releaseSessionAdmission connection key reason now) key id
      connection hconsistent
  have hlist : ((core.releaseSessionAdmission connection key reason
      now).detachConnectionFromSession connection key).1.removedEntities = _ := List.append_nil _
  rw [hlist]
  refine ((hremoves.congr ?_).of_sessions sessions_releaseSessionAdmission).of_iff ?_
  · intro k
    unfold leave detachConnectionFromSession removeEntitiesAndAnchoredSpaces dropMembership
    rw [sessionAt_modifyConnection, sessionAt_modifySession]
    split
    · rename_i hk
      rw [hk.1]
      rfl
    · rfl
  · intro k id
    refine and_congr_right fun hk => ?_
    rw [EntityFalls, ownedIn_releaseSessionAdmission, sessionAt_releaseSessionAdmission, hk]

/-- What is left of the subscriptions after a leave. -/
theorem mem_subscriptions_leave (h : core.Consistent)
    (hmember : key ∈ (core.connectionAt connection).memberships) :
    spaceKey ∈ ((core.leave connection key reason now).connectionAt c).subscriptions ↔
      spaceKey ∈ (core.connectionAt c).subscriptions ∧ (spaceKey.session = key →
        c ≠ connection ∧ ¬ core.SpaceFalls connection spaceKey) := by
  have hkey : key ∈ (core.releaseSessionAdmission connection key reason now).sessions := by
    rw [sessions_releaseSessionAdmission]
    exact h.mem_sessions hmember
  have hfalls : (spaceKey.session = key → spaceKey.space ∉ ((core.releaseSessionAdmission
      connection key reason now).removalOf key ((core.releaseSessionAdmission connection key reason
        now).ownedIn connection key)).spaces) ↔
          (spaceKey.session = key → ¬ core.SpaceFalls connection spaceKey) := by
    refine forall_congr' fun hk => ?_
    rw [mem_removalOf_spaces h.releaseSessionAdmission hkey, ownedIn_releaseSessionAdmission,
      sessionAt_releaseSessionAdmission, SpaceFalls, hk]
  have hdropped : spaceKey ∈ (((core.releaseSessionAdmission connection key reason
      now).dropRemoved key ((core.releaseSessionAdmission connection key reason now).removalOf key
        ((core.releaseSessionAdmission connection key reason now).ownedIn connection
          key))).connectionAt c).subscriptions ↔ spaceKey ∈ (core.connectionAt c).subscriptions ∧
            (spaceKey.session = key → ¬ core.SpaceFalls connection spaceKey) := by
    rw [mem_subscriptions_dropRemoved, hfalls, connectionAt, connections_releaseSessionAdmission,
      ← connectionAt]
  unfold leave detachConnectionFromSession removeEntitiesAndAnchoredSpaces dropMembership
  rw [connectionAt_modifyConnection, connectionAt_modifySession]
  split
  · rename_i hc
    refine OrderedSet.mem_filter.trans ?_
    rw [decide_eq_true_eq]
    refine (and_congr_left' hdropped).trans ?_
    rw [and_assoc]
    refine and_congr_right' ⟨fun hout hk => absurd hk hout.2, fun hout => ?_⟩
    have hne : spaceKey.session ≠ key := fun hk => (hout hk).1 hc.1
    exact ⟨fun hk => absurd hk hne, hne⟩
  · rename_i hc
    refine hdropped.trans ?_
    have hother : spaceKey ∈ (core.connectionAt c).subscriptions → c ≠ connection := by
      rintro hin rfl
      refine hc ⟨rfl, mem_connections_dropRemoved.mpr ?_⟩
      rw [connections_releaseSessionAdmission]
      exact mem_connections_of_subscription hin
    refine and_congr_right fun hin => forall_congr' fun _ => ?_
    exact ⟨fun hstays => ⟨hother hin, hstays⟩, And.right⟩

/-- What is left of the spaces after a leave. -/
theorem spaces_leave (h : core.Consistent)
    (hmember : key ∈ (core.connectionAt connection).memberships) {descriptor : SpaceDescriptor} :
    ((core.leave connection key reason now).sessionAt spaceKey.session).spaces[spaceKey.space]? =
        some descriptor ↔
      (core.sessionAt spaceKey.session).spaces[spaceKey.space]? = some descriptor ∧
        (spaceKey.session = key → ¬ core.SpaceFalls connection spaceKey) := by
  by_cases hk : spaceKey.session = key
  · have hkey : key ∈ (core.releaseSessionAdmission connection key reason now).sessions := by
      rw [sessions_releaseSessionAdmission]
      exact h.mem_sessions hmember
    have hfalls : spaceKey.space ∈ ((core.releaseSessionAdmission connection key reason
        now).removalOf key ((core.releaseSessionAdmission connection key reason now).ownedIn
          connection key)).spaces ↔ core.SpaceFalls connection spaceKey := by
      rw [mem_removalOf_spaces h.releaseSessionAdmission hkey, ownedIn_releaseSessionAdmission,
        sessionAt_releaseSessionAdmission, SpaceFalls, hk]
    have hspaces : ((core.leave connection key reason now).sessionAt key).spaces =
        (((core.releaseSessionAdmission connection key reason now).dropRemoved key
          ((core.releaseSessionAdmission connection key reason now).removalOf key
            ((core.releaseSessionAdmission connection key reason now).ownedIn connection
              key))).sessionAt key).spaces := by
      unfold leave detachConnectionFromSession removeEntitiesAndAnchoredSpaces dropMembership
      rw [sessionAt_modifyConnection, sessionAt_modifySession]
      split <;> rfl
    rw [hk, hspaces, sessionAt_dropRemoved, if_pos ⟨rfl, hkey⟩, SessionState.dropRemoved_spaces,
      sessionAt_releaseSessionAdmission, ← hfalls]
    split
    · simp_all
    · simp_all
  · rw [sessionAt_leave_of_ne hk]
    tauto

/-- What falls depends on the session only. -/
theorem ownedIn_of_sessionAt (h : core.Consistent) (h' : core'.Consistent)
    (hsame : core'.sessionAt k = core.sessionAt k) :
    core'.ownedIn connection k = core.ownedIn connection k := by
  apply ExtTreeSet.ext_mem
  intro id
  rw [mem_ownedIn h, mem_ownedIn h', hsame]

theorem entityFalls_of_sessionAt (h : core.Consistent) (h' : core'.Consistent)
    (hsame : core'.sessionAt k = core.sessionAt k) :
    core'.EntityFalls connection k id ↔ core.EntityFalls connection k id := by
  rw [EntityFalls, EntityFalls, hsame, ownedIn_of_sessionAt h h' hsame]

theorem spaceFalls_of_sessionAt (h : core.Consistent) (h' : core'.Consistent)
    (hsame : core'.sessionAt spaceKey.session = core.sessionAt spaceKey.session) :
    core'.SpaceFalls connection spaceKey ↔ core.SpaceFalls connection spaceKey := by
  rw [SpaceFalls, SpaceFalls, hsame, ownedIn_of_sessionAt h h' hsame]

/-- What holds outside one key and then outside the others holds outside all of them. -/
theorem and_forall_mem_cons {α : Type} {a b : α} {rest : List α} {A P P' : Prop}
    (h : a ∈ rest → (P' ↔ P)) :
    (A ∧ (a = b → P)) ∧ (a ∈ rest → P') ↔ A ∧ (a ∈ b :: rest → P) := by
  rw [and_assoc, List.mem_cons, or_imp]
  exact and_congr_right' (and_congr_right' (forall_congr' h))

/-- The leaves of a list of sessions, with what they add to a summary. -/
theorem foldl_leave_removes (h : core.Consistent) (clock : ReleaseClock) {keys : List SessionKey}
    (hnodup : keys.Nodup) (hmember : ∀ k ∈ keys, k ∈ (core.connectionAt connection).memberships)
    (summary : CleanupSummary) :
    let after := keys.foldl (loseMembership connection clock) (summary, core)
    ∃ removed, after.1.removedEntities = summary.removedEntities ++ removed ∧
      Removes core after.2 (fun k id => k ∈ keys ∧ core.EntityFalls connection k id) removed ∧
      (∀ c spaceKey, spaceKey ∈ (after.2.connectionAt c).subscriptions ↔
        spaceKey ∈ (core.connectionAt c).subscriptions ∧ (spaceKey.session ∈ keys →
          c ≠ connection ∧ ¬ core.SpaceFalls connection spaceKey)) ∧
      ∀ (spaceKey : SpaceKey) descriptor,
        (after.2.sessionAt spaceKey.session).spaces[spaceKey.space]? = some descriptor ↔
          (core.sessionAt spaceKey.session).spaces[spaceKey.space]? = some descriptor ∧
            (spaceKey.session ∈ keys → ¬ core.SpaceFalls connection spaceKey) := by
  induction keys generalizing core summary with
  | nil =>
    exact ⟨[], (List.append_nil _).symm, (Removes.refl core).of_iff (by simp), by simp,
      by simp⟩
  | cons key rest ih =>
    obtain ⟨hfresh, hrest⟩ := List.nodup_cons.mp hnodup
    have hkey := hmember key List.mem_cons_self
    have hremoves := @removes_leave core key connection .unexpected
      (clock .unexpected connection key) h hkey
    have hleave := h.leave hkey .unexpected (clock .unexpected connection key)
    have hsame : ∀ k ∈ rest, (core.leave connection key .unexpected
        (clock .unexpected connection key)).sessionAt k = core.sessionAt k := by
      intro k hk
      apply sessionAt_leave_of_ne
      rintro rfl
      exact hfresh hk
    obtain ⟨removed, hsummary, hlater, hsubscriptions, hspaces⟩ := @ih _ hleave hrest (fun k hk =>
      memberships_leave.mpr ⟨hmember k (List.mem_cons_of_mem _ hk), fun _ => by
        rintro rfl
        exact hfresh hk⟩) (summary.add ((core.releaseSessionAdmission connection key .unexpected
          (clock .unexpected connection key)).detachConnectionFromSession connection key).1)
    refine ⟨_ ++ removed, ?_, (hremoves.trans hlater).of_iff ?_, ?_, ?_⟩
    · rw [List.foldl_cons]
      refine hsummary.trans ?_
      rw [← List.append_assoc]
      rfl
    · intro k id
      rw [List.mem_cons, or_and_right]
      refine or_congr_right (and_congr_right fun hk => ?_)
      rw [entityFalls_of_sessionAt h hleave (hsame k hk)]
    · intro c spaceKey
      rw [List.foldl_cons]
      refine (hsubscriptions c spaceKey).trans ?_
      rw [mem_subscriptions_leave h hkey]
      apply and_forall_mem_cons
      intro hk
      rw [spaceFalls_of_sessionAt h hleave (hsame _ hk)]
    · intro spaceKey descriptor
      rw [List.foldl_cons]
      refine (hspaces spaceKey descriptor).trans ?_
      rw [spaces_leave h hkey]
      apply and_forall_mem_cons
      intro hk
      rw [spaceFalls_of_sessionAt h hleave (hsame _ hk)]

/-- What a connection takes with it when it is lost. -/
structure Loses (core core' : WovenCore) (connection : ConnectionId)
    (removed : List RemovedEntity) : Prop where
  removes : Removes core core' (core.EntityFalls connection) removed
  live : ∀ c, c ∈ core'.connections ↔ c ∈ core.connections ∧ c ≠ connection
  subscriptions : ∀ c spaceKey, spaceKey ∈ (core'.connectionAt c).subscriptions ↔
    spaceKey ∈ (core.connectionAt c).subscriptions ∧ c ≠ connection ∧
      ¬ core.SpaceFalls connection spaceKey
  spaces : ∀ (spaceKey : SpaceKey) descriptor,
    (core'.sessionAt spaceKey.session).spaces[spaceKey.space]? = some descriptor ↔
      (core.sessionAt spaceKey.session).spaces[spaceKey.space]? = some descriptor ∧
        ¬ core.SpaceFalls connection spaceKey

theorem connections_losePending :
    (core.losePending connection clock).connections = core.connections := by
  have hop : (Op.transportLost connection clock).loses connection := rfl
  exact (losePending_changes hop core clock).2.1

theorem sessions_losePending :
    (core.losePending connection clock).sessions = core.sessions := by
  unfold losePending
  generalize core.pendingSessions connection = keys
  induction keys generalizing core with
  | nil => rfl
  | cons key rest ih =>
    rw [List.foldl_cons, ih, releasePendingAdmission_eq]

/-- The loss of a connection, and the summary of it. -/
theorem loses_lose (h : core.Consistent) (clock : ReleaseClock) :
    Loses core (core.lose connection clock) connection
      ((core.connectionAt connection).memberships.toList.foldl (loseMembership connection clock)
        ({}, core)).1.removedEntities := by
  have hnodup : (core.connectionAt connection).memberships.toList.Nodup :=
    (core.connectionAt connection).memberships.distinct_toList.imp (by simp)
  obtain ⟨removed, hsummary, hremoves, hsubscriptions, hspaces⟩ :=
    foldl_leave_removes h clock hnodup (fun k => ExtTreeSet.mem_toList.mp) {}
  have hcore : ((core.connectionAt connection).memberships.toList.foldl
      (loseMembership connection clock) ({}, core)).2 = core.leaveAll connection clock :=
    foldl_loseMembership _ _
  rw [hcore] at hremoves hsubscriptions hspaces
  have hmember : ∀ spaceKey, core.SpaceFalls connection spaceKey →
      spaceKey.session ∈ (core.connectionAt connection).memberships.toList :=
    fun spaceKey hfalls => ExtTreeSet.mem_toList.mpr (hfalls.member h)
  rw [hsummary]
  refine ⟨(hremoves.congr ?_).of_iff ?_, fun c => mem_connections_lose, ?_, ?_⟩
  · intro key
    show
      (((core.leaveAll connection clock).losePending connection clock).sessionAt key).entities = _
    rw [sessionAt, sessions_losePending, ← sessionAt]
  · intro key id
    refine ⟨fun hfalls => ⟨ExtTreeSet.mem_toList.mpr (hfalls.member h), hfalls⟩, And.right⟩
  · intro c spaceKey
    by_cases hc : c = connection
    · have hdead : c ∉ (core.lose connection clock).connections :=
        fun hlive => (mem_connections_lose.mp hlive).2 hc
      rw [connectionAt_of_notMem hdead]
      simp [hc]
    · have hat : (core.lose connection clock).connectionAt c =
          (core.leaveAll connection clock).connectionAt c := by
        unfold lose
        rw [connectionAt, OrderedMap.getElem?_erase, if_neg hc, connections_losePending,
          ← connectionAt]
      rw [hat, hsubscriptions]
      have hfalls := hmember spaceKey
      tauto
  · intro spaceKey descriptor
    have hat : (core.lose connection clock).sessionAt spaceKey.session =
        (core.leaveAll connection clock).sessionAt spaceKey.session := by
      show ((core.leaveAll connection clock).losePending connection clock).sessionAt _ = _
      rw [sessionAt, sessions_losePending, ← sessionAt]
    rw [hat, hspaces]
    have hfalls := hmember spaceKey
    tauto

/-- The answer of `transport_lost` for a known connection. -/
theorem transportLost_loses (h : core.Consistent) (clock : ReleaseClock) :
    Ends (transportLost connection clock) core
      (fun summary core' => connection ∈ core.connections ∧
        core' = core.lose connection clock ∧ Loses core core' connection summary.removedEntities)
      fun _ core' => core' = core ∧ (connection.get = 0 ∨ connection ∉ core.connections) := by
  simp [transportLost]
  constructor
  · intro _
    constructor
    · intro state hstate
      have hlive := OrderedMap.mem_of_getElem? hstate
      obtain rfl := connectionAt_of_some hstate
      rw [foldl_loseMembership]
      constructor
      · intro _ _
        exact ⟨hlive, rfl, loses_lose h clock⟩
      · intro hgone
        refine absurd ?_ hgone
        rw [connections_losePending]
        have hop : (Op.transportLost connection clock).loses connection := rfl
        exact ((leaveAll_changes hop core clock).2.1 connection).mpr hlive
    · exact fun hnone => Or.inr hnone
  · intro e he
    left
    by_contra hzero
    rw [(validateConnectionId_eq_ok (u := ())).mpr hzero] at he
    cases he

/-- What a connection takes with it does not depend on what waits in the queues. -/
theorem Loses.of_sessions (h : Loses core' core'' connection removed)
    (hsessions : core'.sessions = core.sessions)
    (hlive : ∀ c, c ∈ core'.connections ↔ c ∈ core.connections)
    (hsubscriptions : ∀ c,
      (core'.connectionAt c).subscriptions = (core.connectionAt c).subscriptions) :
    Loses core core'' connection removed := by
  have hat : ∀ k, core'.sessionAt k = core.sessionAt k := by
    intro k
    rw [sessionAt, hsessions, sessionAt]
  have howned : ∀ k, core'.ownedIn connection k = core.ownedIn connection k := by
    intro k
    unfold ownedIn entitiesWhere
    rw [hsessions]
  have hspace : ∀ spaceKey, core.SpaceFalls connection spaceKey ↔
      core'.SpaceFalls connection spaceKey := by
    intro spaceKey
    rw [SpaceFalls, SpaceFalls, hat, howned]
  refine ⟨(h.removes.of_sessions hsessions).of_iff ?_, ?_, ?_, ?_⟩
  · intro k id
    rw [EntityFalls, EntityFalls, hat, howned]
  · intro c
    rw [h.live, hlive]
  · intro c spaceKey
    rw [h.subscriptions, hsubscriptions, hspace]
  · intro spaceKey descriptor
    rw [h.spaces, hat, hspace]

/-! ## Several losses -/

section Several

variable {other : ConnectionId}

theorem Loses.mem_ownedIn_iff (h : Loses core core' connection removed) (hcore : core.Consistent)
    (hcore' : core'.Consistent) : id ∈ core'.ownedIn other k ↔
      id ∈ core.ownedIn other k ∧ ¬ core.EntityFalls connection k id := by
  rw [mem_ownedIn hcore, mem_ownedIn hcore']
  constructor
  · rintro ⟨record, hrecord, howner⟩
    refine ⟨⟨record, h.removes.old k id record hrecord, howner⟩, ?_⟩
    exact fun hfalls => h.removes.gone k id hfalls (OrderedMap.mem_of_getElem? hrecord)
  · rintro ⟨⟨record, hrecord, howner⟩, hstays⟩
    exact ⟨record, h.removes.kept k id record hrecord hstays, howner⟩

/-- What falls later would have fallen at first. -/
theorem Loses.doomedSpace_old (h : Loses core core' connection removed) (hcore : core.Consistent)
    (hcore' : core'.Consistent) {space : SpaceId}
    (hdoomed : DoomedSpace (core'.sessionAt k) (core'.ownedIn other k) space) :
    DoomedSpace (core.sessionAt k) (core.ownedIn other k) space := by
  induction hdoomed with
  | anchor found nested gone =>
    exact .anchor ((h.spaces ⟨k, _⟩ _).mp found).1 nested
      ((h.mem_ownedIn_iff hcore hcore').mp gone).1
  | anchorSpace found nested located _ ih =>
    exact .anchorSpace ((h.spaces ⟨k, _⟩ _).mp found).1 nested (h.removes.old k _ _ located) ih
  | parentSpace found nested _ ih =>
    exact .parentSpace ((h.spaces ⟨k, _⟩ _).mp found).1 nested ih

/-- What has not fallen with the first connection still falls with the second one: nothing on the
way to it has gone. -/
theorem Loses.doomedSpace_new (h : Loses core core' connection removed) (hcore : core.Consistent)
    (hcore' : core'.Consistent) {space : SpaceId}
    (hdoomed : DoomedSpace (core.sessionAt k) (core.ownedIn other k) space)
    (hstays : ¬ core.SpaceFalls connection ⟨k, space⟩) :
    DoomedSpace (core'.sessionAt k) (core'.ownedIn other k) space := by
  induction hdoomed with
  | @anchor id descriptor parent found nested gone =>
    have hanchor : ¬ core.EntityFalls connection k parent.anchorEntity := by
      rintro (hin | ⟨record, hrecord, hfalls⟩)
      · exact hstays (.anchor found nested hin)
      · exact hstays (.anchorSpace found nested hrecord hfalls)
    exact .anchor ((h.spaces ⟨k, id⟩ _).mpr ⟨found, hstays⟩) nested
      ((h.mem_ownedIn_iff hcore hcore').mpr ⟨gone, hanchor⟩)
  | @anchorSpace id descriptor parent record found nested located _ ih =>
    have hspace : ¬ core.SpaceFalls connection ⟨k, record.space⟩ :=
      fun hfalls => hstays (.anchorSpace found nested located hfalls)
    have hanchor : ¬ core.EntityFalls connection k parent.anchorEntity := by
      rintro (hin | ⟨record', hrecord', hfalls⟩)
      · exact hstays (.anchor found nested hin)
      · exact hstays (.anchorSpace found nested hrecord' hfalls)
    exact .anchorSpace ((h.spaces ⟨k, id⟩ _).mpr ⟨found, hstays⟩) nested
      (h.removes.kept k _ _ located hanchor) (ih hspace)
  | @parentSpace id descriptor parent found nested _ ih =>
    have hspace : ¬ core.SpaceFalls connection ⟨k, parent.parentSpace⟩ :=
      fun hfalls => hstays (.parentSpace found nested hfalls)
    exact .parentSpace ((h.spaces ⟨k, id⟩ _).mpr ⟨found, hstays⟩) nested (ih hspace)

theorem Loses.spaceFalls_iff (h : Loses core core' connection removed) (hcore : core.Consistent)
    (hcore' : core'.Consistent) (hstays : ¬ core.SpaceFalls connection spaceKey) :
    core'.SpaceFalls other spaceKey ↔ core.SpaceFalls other spaceKey :=
  ⟨h.doomedSpace_old hcore hcore', fun hfalls => h.doomedSpace_new hcore hcore' hfalls hstays⟩

theorem Loses.entityFalls_iff (h : Loses core core' connection removed) (hcore : core.Consistent)
    (hcore' : core'.Consistent) (hstays : ¬ core.EntityFalls connection k id) :
    core'.EntityFalls other k id ↔ core.EntityFalls other k id := by
  constructor
  · rintro (hin | ⟨record, hrecord, hdoomed⟩)
    · exact Or.inl ((h.mem_ownedIn_iff hcore hcore').mp hin).1
    · exact Or.inr ⟨record, h.removes.old k id record hrecord,
        h.doomedSpace_old hcore hcore' hdoomed⟩
  · rintro (hin | ⟨record, hrecord, hdoomed⟩)
    · exact Or.inl ((h.mem_ownedIn_iff hcore hcore').mpr ⟨hin, hstays⟩)
    · have hspace : ¬ core.SpaceFalls connection ⟨k, record.space⟩ :=
        fun hfalls => hstays (Or.inr ⟨record, hrecord, hfalls⟩)
      exact Or.inr ⟨record, h.removes.kept k id record hrecord hstays,
        h.doomedSpace_new hcore hcore' hdoomed hspace⟩

/-- What is left when several connections are lost. -/
structure LosesAll (core core' : WovenCore) (lost : List ConnectionId) : Prop where
  live : ∀ c, c ∈ core'.connections ↔ c ∈ core.connections ∧ c ∉ lost
  subscriptions : ∀ c spaceKey, spaceKey ∈ (core'.connectionAt c).subscriptions ↔
    spaceKey ∈ (core.connectionAt c).subscriptions ∧ c ∉ lost ∧
      ∀ connection ∈ lost, ¬ core.SpaceFalls connection spaceKey
  entities : ∀ key (id : EntityId) record,
    (core'.sessionAt key).entities[id]? = some record ↔
      (core.sessionAt key).entities[id]? = some record ∧
        ∀ connection ∈ lost, ¬ core.EntityFalls connection key id

theorem losesAll_loseAll (hsound : core.Sound) (clock : ReleaseClock) (lost : List ConnectionId) :
    LosesAll core (core.loseAll lost clock) lost := by
  induction lost generalizing core with
  | nil => exact ⟨by simp [loseAll], by simp [loseAll], by simp [loseAll]⟩
  | cons connection rest ih =>
    have hop : (Op.transportLost connection clock).loses connection := rfl
    have hlost := (lose_changes hop core clock).sound hsound
    have hcore := hsound.consistent
    have hcore' := hlost.consistent
    have hloses := @loses_lose core connection hcore clock
    have hrest := ih hlost
    show LosesAll core ((core.lose connection clock).loseAll rest clock) _
    refine ⟨?_, ?_, ?_⟩
    · intro c
      rw [hrest.live, hloses.live, List.mem_cons]
      tauto
    · intro c spaceKey
      rw [hrest.subscriptions, hloses.subscriptions]
      by_cases hfalls : core.SpaceFalls connection spaceKey
      · simp [hfalls]
      · simp only [hloses.spaceFalls_iff hcore hcore' hfalls, List.mem_cons, not_or,
          forall_eq_or_imp, hfalls, not_false_iff, true_and, and_true]
        tauto
    · intro key id record
      rw [hrest.entities]
      by_cases hfalls : core.EntityFalls connection key id
      · have hgone := hloses.removes.gone key id hfalls
        constructor
        · rintro ⟨hrecord, -⟩
          exact absurd (OrderedMap.mem_of_getElem? hrecord) hgone
        · rintro ⟨-, hstays⟩
          exact absurd hfalls (hstays connection List.mem_cons_self)
      · simp only [hloses.entityFalls_iff hcore hcore' hfalls, List.mem_cons, forall_eq_or_imp,
          hfalls, not_false_iff, true_and]
        refine and_congr_left fun _ => ⟨hloses.removes.old key id record, ?_⟩
        exact fun hrecord => hloses.removes.kept key id record hrecord hfalls

end Several

end Lost

end WovenCore

end Signalweave
