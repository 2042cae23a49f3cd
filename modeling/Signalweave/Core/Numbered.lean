import Signalweave.Core.Effects
import Signalweave.Core.Incarnations

/-!
# Nothing is numbered zero

Zero is reserved for an identifier that is not there. What the core has provisioned, installed and
spawned has other numbers, and so has whatever a summary says to have been removed.
-/

open Std

namespace Signalweave

open Stateful WovenCore

variable {core core' : WovenCore} {key : SessionKey} {op : Op}

theorem validateSessionKey_eq_ok {u : Unit} :
    validateSessionKey key = .ok u ↔ key.namespaceId.get ≠ 0 ∧ key.session.get ≠ 0 := by
  simp [validateSessionKey]

theorem SpaceDescriptor.numbers_of_validate {descriptor : SpaceDescriptor}
    (h : descriptor.validate = .ok ()) : descriptor.id.get ≠ 0 ∧ descriptor.epoch.get ≠ 0 := by
  unfold validate at h
  by_cases hid : descriptor.id.get = 0
  · simp [hid] at h
  · by_cases hepoch : descriptor.epoch.get = 0
    · simp [hid, hepoch] at h
    · exact ⟨hid, hepoch⟩

/-! ## Sessions -/

/-- No change makes a session but its provisioning. -/
theorem Change.mem_sessions (h : Change op core core') (hin : key ∈ core'.sessions) :
    key ∈ core.sessions ∨ op = .provisionSession key := by
  cases h with
  | provisionSession k fresh room =>
    rcases OrderedMap.mem_insert.mp hin with rfl | hin
    · exact .inr rfl
    · exact .inl hin
  | leave connection k reason now asked member =>
    left
    unfold WovenCore.leave detachConnectionFromSession removeEntitiesAndAnchoredSpaces
      dropMembership at hin
    rw [sessions_modifyConnection, mem_sessions_modifySession, mem_sessions_dropRemoved,
      releaseSessionAdmission_eq] at hin
    exact hin
  | releasePending connection k now asked =>
    rw [releasePendingAdmission_eq] at hin
    exact .inl hin
  | _ =>
    -- The other changes modify sessions in place.
    left
    first
      | exact hin
      | exact ExtTreeMap.mem_modify.mp hin

theorem Changes.mem_sessions (h : Changes op core core') (hin : key ∈ core'.sessions) :
    key ∈ core.sessions ∨ op = .provisionSession key := by
  induction h with
  | refl => exact .inl hin
  | tail _ hlast ih =>
    rcases hlast.mem_sessions hin with hin | hop
    · exact ih hin
    · exact .inr hop

/-- A session is provisioned under numbers other than zero. -/
theorem provisionSession_numbered (hin : key ∈ (step core (.provisionSession key)).sessions)
    (hnew : key ∉ core.sessions) : key.namespaceId.get ≠ 0 ∧ key.session.get ≠ 0 := by
  have hends : Ends (provisionSession key) core
      (fun _ _ => key.namespaceId.get ≠ 0 ∧ key.session.get ≠ 0) fun _ core' => core' = core := by
    simp [provisionSession, validateSessionKey_eq_ok]
    intro hnamespace hsession _ _
    exact ⟨hnamespace, hsession⟩
  rcases returns_or_fails (provisionSession key) core with ⟨u, h⟩ | ⟨e, h⟩
  · exact hends.returns h
  · have hsame : step core (.provisionSession key) = core := hends.fails h
    rw [hsame] at hin
    exact absurd hin hnew

theorem Reachable.session_numbered (h : Reachable core) (hin : key ∈ core.sessions) :
    key.namespaceId.get ≠ 0 ∧ key.session.get ≠ 0 := by
  have hboth : core.Sound ∧
      ∀ key, key ∈ core.sessions → key.namespaceId.get ≠ 0 ∧ key.session.get ≠ 0 := by
    refine Transition.Reachable.invariant (P := fun core => core.Sound ∧
      ∀ key, key ∈ core.sessions → key.namespaceId.get ≠ 0 ∧ key.session.get ≠ 0) ?_ ?_ h
    · intro core hinit
      refine ⟨hinit.empty.sound, fun key hin => ?_⟩
      rw [hinit.empty.sessions] at hin
      exact absurd hin ExtTreeMap.not_mem_empty
    · rintro core op ⟨hsound, hnumbered⟩
      refine ⟨sound_step hsound op, fun key hin => ?_⟩
      by_cases hold : key ∈ core.sessions
      · exact hnumbered key hold
      · rcases (changes_step hsound op).mem_sessions hin with hin | rfl
        · exact absurd hin hold
        · exact provisionSession_numbered hin hold
  exact hboth.2 key hin

/-! ## Spaces and entities -/

/-- The numbers of the spaces of a session. -/
def SessionState.SpacesNumbered (session : SessionState) : Prop :=
  ∀ (space : SpaceId) descriptor, session.spaces[space]? = some descriptor →
    space.get ≠ 0 ∧ descriptor.epoch.get ≠ 0

theorem SessionState.SpacesNumbered.of_lasts {session session' : SessionState}
    (h : session.SpacesNumbered) (hlasts : ∀ space, session.Lasts session' space) :
    session'.SpacesNumbered :=
  fun space descriptor hfound => h space descriptor ((hlasts space).installed descriptor hfound)

theorem Change.spacesNumbered (h : Change op core core') (hsound : core.Sound)
    (hnumbered : ∀ k, (core.sessionAt k).SpacesNumbered) (k : SessionKey) :
    (core'.sessionAt k).SpacesNumbered := by
  by_cases hop : op.opens
  · cases h with
    | installSpace key descriptor session found valid fresh room history parent =>
      rw [sessionAt_modifySession]
      split
      · rename_i hk
        intro space other hother
        have hinserted : ((core.sessionAt key).spaces.insert descriptor.id descriptor)[space]? =
          some other := hk.1 ▸ hother
        rw [OrderedMap.getElem?_insert] at hinserted
        split at hinserted
        · rename_i heq
          cases hinserted
          rw [heq]
          exact SpaceDescriptor.numbers_of_validate valid
        · exact hnumbered key space other hinserted
      · exact hnumbered k
    | advanceEpoch key space proposed descriptor found later empty =>
      unfold WovenCore.advanceEpoch
      rw [sessionAt_modifySession]
      split
      · rename_i hk
        intro other changed hchanged
        have hmodified : ((core.sessionAt key).spaces.modify space fun descriptor =>
          { descriptor with epoch := proposed })[other]? = some changed := hk.1 ▸ hchanged
        rw [OrderedMap.getElem?_modify] at hmodified
        split at hmodified
        · rename_i heq
          obtain ⟨old, hold, rfl⟩ := Option.map_eq_some_iff.mp hmodified
          have hpositive := Nat.lt_of_le_of_lt (Nat.zero_le _) later
          exact ⟨(hnumbered key other old hold).1, Nat.ne_of_gt hpositive⟩
        · exact hnumbered key other changed hmodified
      · exact hnumbered k
    | removeEntities key initial asked =>
      exact (hnumbered k).of_lasts fun _ => lasts_dropRemoved hsound.consistent _ _
    | purgeSpace key space proposed gone => exact hnumbered k
    | join connection key asked => cases op <;> first | exact asked.elim | exact hop.elim
    | leave connection key reason now asked =>
      cases op <;> first | exact asked.elim | exact hop.elim
    | releasePending connection key now asked =>
      cases op <;> first | exact asked.elim | exact hop.elim
    | disconnect connection asked => cases op <;> first | exact asked.elim | exact hop.elim
    | _ => exact hop.elim
  · exact (hnumbered k).of_lasts fun _ => (h.session k).lasts hsound.consistent hop

theorem Reachable.spacesNumbered (h : Reachable core) (k : SessionKey) :
    (core.sessionAt k).SpacesNumbered := by
  refine h.induction (P := fun core => ∀ k, (core.sessionAt k).SpacesNumbered) ?_ ?_ k
  · intro core hempty k space descriptor hfound
    rw [hempty.sessionAt] at hfound
    simp at hfound
  · exact fun op core core' hsound hchange hnumbered => hchange.spacesNumbered hsound hnumbered

/-- An entity of a reachable core, and the space and the session it is in. -/
structure PlaceNumbered (space : SpaceKey) (epoch : SpaceEpoch) (entity : EntityId) : Prop where
  namespaceId : space.session.namespaceId.get ≠ 0
  session : space.session.session.get ≠ 0
  space : space.space.get ≠ 0
  epoch : epoch.get ≠ 0
  entity : entity.get ≠ 0

theorem Reachable.place_numbered (h : Reachable core) {space : SpaceKey} {epoch : SpaceEpoch}
    {entity : EntityId} (hentity : entity.get ≠ 0)
    (hinstalled : (core.sessionAt space.session).Installed space.space epoch) :
    PlaceNumbered space epoch entity := by
  obtain ⟨descriptor, hfound, rfl⟩ := hinstalled
  have hkey : space.session ∈ core.sessions := by
    by_contra hnot
    rw [sessionAt_of_notMem hnot] at hfound
    simp at hfound
  obtain ⟨hnamespace, hsession⟩ := h.session_numbered hkey
  obtain ⟨hspace, hepoch⟩ := h.spacesNumbered _ _ _ hfound
  exact ⟨hnamespace, hsession, hspace, hepoch, hentity⟩

/-! ## What has been removed -/

/-- The entry is about an entity of the core, in the space and at the epoch that it has there. -/
def RemovedEntity.From (core : WovenCore) (entry : RemovedEntity) : Prop :=
  ∃ record, (core.sessionAt entry.session).entities[entry.entity]? = some record ∧
    entry.space = record.space ∧ entry.spaceEpoch = record.spaceEpoch

theorem RemovedEntity.From.numbered {entry : RemovedEntity} (hfrom : entry.From core)
    (h : Reachable core) :
    PlaceNumbered ⟨entry.session, entry.space⟩ entry.spaceEpoch entry.entity := by
  obtain ⟨record, hrecord, hspace, hepoch⟩ := hfrom
  have hconsistent := h.sound.consistent
  have hpositive := (hconsistent.entityIds _ _ (OrderedMap.mem_of_getElem? hrecord)).1
  apply h.place_numbered (Nat.ne_of_gt hpositive)
  have hlocated := (hconsistent.session entry.session).located entry.entity record hrecord
  rwa [← hspace, ← hepoch] at hlocated

theorem from_removalSummary (h : core.Consistent) (hkey : key ∈ core.sessions) (removal : Removal) :
    ∀ entry ∈ (core.removalSummary key removal).removedEntities, entry.From core := by
  intro entry hin
  rw [removedEntities_removalSummary hkey] at hin
  obtain ⟨record, hrecord, rfl⟩ := List.mem_map.mp hin
  exact ⟨record, ((mem_removedRecords (h.session key).keyed).mp hrecord).1, rfl, rfl⟩

section Lost

variable {connection : ConnectionId} {reason : ReleaseReason} {now : Instant}
  {clock : ReleaseClock}

theorem from_leave (h : core.Consistent)
    (hmember : key ∈ (core.connectionAt connection).memberships) :
    ∀ entry ∈ ((core.releaseSessionAdmission connection key reason
      now).detachConnectionFromSession connection key).1.removedEntities, entry.From core := by
  intro entry hin
  have hkey : key ∈ (core.releaseSessionAdmission connection key reason now).sessions := by
    rw [sessions_releaseSessionAdmission]
    exact h.mem_sessions hmember
  have hlist : ((core.releaseSessionAdmission connection key reason
      now).detachConnectionFromSession connection key).1.removedEntities = _ := List.append_nil _
  rw [hlist] at hin
  obtain ⟨record, hrecord, hplace⟩ :=
    from_removalSummary h.releaseSessionAdmission hkey _ entry hin
  rw [sessionAt_releaseSessionAdmission] at hrecord
  exact ⟨record, hrecord, hplace⟩

/-- What the leaves of a list of sessions add to a summary is about entities from before them. -/
theorem from_foldl_leave (h : core.Consistent) {keys : List SessionKey} (hnodup : keys.Nodup)
    (hmember : ∀ k ∈ keys, k ∈ (core.connectionAt connection).memberships)
    (summary : CleanupSummary) :
    ∀ entry ∈ (keys.foldl (loseMembership connection clock) (summary, core)).1.removedEntities,
      entry ∈ summary.removedEntities ∨ entry.From core := by
  induction keys generalizing core summary with
  | nil => exact fun entry hin => .inl hin
  | cons key rest ih =>
    obtain ⟨hfresh, hrest⟩ := List.nodup_cons.mp hnodup
    have hkey := hmember key List.mem_cons_self
    have hleave := h.leave hkey .unexpected (clock .unexpected connection key)
    have hremoves := @removes_leave core key connection .unexpected
      (clock .unexpected connection key) h hkey
    have hmember' : ∀ k ∈ rest, k ∈ ((core.leave connection key .unexpected
        (clock .unexpected connection key)).connectionAt connection).memberships := by
      intro k hk
      refine memberships_leave.mpr ⟨hmember k (List.mem_cons_of_mem _ hk), fun _ => ?_⟩
      rintro rfl
      exact hfresh hk
    intro entry hin
    rcases ih hleave hrest hmember' _ entry hin with hsummary | ⟨record, hrecord, hplace⟩
    · rcases List.mem_append.mp hsummary with hin | hin
      · exact .inl hin
      · exact .inr (from_leave h hkey entry hin)
    · exact .inr ⟨record, hremoves.old _ _ _ hrecord, hplace⟩

theorem transportLost_from (h : core.Consistent) :
    Ends (transportLost connection clock) core
      (fun summary _ => ∀ entry ∈ summary.removedEntities, entry.From core) fun _ _ => True := by
  simp [transportLost]
  intro _ state hstate _ _ entry hin
  obtain rfl := connectionAt_of_some hstate
  have hnodup : (core.connectionAt connection).memberships.toList.Nodup :=
    (core.connectionAt connection).memberships.distinct_toList.imp (by simp)
  rcases from_foldl_leave h hnodup (fun k => ExtTreeSet.mem_toList.mp) {} entry hin with
    hnone | hfrom
  · cases hnone
  · exact hfrom

end Lost

end Signalweave
