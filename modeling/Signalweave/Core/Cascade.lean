import Signalweave.Core.Change

/-!
# What a removal reaches

The removal loop computes the least set of spaces that contains every space anchored to a removed
entity and is closed under the two ways a removal spreads: from a space to the spaces nested in
it, and from a space through its entities to the spaces anchored to them.
-/

open Std

namespace Signalweave

/-- The spaces that a removal of entities takes with it. -/
inductive DoomedSpace (session : SessionState) (initial : ExtTreeSet EntityId) : SpaceId → Prop
  | anchor {id : SpaceId} {descriptor : SpaceDescriptor} {parent : ParentAnchor}
      (found : session.spaces[id]? = some descriptor) (nested : descriptor.parent = some parent)
      (removed : parent.anchorEntity ∈ initial) : DoomedSpace session initial id
  | anchorSpace {id : SpaceId} {descriptor : SpaceDescriptor} {parent : ParentAnchor}
      {record : EntityRecord}
      (found : session.spaces[id]? = some descriptor) (nested : descriptor.parent = some parent)
      (located : session.entities[parent.anchorEntity]? = some record)
      (doomed : DoomedSpace session initial record.space) : DoomedSpace session initial id
  | parentSpace {id : SpaceId} {descriptor : SpaceDescriptor} {parent : ParentAnchor}
      (found : session.spaces[id]? = some descriptor) (nested : descriptor.parent = some parent)
      (doomed : DoomedSpace session initial parent.parentSpace) : DoomedSpace session initial id

/-- An entity removed from the start, or located in a doomed space. -/
def DoomedEntity (session : SessionState) (initial : ExtTreeSet EntityId) (id : EntityId) : Prop :=
  id ∈ initial ∨
    ∃ record, session.entities[id]? = some record ∧ DoomedSpace session initial record.space

theorem DoomedSpace.installed {session : SessionState} {initial : ExtTreeSet EntityId}
    {id : SpaceId} (h : DoomedSpace session initial id) : id ∈ session.spaces := by
  cases h with
  | anchor found => exact OrderedMap.mem_of_getElem? found
  | anchorSpace found => exact OrderedMap.mem_of_getElem? found
  | parentSpace found => exact OrderedMap.mem_of_getElem? found

namespace SessionState

/-- Each table of a session files a record under the id it carries. -/
structure Keyed (session : SessionState) : Prop where
  spaces : ∀ (id : SpaceId) (descriptor : SpaceDescriptor),
    session.spaces[id]? = some descriptor → descriptor.id = id
  entities : ∀ (id : EntityId) (record : EntityRecord),
    session.entities[id]? = some record → record.id = id

theorem mem_values {κ ν : Type} [Ord κ] [TransOrd κ] [LawfulEqOrd κ] {m : ExtTreeMap κ ν} {v : ν} :
    v ∈ m.toList.map Prod.snd ↔ ∃ k : κ, m[k]? = some v := by
  constructor
  · intro h
    obtain ⟨⟨k, v'⟩, hmem, rfl⟩ := List.mem_map.mp h
    exact ⟨k, ExtTreeMap.mem_toList_iff_getElem?_eq_some.mp hmem⟩
  · rintro ⟨k, hk⟩
    exact List.mem_map.mpr ⟨(k, v), ExtTreeMap.mem_toList_iff_getElem?_eq_some.mpr hk, rfl⟩

theorem anchoredIn_iff {descriptor : SpaceDescriptor} {entities : ExtTreeSet EntityId}
    {spaces : ExtTreeSet SpaceId} :
    anchoredIn descriptor entities spaces = true ↔ ∃ parent, descriptor.parent = some parent ∧
      (parent.anchorEntity ∈ entities ∨ parent.parentSpace ∈ spaces) := by
  simp only [anchoredIn, Option.any_eq_true, Bool.or_eq_true]
  rfl

section Cascade

variable {session : SessionState} {initial : ExtTreeSet EntityId}

/-- What every round of the loop keeps: it holds the initial entities, and of anything else only
what the removal reaches. -/
structure WithinDoomed (session : SessionState) (initial : ExtTreeSet EntityId)
    (removal : Removal) : Prop where
  start : ∀ id, id ∈ initial → id ∈ removal.entities
  entities : ∀ id, id ∈ removal.entities → DoomedEntity session initial id
  spaces : ∀ id, id ∈ removal.spaces → DoomedSpace session initial id

theorem WithinDoomed.growSpaces {removal : Removal} (hkeyed : session.Keyed)
    (h : WithinDoomed session initial removal) :
    ∀ id, id ∈ growSpaces removal.entities (session.spaces.toList.map Prod.snd) removal.spaces →
      DoomedSpace session initial id := by
  apply OrderedSet.growAlong_induction _ h.spaces
  intro descriptor hmem spaces hspaces hanchored
  obtain ⟨id, hid⟩ := mem_values.mp hmem
  obtain ⟨parent, hparent, hentity | hspace⟩ := anchoredIn_iff.mp hanchored
  · rw [hkeyed.spaces id descriptor hid]
    rcases h.entities _ hentity with hinitial | ⟨record, hrecord, hdoomed⟩
    · exact .anchor hid hparent hinitial
    · exact .anchorSpace hid hparent hrecord hdoomed
  · rw [hkeyed.spaces id descriptor hid]
    exact .parentSpace hid hparent (hspaces _ hspace)

theorem WithinDoomed.cascadeRound {removal : Removal} (hkeyed : session.Keyed)
    (h : WithinDoomed session initial removal) :
    WithinDoomed session initial (session.cascadeRound removal) := by
  refine ⟨?_, ?_, h.growSpaces hkeyed⟩
  · intro id hid
    exact OrderedSet.mem_growAlong_of_mem (h.start id hid)
  · apply OrderedSet.growAlong_induction _ h.entities
    intro record hmem entities hentities hcontains
    obtain ⟨id, hid⟩ := mem_values.mp hmem
    rw [hkeyed.entities id record hid]
    exact .inr ⟨record, hid, h.growSpaces hkeyed _ hcontains⟩

/-- The number of spaces and entities collected so far. -/
def Removal.measure (removal : Removal) : Nat := removal.spaces.size + removal.entities.size

theorem WithinDoomed.measure_le {removal : Removal} (h : WithinDoomed session initial removal) :
    Removal.measure removal ≤ session.spaces.size + session.entities.size + initial.size := by
  have hspaces : removal.spaces.size ≤ session.spaces.size := by
    rw [← OrderedSet.card_toFinset, ← OrderedMap.card_keySet]
    apply Finset.card_le_card
    intro id hid
    exact OrderedMap.mem_keySet.mpr (h.spaces id (OrderedSet.mem_toFinset.mp hid)).installed
  have hentities : removal.entities.size ≤ session.entities.size + initial.size := by
    rw [← OrderedSet.card_toFinset, ← OrderedMap.card_keySet, ← OrderedSet.card_toFinset]
    refine (Finset.card_le_card ?_).trans (Finset.card_union_le _ _)
    intro id hid
    rcases h.entities id (OrderedSet.mem_toFinset.mp hid) with hinitial | ⟨record, hrecord, -⟩
    · exact Finset.mem_union_right _ (OrderedSet.mem_toFinset.mpr hinitial)
    · apply Finset.mem_union_left
      exact OrderedMap.mem_keySet.mpr (OrderedMap.mem_of_getElem? hrecord)
  unfold Removal.measure
  omega

theorem cascadeRound_spaces_subset (session : SessionState) (removal : Removal) :
    ∀ id, id ∈ removal.spaces → id ∈ (session.cascadeRound removal).spaces :=
  fun _ hid => OrderedSet.mem_growAlong_of_mem hid

theorem cascadeRound_entities_subset (session : SessionState) (removal : Removal) :
    ∀ id, id ∈ removal.entities → id ∈ (session.cascadeRound removal).entities :=
  fun _ hid => OrderedSet.mem_growAlong_of_mem hid

theorem cascadeRound_eq_of_sameSize {removal : Removal}
    (h : sameSize removal (session.cascadeRound removal) = true) :
    session.cascadeRound removal = removal := by
  obtain ⟨hspaces, hentities⟩ := by simpa [sameSize] using h
  have h₁ := OrderedSet.eq_of_subset_of_size (cascadeRound_spaces_subset session removal) hspaces
  have h₂ := OrderedSet.eq_of_subset_of_size (cascadeRound_entities_subset session removal)
    hentities
  cases hround : session.cascadeRound removal
  rw [hround] at h₁ h₂
  cases removal
  simp_all

theorem measure_lt_of_not_sameSize {removal : Removal}
    (h : sameSize removal (session.cascadeRound removal) = false) :
    Removal.measure removal < Removal.measure (session.cascadeRound removal) := by
  have hspaces := OrderedSet.size_le_of_subset (cascadeRound_spaces_subset session removal)
  have hentities := OrderedSet.size_le_of_subset (cascadeRound_entities_subset session removal)
  simp only [sameSize, Bool.and_eq_false_iff, beq_eq_false_iff_ne] at h
  unfold Removal.measure
  omega

theorem withinDoomed_start : WithinDoomed session initial { entities := initial, spaces := ∅ } :=
  ⟨fun _ h => h, fun _ h => .inl h, fun _ h => absurd h (by simp)⟩

theorem cascade_withinDoomed (initial : ExtTreeSet EntityId) (hkeyed : session.Keyed) :
    WithinDoomed session initial (session.cascade initial) :=
  Fixpoint.untilStable_invariant (fun _ h => h.cascadeRound hkeyed) withinDoomed_start _

/-- The loop ends because a round changed nothing, not because it ran out of rounds. -/
theorem cascade_fixed (initial : ExtTreeSet EntityId) (hkeyed : session.Keyed) :
    session.cascadeRound (session.cascade initial) = session.cascade initial := by
  apply Fixpoint.untilStable_fixed (WithinDoomed session initial) Removal.measure
    (fun _ h => h.cascadeRound hkeyed) (fun _ h => h.measure_le)
    (fun _ _ h => cascadeRound_eq_of_sameSize h) (fun _ _ h => measure_lt_of_not_sameSize h)
    withinDoomed_start
  simp [Removal.measure]
  omega

theorem cascade_spaces_closed (hkeyed : session.Keyed) {id : SpaceId}
    {descriptor : SpaceDescriptor} {parent : ParentAnchor}
    (hid : session.spaces[id]? = some descriptor) (hparent : descriptor.parent = some parent)
    (h : parent.anchorEntity ∈ (session.cascade initial).entities ∨
      parent.parentSpace ∈ (session.cascade initial).spaces) :
    id ∈ (session.cascade initial).spaces := by
  rw [← hkeyed.spaces id descriptor hid]
  have hfixed := congrArg Removal.spaces (cascade_fixed initial hkeyed)
  apply OrderedSet.mem_of_growAlong_eq hfixed (mem_values.mpr ⟨id, hid⟩)
  exact anchoredIn_iff.mpr ⟨parent, hparent, h⟩

theorem cascade_entities_closed (hkeyed : session.Keyed) {id : EntityId} {record : EntityRecord}
    (hid : session.entities[id]? = some record)
    (h : record.space ∈ (session.cascade initial).spaces) :
    id ∈ (session.cascade initial).entities := by
  rw [← hkeyed.entities id record hid]
  have hspaces := congrArg Removal.spaces (cascade_fixed initial hkeyed)
  have hfixed := congrArg Removal.entities (cascade_fixed initial hkeyed)
  refine OrderedSet.mem_of_growAlong_eq hfixed (mem_values.mpr ⟨id, hid⟩) ?_
  change (session.cascadeRound (session.cascade initial)).spaces.contains record.space = true
  rw [hspaces]
  exact h

/-- The spaces the loop collects are those the removal reaches. -/
theorem mem_cascade_spaces (hkeyed : session.Keyed) {id : SpaceId} :
    id ∈ (session.cascade initial).spaces ↔ DoomedSpace session initial id := by
  have hwithin := cascade_withinDoomed initial hkeyed
  refine ⟨hwithin.spaces id, fun h => ?_⟩
  induction h with
  | anchor found nested removed =>
    exact cascade_spaces_closed hkeyed found nested (.inl (hwithin.start _ removed))
  | anchorSpace found nested located _ ih =>
    exact cascade_spaces_closed hkeyed found nested
      (.inl (cascade_entities_closed hkeyed located ih))
  | parentSpace found nested _ ih => exact cascade_spaces_closed hkeyed found nested (.inr ih)

/-- The entities the loop collects are the initial ones and those of the collected spaces. -/
theorem mem_cascade_entities (hkeyed : session.Keyed) {id : EntityId} :
    id ∈ (session.cascade initial).entities ↔ DoomedEntity session initial id := by
  have hwithin := cascade_withinDoomed initial hkeyed
  refine ⟨hwithin.entities id, fun h => ?_⟩
  rcases h with hinitial | ⟨record, hrecord, hdoomed⟩
  · exact hwithin.start id hinitial
  · exact cascade_entities_closed hkeyed hrecord ((mem_cascade_spaces hkeyed).mpr hdoomed)

end Cascade

/-! ## What a removal leaves of the session -/

section DropRemoved

variable {session : SessionState} {removal : Removal}

theorem removeEntityFromCell_eq (session : SessionState) (entity : EntityId) :
    session.removeEntityFromCell entity =
      { session with
        entityCells := (session.removeEntityFromCell entity).entityCells
        cellEntities := (session.removeEntityFromCell entity).cellEntities } := by
  unfold removeEntityFromCell
  split <;> rfl

/-- Clearing cells touches the spatial index only. -/
theorem foldl_removeEntityFromCell_eq (list : List EntityId) (session : SessionState) :
    list.foldl removeEntityFromCell session =
      { session with
        entityCells := (list.foldl removeEntityFromCell session).entityCells
        cellEntities := (list.foldl removeEntityFromCell session).cellEntities } := by
  induction list generalizing session with
  | nil => rfl
  | cons a rest ih =>
    rw [List.foldl_cons, ih, removeEntityFromCell_eq session a]

/-- Removing spaces touches the three tables of spaces only. -/
theorem foldl_removeSpace_eq (list : List SpaceId) (session : SessionState) :
    list.foldl removeSpace session =
      { session with
        spaces := (list.foldl removeSpace session).spaces
        spaceEpochTombstones := (list.foldl removeSpace session).spaceEpochTombstones
        subscribers := (list.foldl removeSpace session).subscribers } := by
  induction list generalizing session with
  | nil => rfl
  | cons a rest ih =>
    rw [List.foldl_cons, ih]
    rfl

@[simp] theorem removeSpace_spaces {space : SpaceId} :
    (session.removeSpace space).spaces = session.spaces.erase space := rfl

@[simp] theorem removeSpace_subscribers {space : SpaceId} :
    (session.removeSpace space).subscribers = session.subscribers.erase space := rfl

/-- A space that is there leaves its epoch behind. -/
theorem removeSpace_tombstones {space : SpaceId} {descriptor : SpaceDescriptor}
    (h : session.spaces[space]? = some descriptor) :
    (session.removeSpace space).spaceEpochTombstones =
      session.spaceEpochTombstones.insert descriptor.id descriptor.epoch := by
  unfold removeSpace
  simp only [h]

theorem removeSpace_tombstones_of_none {space : SpaceId} (h : session.spaces[space]? = none) :
    (session.removeSpace space).spaceEpochTombstones = session.spaceEpochTombstones := by
  unfold removeSpace
  simp only [h]

theorem foldl_removeSpace_spaces (list : List SpaceId) (session : SessionState) (id : SpaceId) :
    (list.foldl removeSpace session).spaces[id]? =
      if id ∈ list then none else session.spaces[id]? := by
  induction list generalizing session with
  | nil => rfl
  | cons a rest ih =>
    rw [List.foldl_cons, ih]
    by_cases hrest : id ∈ rest
    · simp [hrest]
    · by_cases ha : a = id
      · simp [hrest, ha]
      · simp [hrest, ha, Ne.symm ha, ExtTreeMap.getElem?_erase]

theorem foldl_removeSpace_subscribers (list : List SpaceId) (session : SessionState)
    (id : SpaceId) :
    (list.foldl removeSpace session).subscribers[id]? =
      if id ∈ list then none else session.subscribers[id]? := by
  induction list generalizing session with
  | nil => rfl
  | cons a rest ih =>
    rw [List.foldl_cons, ih]
    by_cases hrest : id ∈ rest
    · simp [hrest]
    · by_cases ha : a = id
      · simp [hrest, ha]
      · simp [hrest, ha, Ne.symm ha, ExtTreeMap.getElem?_erase]

theorem dropEntities_eq :
    session.dropEntities removal =
      { session with
        entities := session.entities.filter fun id _ => !removal.entities.contains id
        entityCells := (session.dropEntities removal).entityCells
        cellEntities := (session.dropEntities removal).cellEntities } := by
  unfold dropEntities
  rw [foldl_removeEntityFromCell_eq]

theorem dropRemoved_spaces {id : SpaceId} :
    (session.dropRemoved removal).spaces[id]? =
      if id ∈ removal.spaces then none else session.spaces[id]? := by
  have hframe : (session.dropEntities removal).spaces = session.spaces := by rw [dropEntities_eq]
  change (removal.spaces.toList.foldl removeSpace (session.dropEntities removal)).spaces[id]? = _
  rw [foldl_removeSpace_spaces, hframe]
  simp only [ExtTreeSet.mem_toList]

theorem dropRemoved_subscribers {id : SpaceId} :
    (session.dropRemoved removal).subscribers[id]? =
      if id ∈ removal.spaces then none else session.subscribers[id]? := by
  have hframe : (session.dropEntities removal).subscribers = session.subscribers := by
    rw [dropEntities_eq]
  change
    (removal.spaces.toList.foldl removeSpace (session.dropEntities removal)).subscribers[id]? = _
  rw [foldl_removeSpace_subscribers, hframe]
  simp only [ExtTreeSet.mem_toList]

/-- A removal drops entities, spaces and keys, and nothing else of the session. -/
theorem dropRemoved_eq :
    session.dropRemoved removal =
      { session with
        spaces := (session.dropRemoved removal).spaces
        spaceEpochTombstones := (session.dropRemoved removal).spaceEpochTombstones
        subscribers := (session.dropRemoved removal).subscribers
        entityCells := (session.dropRemoved removal).entityCells
        cellEntities := (session.dropRemoved removal).cellEntities
        entities := session.entities.filter fun id _ => !removal.entities.contains id
        state := session.state.filter fun key _ => keptBy removal key.space key.entity
        stateBytes := (session.dropRemoved removal).storedBytes
        sequences := session.sequences.filter fun key _ =>
          keptBy removal key.space key.entity } := by
  unfold dropRemoved
  rw [foldl_removeSpace_eq, dropEntities_eq]
  rfl

@[simp] theorem dropRemoved_members :
    (session.dropRemoved removal).members = session.members := by
  rw [dropRemoved_eq]

@[simp] theorem dropRemoved_entities :
    (session.dropRemoved removal).entities =
      session.entities.filter fun id _ => !removal.entities.contains id := by
  rw [dropRemoved_eq]

@[simp] theorem dropRemoved_state :
    (session.dropRemoved removal).state =
      session.state.filter fun key _ => keptBy removal key.space key.entity := by
  rw [dropRemoved_eq]

@[simp] theorem dropRemoved_sequences :
    (session.dropRemoved removal).sequences =
      session.sequences.filter fun key _ => keptBy removal key.space key.entity := by
  rw [dropRemoved_eq]

theorem dropRemoved_stateBytes :
    (session.dropRemoved removal).stateBytes = (session.dropRemoved removal).storedBytes := rfl

theorem keptBy_iff {space : SpaceId} {entity : Option EntityId} :
    keptBy removal space entity = true ↔
      space ∉ removal.spaces ∧ ∀ id, entity = some id → id ∉ removal.entities := by
  cases entity <;> simp [keptBy, ← Bool.not_eq_true]

end DropRemoved

end SessionState

end Signalweave
