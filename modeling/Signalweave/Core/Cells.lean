import Signalweave.Core.Interest

/-!
# The cells of a session are exact

No cell stays behind for no entity. With what is known of the spatial index, it is the one that the
positions of the entities make.
-/

open Std

namespace Signalweave

open WovenCore

namespace SessionState

variable {session session' : SessionState} {entity : EntityId} {cell : SpatialCellKey}

/-! ## No cell is kept for no entity -/

/-- No cell is kept without an entity in it. -/
def Occupied (session : SessionState) : Prop :=
  ∀ (cell : SpatialCellKey) (entities : ExtTreeSet EntityId),
    session.cellEntities[cell]? = some entities → entities ≠ ∅

theorem Occupied.frame (h : session.Occupied)
    (hcellEntities : session'.cellEntities = session.cellEntities) : session'.Occupied := by
  unfold Occupied
  rw [hcellEntities]
  exact h

theorem Occupied.removeEntityFromCell (h : session.Occupied) :
    (session.removeEntityFromCell entity).Occupied := by
  unfold SessionState.removeEntityFromCell
  split
  · exact h
  · rename_i cell hcell
    intro other entities hentities
    cases hlisted : session.cellEntities[cell]? with
    | none =>
      simp only [hlisted, Option.map_none] at hentities
      exact h other entities hentities
    | some listed =>
      simp only [hlisted, Option.map_some] at hentities
      split at hentities
      · rw [OrderedMap.getElem?_erase] at hentities
        split at hentities
        · cases hentities
        · exact h other entities hentities
      · rename_i hleft
        rw [OrderedMap.getElem?_insert] at hentities
        split at hentities
        · obtain rfl := Option.some.inj hentities
          exact fun hempty => hleft (ExtTreeSet.isEmpty_iff.mpr hempty)
        · exact h other entities hentities

theorem Occupied.insertEntityIntoCell (h : session.Occupied) :
    (session.insertEntityIntoCell entity cell).Occupied := by
  intro other entities hentities
  replace hentities : (session.cellEntities.insert cell _)[other]? = some entities := hentities
  rw [OrderedMap.getElem?_insert] at hentities
  split at hentities
  · obtain rfl := Option.some.inj hentities
    intro hempty
    have hin : entity ∈ (∅ : ExtTreeSet EntityId) := by
      rw [← hempty, OrderedSet.mem_insert]
      exact .inl rfl
    exact ExtTreeSet.not_mem_empty hin
  · exact h other entities hentities

theorem Occupied.moveToCell {cell : Option SpatialCellKey} (h : session.Occupied) :
    (session.moveToCell entity cell).Occupied := by
  unfold SessionState.moveToCell
  split
  · exact h
  · cases cell with
    | none => exact h.removeEntityFromCell
    | some cell => exact h.removeEntityFromCell.insertEntityIntoCell

theorem Occupied.dropRemoved (removal : Removal) (h : session.Occupied) :
    (session.dropRemoved removal).Occupied := by
  have hfold : ∀ (list : List EntityId) {session : SessionState}, session.Occupied →
      (list.foldl SessionState.removeEntityFromCell session).Occupied := by
    intro list
    induction list with
    | nil => exact id
    | cons first rest ih => exact fun h => ih h.removeEntityFromCell
  have hcells : (session.dropRemoved removal).cellEntities =
      (removal.entities.toList.foldl SessionState.removeEntityFromCell session).cellEntities := by
    unfold SessionState.dropRemoved
    rw [foldl_removeSpace_eq]
    rfl
  exact (hfold removal.entities.toList h).frame hcells

end SessionState

variable {core core' : WovenCore} {key : SessionKey} {op : Op} {session : SessionState}

open SessionState

theorem SessionChange.occupied (h : SessionChange core key op session)
    (hoccupied : (core.sessionAt key).Occupied) : session.Occupied := by
  cases h with
  | remove initial asked => exact hoccupied.dropRemoved _
  | leave connection initial asked =>
    have hdropped : ((core.sessionAt key).dropRemoved
        ((core.sessionAt key).cascade initial)).Occupied := hoccupied.dropRemoved _
    exact hdropped.frame rfl
  | move connection entity position cell record descriptor entityFound spaceFound valid indexed =>
    exact hoccupied.moveToCell.frame rfl
  | transition request addressed record checked moves =>
    apply hoccupied.removeEntityFromCell.frame
    rfl
  | commit request addressed now call clock plan planned =>
    rw [commit_eq]
    exact hoccupied.frame rfl
  | _ => exact hoccupied.frame rfl

theorem Reachable.occupied (h : Reachable core) (key : SessionKey) :
    (core.sessionAt key).Occupied := by
  refine h.induction (P := fun core => ∀ key, (core.sessionAt key).Occupied) ?_ ?_ key
  · intro core hempty key
    rw [hempty.sessionAt]
    intro cell entities hentities
    simp at hentities
  · intro op core core' hsound hchange hoccupied key
    exact (hchange.session key).occupied (hoccupied key)

/-! ## The index is the one that the positions make -/

/-- A position is filed just where the space uses a grid. -/
theorem isSome_of_spatialCellFor {position : EntityPosition} {descriptor : SpaceDescriptor}
    {epoch : SpaceEpoch} {cell : Option SpatialCellKey}
    (h : spatialCellFor position descriptor epoch = .ok cell) :
    cell.isSome ↔ descriptor.routing.spatial.isSome := by
  cases hrouting : descriptor.routing with
  | broadcastAll =>
    simp only [spatialCellFor, hrouting, Except.ok.injEq] at h
    simp [← h, RoutingPolicy.spatial]
  | topicOnly =>
    simp only [spatialCellFor, hrouting, Except.ok.injEq] at h
    simp [← h, RoutingPolicy.spatial]
  | spatialGrid2D cellSize radius exact =>
    have hgrid : cell.isSome := by
      cases position <;> simp only [spatialCellFor, hrouting, Except.bind_eq_ok,
        Except.pure_eq_ok, reduceCtorEq] at h
      obtain ⟨x, -, y, -, rfl⟩ := h
      rfl
    exact iff_of_true hgrid rfl
  | spatialGrid3D cellSize radius exact =>
    have hgrid : cell.isSome := by
      cases position <;> simp only [spatialCellFor, hrouting, Except.bind_eq_ok,
        Except.pure_eq_ok, reduceCtorEq] at h
      obtain ⟨x, -, y, -, z, -, rfl⟩ := h
      rfl
    exact iff_of_true hgrid rfl

/-- The index is the one that the positions make. -/
structure SessionState.CellsExact (session : SessionState) : Prop where
  inverse : ∀ (cell : SpatialCellKey) (entity : EntityId),
    (∃ entities, session.cellEntities[cell]? = some entities ∧ entity ∈ entities) ↔
      session.entityCells[entity]? = some cell
  occupied : ∀ (cell : SpatialCellKey) (entities : ExtTreeSet EntityId),
    session.cellEntities[cell]? = some entities → entities ≠ ∅
  filed : ∀ id : EntityId, id ∈ session.entityCells ↔ ∃ record position descriptor,
    session.entities[id]? = some record ∧ record.position = some position ∧
      session.spaces[record.space]? = some descriptor ∧ descriptor.routing.spatial.isSome
  current : ∀ (id : EntityId) (record : EntityRecord) (position : EntityPosition),
    session.entities[id]? = some record → record.position = some position →
      ∃ descriptor, session.spaces[record.space]? = some descriptor ∧
        descriptor.epoch = record.spaceEpoch ∧
          spatialCellFor position descriptor record.spaceEpoch = .ok session.entityCells[id]?

/-- In every session that can be reached the spatial index is exact. -/
theorem Reachable.cellsExact (h : Reachable core) (key : SessionKey) :
    (core.sessionAt key).CellsExact := by
  have hindexed := h.indexed key
  have hconsistent := h.sound.consistent.session key
  refine ⟨hindexed.filed, h.occupied key, ?_, ?_⟩
  · intro id
    constructor
    · intro hin
      obtain ⟨cell, hcell⟩ := OrderedMap.exists_of_mem hin
      -- What has no position has no cell.
      have hplaced : ∃ record, (core.sessionAt key).entities[id]? = some record ∧
          record.position ≠ none := by
        by_contra hnone
        push Not at hnone
        rw [hindexed.unplaced id hnone] at hcell
        cases hcell
      obtain ⟨record, hrecord, hposition⟩ := hplaced
      obtain ⟨position, hposition⟩ := Option.ne_none_iff_exists'.mp hposition
      obtain ⟨descriptor, hdescriptor, -, hfiled⟩ :=
        hindexed.placed id record position hrecord hposition
      rw [hcell] at hfiled
      exact ⟨record, position, descriptor, hrecord, hposition, hdescriptor,
        (isSome_of_spatialCellFor hfiled).mp rfl⟩
    · rintro ⟨record, position, descriptor, hrecord, hposition, hdescriptor, hgrid⟩
      obtain ⟨found, hfound, -, hfiled⟩ := hindexed.placed id record position hrecord hposition
      obtain rfl := Option.some.inj (hdescriptor.symm.trans hfound)
      obtain ⟨cell, hcell⟩ :=
        Option.isSome_iff_exists.mp ((isSome_of_spatialCellFor hfiled).mpr hgrid)
      exact OrderedMap.mem_of_getElem? hcell
  · intro id record position hrecord hposition
    obtain ⟨descriptor, hdescriptor, -, hfiled⟩ :=
      hindexed.placed id record position hrecord hposition
    obtain ⟨found, hfound, hepoch⟩ := hconsistent.located id record hrecord
    obtain rfl := Option.some.inj (hdescriptor.symm.trans hfound)
    exact ⟨descriptor, hdescriptor, hepoch, hfiled⟩

theorem cellsExact_onPlane :
    ((Transition.run step Sample.core Sample.onPlane).sessionAt Sample.session).CellsExact :=
  Reachable.cellsExact (Sample.reachable _) Sample.session

end Signalweave
