import Signalweave.Core.SessionChanges

/-!
# The spatial index of a session

Each entity with a position is filed under the cell of that position, and nothing else is. Every
change of a session keeps the index in step with the positions.
-/

open Std

namespace Signalweave

open WovenCore

namespace SessionState

variable {session session' : SessionState} {entity id : EntityId} {cell : SpatialCellKey}

/-- The cell lists the entity. -/
def InCell (session : SessionState) (cell : SpatialCellKey) (entity : EntityId) : Prop :=
  ∃ entities, session.cellEntities[cell]? = some entities ∧ entity ∈ entities

/-- The two tables of the index agree. -/
def Filed (session : SessionState) : Prop :=
  ∀ (cell : SpatialCellKey) (entity : EntityId),
    session.InCell cell entity ↔ session.entityCells[entity]? = some cell

/-! ## The operations of the index -/

theorem entityCells_removeEntityFromCell :
    (session.removeEntityFromCell entity).entityCells[id]? =
      if id = entity then none else session.entityCells[id]? := by
  unfold removeEntityFromCell
  split
  · rename_i hnone
    split
    · rename_i heq
      rw [heq, hnone]
    · rfl
  · rw [OrderedMap.getElem?_erase]

theorem inCell_removeEntityFromCell {other : SpatialCellKey} :
    (session.removeEntityFromCell entity).InCell other id ↔ session.InCell other id ∧
      ¬ (id = entity ∧ session.entityCells[entity]? = some other) := by
  unfold removeEntityFromCell
  split
  · rename_i hnone
    simp [hnone]
  · rename_i cell hcell
    rw [hcell]
    simp only [Option.some.injEq]
    by_cases hother : other = cell
    · subst hother
      cases hentities : session.cellEntities[other]? with
      | none => simp [InCell, hentities]
      | some entities =>
        simp only [InCell, hentities, Option.map_some, Option.some.injEq, exists_eq_left']
        split
        · rename_i hempty
          have hgone : id ∉ entities.erase entity := by
            rw [ExtTreeSet.isEmpty_iff.mp hempty]
            exact ExtTreeSet.not_mem_empty
          rw [OrderedSet.mem_erase] at hgone
          simp only [OrderedMap.getElem?_erase, if_true, reduceCtorEq, false_and, exists_false,
            false_iff]
          tauto
        · simp only [OrderedMap.getElem?_insert, if_true, Option.some.injEq, exists_eq_left',
            OrderedSet.mem_erase]
          tauto
    · have hkept : ¬ (id = entity ∧ cell = other) := fun h => hother h.2.symm
      simp only [hkept, not_false_eq_true, and_true, InCell]
      cases session.cellEntities[cell]? with
      | none => rfl
      | some entities =>
        simp only [Option.map_some]
        split
        · simp only [OrderedMap.getElem?_erase, if_neg hother]
        · simp only [OrderedMap.getElem?_insert, if_neg hother]

theorem Filed.removeEntityFromCell (h : session.Filed) :
    (session.removeEntityFromCell entity).Filed := by
  intro other id
  rw [inCell_removeEntityFromCell, entityCells_removeEntityFromCell, h other id]
  by_cases hid : id = entity
  · subst hid
    simp
  · simp [hid]

theorem Filed.insertEntityIntoCell (h : session.Filed)
    (hnone : session.entityCells[entity]? = none) :
    (session.insertEntityIntoCell entity cell).Filed := by
  intro other id
  have hcells : (session.insertEntityIntoCell entity cell).entityCells[id]? =
      if id = entity then some cell else session.entityCells[id]? := by
    exact OrderedMap.getElem?_insert
  have hentities : (session.insertEntityIntoCell entity cell).InCell other id ↔
      session.InCell other id ∨ other = cell ∧ id = entity := by
    unfold SessionState.insertEntityIntoCell InCell
    simp only [OrderedMap.getElem?_insert]
    split
    · rename_i hother
      subst hother
      cases session.cellEntities[other]? <;>
        simp [- ExtTreeSet.mem_insert, OrderedSet.mem_insert, or_comm]
    · rename_i hother
      simp [hother]
  rw [hcells, hentities, h other id]
  by_cases hid : id = entity
  · subst hid
    simp [hnone, eq_comm]
  · simp [hid]

theorem entityCells_moveToCell {cell : Option SpatialCellKey} :
    (session.moveToCell entity cell).entityCells[id]? =
      if id = entity then cell else session.entityCells[id]? := by
  unfold moveToCell
  split
  · rename_i hsame
    split
    · rename_i hid
      rw [hid, hsame]
    · rfl
  · cases cell with
    | none => exact entityCells_removeEntityFromCell
    | some cell =>
      show ((session.removeEntityFromCell entity).entityCells.insert entity cell)[id]? = _
      rw [OrderedMap.getElem?_insert, entityCells_removeEntityFromCell]
      split <;> rfl

theorem Filed.moveToCell {cell : Option SpatialCellKey} (h : session.Filed) :
    (session.moveToCell entity cell).Filed := by
  unfold SessionState.moveToCell
  split
  · exact h
  · cases cell with
    | none => exact h.removeEntityFromCell
    | some cell =>
      apply h.removeEntityFromCell.insertEntityIntoCell
      rw [entityCells_removeEntityFromCell, if_pos rfl]

theorem foldl_removeEntityFromCell (list : List EntityId) (h : session.Filed) :
    (list.foldl removeEntityFromCell session).Filed ∧
      ∀ id : EntityId, (list.foldl removeEntityFromCell session).entityCells[id]? =
        if id ∈ list then none else session.entityCells[id]? := by
  induction list generalizing session with
  | nil => exact ⟨h, fun id => by simp⟩
  | cons first rest ih =>
    have hremoved : (session.removeEntityFromCell first).Filed := h.removeEntityFromCell
    obtain ⟨hfiled, hcells⟩ := ih hremoved
    refine ⟨hfiled, fun id => ?_⟩
    rw [List.foldl_cons, hcells, entityCells_removeEntityFromCell]
    by_cases hrest : id ∈ rest <;> by_cases hfirst : id = first <;> simp [hrest, hfirst]

theorem index_dropRemoved (removal : Removal) (h : session.Filed) :
    (session.dropRemoved removal).Filed ∧
      ∀ id : EntityId, (session.dropRemoved removal).entityCells[id]? =
        if id ∈ removal.entities then none else session.entityCells[id]? := by
  have hframe : (session.dropRemoved removal).entityCells =
      (removal.entities.toList.foldl removeEntityFromCell session).entityCells ∧
        (session.dropRemoved removal).cellEntities =
          (removal.entities.toList.foldl removeEntityFromCell session).cellEntities := by
    unfold dropRemoved
    rw [foldl_removeSpace_eq]
    exact ⟨rfl, rfl⟩
  obtain ⟨hfiled, hcells⟩ := foldl_removeEntityFromCell removal.entities.toList h
  constructor
  · intro cell id
    unfold InCell
    rw [hframe.1, hframe.2]
    exact hfiled cell id
  · intro id
    rw [hframe.1, hcells]
    simp only [ExtTreeSet.mem_toList]

/-! ## The index and the positions -/

/-- The position is one that `update_entity_position` accepts for the record, and files there. -/
def PlacedAt (session : SessionState) (record : EntityRecord) (position : EntityPosition)
    (cell : Option SpatialCellKey) : Prop :=
  ∃ descriptor, session.spaces[record.space]? = some descriptor ∧
    position.validateForFrame descriptor.localFrame = .ok () ∧
      spatialCellFor position descriptor record.spaceEpoch = .ok cell

/-- The grid has every entity that has a position, in its cell, and no other one. -/
structure Indexed (session : SessionState) : Prop where
  filed : session.Filed
  placed : ∀ (id : EntityId) (record : EntityRecord) (position : EntityPosition),
    session.entities[id]? = some record → record.position = some position →
      session.PlacedAt record position session.entityCells[id]?
  unplaced : ∀ id : EntityId, (∀ record, session.entities[id]? = some record →
    record.position = none) → session.entityCells[id]? = none

theorem indexed_empty : ({} : SessionState).Indexed where
  filed := by simp [Filed, InCell]
  placed := by simp
  unplaced := by simp

/-- Where the positions that stay are those of before, in spaces that stay too, the index may stay
as it is. -/
theorem Indexed.frame (h : session.Indexed)
    (hentityCells : session'.entityCells = session.entityCells)
    (hcellEntities : session'.cellEntities = session.cellEntities)
    (hsame : ∀ id : EntityId, (session'.entities[id]?).bind EntityRecord.position =
      (session.entities[id]?).bind EntityRecord.position)
    (hplaces : ∀ (id : EntityId) (record : EntityRecord), session'.entities[id]? = some record →
      record.position ≠ none → ∃ before, session.entities[id]? = some before ∧
        before.spaceEpoch = record.spaceEpoch ∧
          session'.spaces[record.space]? = session.spaces[before.space]?) : session'.Indexed where
  filed cell id := by
    unfold InCell
    rw [hentityCells, hcellEntities]
    exact h.filed cell id
  placed id record position hrecord hposition := by
    obtain ⟨before, hbefore, hepoch, hspace⟩ := hplaces id record hrecord (by simp [hposition])
    have hold := hsame id
    rw [hrecord, hbefore, Option.bind_some, Option.bind_some, hposition] at hold
    obtain ⟨descriptor, hdescriptor, hvalid, hcell⟩ := h.placed id before position hbefore hold.symm
    rw [hentityCells]
    exact ⟨descriptor, hspace.trans hdescriptor, hvalid, hepoch ▸ hcell⟩
  unplaced id hnone := by
    rw [hentityCells]
    apply h.unplaced
    intro record hrecord
    have hold := hsame id
    rw [hrecord, Option.bind_some] at hold
    rw [← hold]
    cases hafter : session'.entities[id]? with
    | none => rfl
    | some after => exact hnone after hafter

theorem Indexed.installSpace {descriptor : SpaceDescriptor} (h : session.Indexed)
    (hconsistent : session.Consistent) (hfresh : descriptor.id ∉ session.spaces) :
    (session.installSpace descriptor).Indexed := by
  apply h.frame
  · rfl
  · rfl
  · exact fun _ => rfl
  · intro id record hrecord _
    obtain ⟨found, hfound, -⟩ := hconsistent.located id record hrecord
    refine ⟨record, hrecord, rfl, ?_⟩
    show (session.spaces.insert descriptor.id descriptor)[record.space]? = _
    rw [OrderedMap.getElem?_insert, if_neg]
    intro heq
    exact hfresh (heq ▸ OrderedMap.mem_of_getElem? hfound)

theorem Indexed.dropRemoved (h : session.Indexed) (hkeyed : session.Keyed)
    (initial : ExtTreeSet EntityId) :
    (session.dropRemoved (session.cascade initial)).Indexed := by
  obtain ⟨hfiled, hcells⟩ := index_dropRemoved (session.cascade initial) h.filed
  refine ⟨hfiled, ?_, ?_⟩
  · intro id record position hrecord hposition
    obtain ⟨hbefore, hkept⟩ := mem_dropRemoved_entities.mp hrecord
    obtain ⟨descriptor, hdescriptor, hvalid, hcell⟩ := h.placed id record position hbefore hposition
    refine ⟨descriptor, ?_, hvalid, ?_⟩
    · -- A space that goes takes its entities with it.
      rw [dropRemoved_spaces, if_neg, hdescriptor]
      exact fun hgone => hkept (cascade_entities_closed hkeyed hbefore hgone)
    · rw [hcells, if_neg hkept, hcell]
  · intro id hnone
    rw [hcells]
    split
    · rfl
    · rename_i hkept
      apply h.unplaced
      exact fun record hrecord => hnone record (mem_dropRemoved_entities.mpr ⟨hrecord, hkept⟩)

theorem Indexed.advanceEpoch {space : SpaceId} {proposed : SpaceEpoch} (h : session.Indexed)
    (hempty : ∀ (id : EntityId) (record : EntityRecord),
      session.entities[id]? = some record → record.space ≠ space) :
    (session.advanceEpoch space proposed).Indexed := by
  apply h.frame
  · rfl
  · rfl
  · exact fun _ => rfl
  · intro id record hrecord _
    refine ⟨record, hrecord, rfl, ?_⟩
    show (session.spaces.modify space _)[record.space]? = _
    rw [OrderedMap.getElem?_modify, if_neg (hempty id record hrecord)]

theorem Indexed.leave {connection : ConnectionId} (h : session.Indexed) :
    (session.leave connection).Indexed := by
  apply h.frame
  · rfl
  · rfl
  · exact fun _ => rfl
  · exact fun id record hrecord _ => ⟨record, hrecord, rfl, rfl⟩

/-- A new entity has no position. -/
theorem Indexed.spawn {record : EntityRecord} (h : session.Indexed)
    (hfresh : entity ∉ session.entities) (hposition : record.position = none) :
    { session with entities := session.entities.insert entity record }.Indexed := by
  apply h.frame
  · rfl
  · rfl
  · intro id
    show ((session.entities.insert entity record)[id]?).bind _ = _
    rw [OrderedMap.getElem?_insert]
    split
    · rename_i hid
      rw [hid, ExtTreeMap.getElem?_eq_none hfresh, Option.bind_some, hposition]
      rfl
    · rfl
  · intro id found hfound hpositioned
    replace hfound : (session.entities.insert entity record)[id]? = some found := hfound
    rw [OrderedMap.getElem?_insert] at hfound
    split at hfound
    · obtain rfl := Option.some.inj hfound
      exact absurd hposition hpositioned
    · exact ⟨found, hfound, rfl, rfl⟩

theorem Indexed.move {position : EntityPosition} {cell : Option SpatialCellKey}
    {record : EntityRecord} (h : session.Indexed)
    (hrecord : session.entities[entity]? = some record)
    (hplaced : session.PlacedAt record position cell) :
    ((session.moveToCell entity cell).modifyEntity entity fun record =>
      { record with position := some position }).Indexed := by
  have hframe := moveToCell_eq session entity cell
  have hspaces : (session.moveToCell entity cell).spaces = session.spaces := by rw [hframe]
  have hentities : ∀ id : EntityId, ((session.moveToCell entity cell).modifyEntity entity
      fun record => { record with position := some position }).entities[id]? =
        if id = entity then some { record with position := some position }
        else session.entities[id]? := by
    intro id
    show ((session.moveToCell entity cell).entities.modify entity _)[id]? = _
    rw [hframe, OrderedMap.getElem?_modify]
    split
    · rename_i hid
      rw [hid, hrecord]
      rfl
    · rfl
  have hcells : ∀ id : EntityId, (session.moveToCell entity cell).entityCells[id]? =
      if id = entity then cell else session.entityCells[id]? := fun id => entityCells_moveToCell
  refine ⟨h.filed.moveToCell, ?_, ?_⟩
  · intro id found place hfound hplace
    rw [hentities] at hfound
    show SessionState.PlacedAt _ found place (session.moveToCell entity cell).entityCells[id]?
    rw [hcells]
    unfold PlacedAt
    simp only [SessionState.modifyEntity, hspaces]
    split at hfound
    · rename_i hid
      obtain rfl := Option.some.inj hfound
      obtain rfl := Option.some.inj hplace
      rw [if_pos hid]
      exact hplaced
    · rename_i hid
      rw [if_neg hid]
      exact h.placed id found place hfound hplace
  · intro id hnone
    show (session.moveToCell entity cell).entityCells[id]? = none
    rw [hcells]
    have hid : id ≠ entity := by
      intro hid
      have hpositioned := hnone _ ((hentities id).trans (if_pos hid))
      cases hpositioned
    rw [if_neg hid]
    apply h.unplaced
    intro found hfound
    apply hnone
    rw [hentities, if_neg hid, hfound]

/-- An entity that changes the space loses its position. -/
theorem Indexed.transition {request : EntityTransitionRequest} (h : session.Indexed) :
    (session.transition request).Indexed := by
  have hentities : ∀ id : EntityId, (session.transition request).entities[id]? =
      if id = request.entity then (session.entities[id]?).map request.place
      else session.entities[id]? := by
    intro id
    rw [transition_eq, OrderedMap.getElem?_modify]
  have hspaces : (session.transition request).spaces = session.spaces := by rw [transition_eq]
  have hcells : ∀ id : EntityId, (session.transition request).entityCells[id]? =
      if id = request.entity then none else session.entityCells[id]? :=
    fun id => entityCells_removeEntityFromCell
  refine ⟨h.filed.removeEntityFromCell, ?_, ?_⟩
  · intro id record position hrecord hposition
    rw [hentities] at hrecord
    split at hrecord
    · obtain ⟨before, -, rfl⟩ := Option.map_eq_some_iff.mp hrecord
      cases hposition
    · rename_i hid
      unfold PlacedAt
      rw [hcells, if_neg hid, hspaces]
      exact h.placed id record position hrecord hposition
  · intro id hnone
    rw [hcells]
    split
    · rfl
    · rename_i hid
      apply h.unplaced
      intro record hrecord
      apply hnone
      rw [hentities, if_neg hid, hrecord]

end SessionState

variable {core core' : WovenCore} {key : SessionKey} {op : Op} {session : SessionState}

open SessionState

theorem SessionChange.indexed (h : SessionChange core key op session)
    (hconsistent : core.Consistent) (hindexed : (core.sessionAt key).Indexed) :
    session.Indexed := by
  have hsession := hconsistent.session key
  cases h with
  | same => exact hindexed
  | installSpace descriptor fresh room history parent =>
    exact hindexed.installSpace hsession fresh
  | remove initial asked => exact hindexed.dropRemoved hsession.keyed initial
  | advanceEpoch space proposed descriptor found later empty => exact hindexed.advanceEpoch empty
  | leave connection initial asked => exact (hindexed.dropRemoved hsession.keyed initial).leave
  | spawn connection space epoch principal installed room =>
    refine hindexed.spawn ?_ rfl
    intro hin
    exact Nat.lt_irrefl _ (hconsistent.entityIds _ _ hin).2
  | move connection entity position cell record descriptor entityFound spaceFound valid indexed =>
    exact hindexed.move entityFound ⟨descriptor, spaceFound, valid, indexed⟩
  | transition request addressed record checked moves => exact hindexed.transition
  | join connection asked =>
    exact hindexed.frame rfl rfl (fun _ => rfl) fun id record h _ => ⟨record, h, rfl, rfl⟩
  | subscribers space f asked =>
    exact hindexed.frame rfl rfl (fun _ => rfl) fun id record h _ => ⟨record, h, rfl, rfl⟩
  | commit request addressed now call clock plan planned =>
    rw [commit_eq]
    exact hindexed.frame rfl rfl (fun _ => rfl) fun id record h _ => ⟨record, h, rfl, rfl⟩

/-- In every reachable core the spatial index of every session is in step with the positions. -/
theorem Reachable.indexed (h : Reachable core) (key : SessionKey) :
    (core.sessionAt key).Indexed := by
  refine h.induction (P := fun core => ∀ key, (core.sessionAt key).Indexed) ?_ ?_ key
  · intro core hempty key
    rw [hempty.sessionAt]
    exact indexed_empty
  · intro op core core' hsound hchange hindexed key
    exact (hchange.session key).indexed hsound.consistent (hindexed key)

/-! ## The settings of a grid -/

/-- Each routing policy is one that the validation of a descriptor has accepted. -/
def SessionState.RoutingValid (session : SessionState) : Prop :=
  ∀ (id : SpaceId) (descriptor : SpaceDescriptor), session.spaces[id]? = some descriptor →
    descriptor.validateRouting = .ok ()

theorem SessionState.RoutingValid.of_spaces {session' : SessionState} (h : session.RoutingValid)
    (hspaces : ∀ (id : SpaceId) (descriptor : SpaceDescriptor),
      session'.spaces[id]? = some descriptor → ∃ before, session.spaces[id]? = some before ∧
        before.routing = descriptor.routing ∧ before.localFrame = descriptor.localFrame) :
    session'.RoutingValid := by
  intro id descriptor hfound
  obtain ⟨before, hbefore, hrouting, hframe⟩ := hspaces id descriptor hfound
  have hvalid := h id before hbefore
  unfold SpaceDescriptor.validateRouting at hvalid ⊢
  rwa [hrouting, hframe] at hvalid

/-- No change but an installation brings a space. -/
theorem SessionChange.routingValid (h : SessionChange core key op session)
    (hvalid : (core.sessionAt key).RoutingValid)
    (hop : ∀ descriptor, op ≠ .installSpace key descriptor) : session.RoutingValid := by
  cases h with
  | installSpace descriptor fresh room history parent => exact absurd rfl (hop descriptor)
  | remove initial asked =>
    apply hvalid.of_spaces
    intro id descriptor hfound
    rw [dropRemoved_spaces] at hfound
    split at hfound
    · cases hfound
    · exact ⟨descriptor, hfound, rfl, rfl⟩
  | leave connection initial asked =>
    apply hvalid.of_spaces
    intro id descriptor hfound
    replace hfound : ((core.sessionAt key).dropRemoved
      ((core.sessionAt key).cascade initial)).spaces[id]? = some descriptor := hfound
    rw [dropRemoved_spaces] at hfound
    split at hfound
    · cases hfound
    · exact ⟨descriptor, hfound, rfl, rfl⟩
  | advanceEpoch space proposed descriptor found later empty =>
    apply hvalid.of_spaces
    intro id after hafter
    replace hafter : ((core.sessionAt key).spaces.modify space _)[id]? = some after := hafter
    rw [OrderedMap.getElem?_modify] at hafter
    split at hafter
    · obtain ⟨before, hbefore, rfl⟩ := Option.map_eq_some_iff.mp hafter
      exact ⟨before, hbefore, rfl, rfl⟩
    · exact ⟨after, hafter, rfl, rfl⟩
  | move connection entity position cell record descriptor entityFound spaceFound valid indexed =>
    rw [moveToCell_eq]
    exact hvalid
  | transition request addressed record checked moves =>
    rw [transition_eq]
    exact hvalid
  | commit request addressed now call clock plan planned =>
    rw [commit_eq]
    exact hvalid
  | _ => exact hvalid

theorem validateRouting_of_validate {descriptor : SpaceDescriptor}
    (h : descriptor.validate = .ok ()) : descriptor.validateRouting = .ok () := by
  simp only [SpaceDescriptor.validate, Except.bind_eq_ok, Except.ite_eq_ok, Except.throw_bind,
    Except.throw_ne_ok, and_false, false_or] at h
  obtain ⟨-, -, -, -, -, -, hrouting⟩ := h
  exact hrouting

theorem Reachable.routingValid (h : Reachable core) (key : SessionKey) :
    (core.sessionAt key).RoutingValid := by
  refine h.induction (P := fun core => ∀ key, (core.sessionAt key).RoutingValid) ?_ ?_ key
  · intro core hempty key
    rw [hempty.sessionAt]
    intro id descriptor hfound
    simp at hfound
  · intro op core core' hsound hchange hvalid key
    by_cases hop : ∃ descriptor, op = .installSpace key descriptor
    · obtain ⟨descriptor, rfl⟩ := hop
      cases hchange with
      | installSpace key descriptor session found valid fresh room history parent =>
        rw [sessionAt_modifySession]
        split
        · intro id after hafter
          replace hafter : ((core.sessionAt key).spaces.insert descriptor.id descriptor)[id]? =
            some after := hafter
          rw [OrderedMap.getElem?_insert] at hafter
          split at hafter
          · obtain rfl := Option.some.inj hafter
            exact validateRouting_of_validate valid
          · exact hvalid key id after hafter
        · exact hvalid key
      | join connection k asked => exact asked.elim
      | removeEntities k initial asked => exact asked.elim
      | leave connection k reason now asked => exact asked.elim
      | releasePending connection k now asked => exact asked.elim
      | disconnect connection asked => exact asked.elim
    · exact (hchange.session key).routingValid (hvalid key) fun descriptor hsame =>
        hop ⟨descriptor, hsame⟩

end Signalweave
