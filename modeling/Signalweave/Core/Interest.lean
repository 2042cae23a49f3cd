import Signalweave.Core.Outbound
import Signalweave.Core.SpatialIndex
import Signalweave.Library.Grid

/-!
# Who is near enough to receive a message

The recipients of a spatial message are found through the cells near the source. They are compared
here with the owners of all entities within the radius of interest.
-/

open Std

namespace Signalweave

open WovenCore

/-! ## Distances -/

namespace EntityPosition

variable {source candidate : EntityPosition} {radius : ℚ}

/-- The Euclidean distance of two positions of one dimension. -/
noncomputable def distance (source candidate : EntityPosition) : Option ℝ :=
  (source.components candidate).map fun components =>
    √(components.map fun component : ℚ => (component : ℝ) ^ 2).sum

/-- The two positions are of one dimension, and no further apart than the radius. -/
def Within (source candidate : EntityPosition) (radius : ℚ) : Prop :=
  ∃ distance, source.distance candidate = some distance ∧ distance ≤ radius

theorem within_iff (hradius : 0 < radius) :
    source.Within candidate radius ↔ ∃ components, source.components candidate = some components ∧
      (components.map fun component => component ^ 2).sum ≤ radius ^ 2 := by
  have hcast : ∀ components : List ℚ,
      √(components.map fun component : ℚ => (component : ℝ) ^ 2).sum ≤ (radius : ℝ) ↔
        (components.map fun component => component ^ 2).sum ≤ radius ^ 2 := by
    intro components
    have hsum : (components.map fun component : ℚ => (component : ℝ) ^ 2).sum =
        ((components.map fun component => component ^ 2).sum : ℚ) := by
      induction components with
      | nil => simp
      | cons component rest ih => simp [ih]
    rw [Real.sqrt_le_left (by exact_mod_cast hradius.le), hsum]
    exact_mod_cast Iff.rfl
  unfold Within distance
  cases source.components candidate with
  | none => simp
  | some components => simp [hcast]

/-- The comparison of scaled squares is the comparison of the distance. -/
theorem squaredDistanceWithin_iff (hradius : 0 < radius) :
    squaredDistanceWithin source candidate radius = true ↔ source.Within candidate radius := by
  rw [within_iff hradius]
  unfold squaredDistanceWithin
  cases source.components candidate with
  | none => simp
  | some components =>
    have hgrows : ∀ (list : List ℚ) (start : ℚ), 0 < start →
        0 < list.foldl (fun largest component => max largest |component|) start := by
      intro list
      induction list with
      | nil => exact fun start h => h
      | cons component rest ih => exact fun start h => ih _ (lt_max_of_lt_left h)
    simp [Grid.sum_sq_div_le_iff (hgrows components radius hradius)]

/-- The coordinates of two finite positions of one dimension, side by side. -/
def coordinates : EntityPosition → EntityPosition → List (ℚ × ℚ)
  | .cartesian2D (.finite sourceX) (.finite sourceY),
    .cartesian2D (.finite candidateX) (.finite candidateY) =>
    [(sourceX, candidateX), (sourceY, candidateY)]
  | .cartesian3D (.finite sourceX) (.finite sourceY) (.finite sourceZ),
    .cartesian3D (.finite candidateX) (.finite candidateY) (.finite candidateZ) =>
    [(sourceX, candidateX), (sourceY, candidateY), (sourceZ, candidateZ)]
  | _, _ => []

theorem components_eq {components : List ℚ} (h : source.components candidate = some components) :
    components = (source.coordinates candidate).map fun pair => pair.1 - pair.2 := by
  unfold EntityPosition.components at h
  split at h
  · cases h
    rfl
  · cases h
    rfl
  · cases h

/-- In no coordinate are positions within a radius further apart than the radius. -/
theorem Within.abs_sub_le (h : source.Within candidate radius) (hradius : 0 < radius)
    {pair : ℚ × ℚ} (hpair : pair ∈ source.coordinates candidate) : |pair.1 - pair.2| ≤ radius := by
  obtain ⟨components, hcomponents, hsum⟩ := (within_iff hradius).mp h
  apply Grid.abs_le_of_sum_sq hradius.le hsum
  rw [components_eq hcomponents]
  exact List.mem_map_of_mem hpair

end EntityPosition

/-! ## Cells -/

theorem gridCoordinate_eq_ok {value cellSize : F64} {coordinate : Int} :
    gridCoordinate value cellSize = .ok coordinate ↔
      ∃ v c, value = .finite v ∧ cellSize = .finite c ∧ ⌊v / c⌋ = coordinate ∧
        -(2 ^ 63) ≤ coordinate ∧ coordinate < 2 ^ 63 := by
  unfold gridCoordinate
  split
  · rename_i v c
    simp only [F64.finite.injEq, exists_and_left, exists_eq_left']
    split <;> constructor <;> grind
  · rename_i hother
    simp only [reduceCtorEq, false_iff]
    rintro ⟨v, c, rfl, rfl, -⟩
    exact hother v c rfl rfl

theorem spatialCellFor_scope {descriptor : SpaceDescriptor} {epoch : SpaceEpoch}
    {position : EntityPosition} {cell : SpatialCellKey}
    (h : spatialCellFor position descriptor epoch = .ok (some cell)) :
    cell.space = descriptor.id ∧ cell.spaceEpoch = epoch := by
  unfold spatialCellFor at h
  split at h
  · simp only [Except.bind_eq_ok] at h
    obtain ⟨_, -, _, -, h⟩ := h
    cases h
    exact ⟨rfl, rfl⟩
  · simp only [Except.bind_eq_ok] at h
    obtain ⟨_, -, _, -, _, -, h⟩ := h
    cases h
    exact ⟨rfl, rfl⟩
  all_goals cases h

/-- A position that a grid takes is finite, has the dimension of the grid and lies in the cell of
its quotients. -/
theorem spatialCellFor_eq_ok {descriptor : SpaceDescriptor} {cellSize radius : ℚ}
    {exactDistance : Bool}
    {epoch : SpaceEpoch} {position : EntityPosition} {cell : Option SpatialCellKey}
    (hgrid : descriptor.routing.spatial = some (.finite cellSize, .finite radius, exactDistance))
    (hcell : spatialCellFor position descriptor epoch = .ok cell) :
    (∃ x y, descriptor.routing = .spatialGrid2D (.finite cellSize) (.finite radius) exactDistance ∧
      position = .cartesian2D (.finite x) (.finite y) ∧
        cell = some ⟨descriptor.id, epoch, .cartesian2D ⌊x / cellSize⌋ ⌊y / cellSize⌋⟩) ∨
    ∃ x y z, descriptor.routing = .spatialGrid3D (.finite cellSize) (.finite radius) exactDistance ∧
      position = .cartesian3D (.finite x) (.finite y) (.finite z) ∧ cell = some ⟨descriptor.id,
        epoch, .cartesian3D ⌊x / cellSize⌋ ⌊y / cellSize⌋ ⌊z / cellSize⌋⟩ := by
  unfold spatialCellFor at hcell
  cases hrouting : descriptor.routing with
  | broadcastAll =>
    rw [hrouting] at hgrid
    cases hgrid
  | topicOnly =>
    rw [hrouting] at hgrid
    cases hgrid
  | spatialGrid2D size interest distance =>
    rw [hrouting] at hgrid hcell
    cases hgrid
    cases position with
    | cartesian3D => cases hcell
    | cartesian2D x y =>
      simp only [Except.bind_eq_ok, gridCoordinate_eq_ok, F64.finite.injEq] at hcell
      obtain ⟨_, ⟨x, _, rfl, rfl, rfl, -⟩, _, ⟨y, _, rfl, rfl, rfl, -⟩, hcell⟩ := hcell
      cases hcell
      exact .inl ⟨x, y, rfl, rfl, rfl⟩
  | spatialGrid3D size interest distance =>
    rw [hrouting] at hgrid hcell
    cases hgrid
    cases position with
    | cartesian2D => cases hcell
    | cartesian3D x y z =>
      simp only [Except.bind_eq_ok, gridCoordinate_eq_ok, F64.finite.injEq] at hcell
      obtain ⟨_, ⟨x, _, rfl, rfl, rfl, -⟩, _, ⟨y, _, rfl, rfl, rfl, -⟩, _,
        ⟨z, _, rfl, rfl, rfl, -⟩, hcell⟩ := hcell
      cases hcell
      exact .inr ⟨x, y, z, rfl, rfl, rfl⟩

theorem exists_spatialCell {descriptor : SpaceDescriptor} {cellSize radius : ℚ}
    {exactDistance : Bool}
    {epoch : SpaceEpoch} {position : EntityPosition} {cell : Option SpatialCellKey}
    (hgrid : descriptor.routing.spatial = some (.finite cellSize, .finite radius, exactDistance))
    (hcell : spatialCellFor position descriptor epoch = .ok cell) : ∃ key, cell = some key := by
  rcases spatialCellFor_eq_ok hgrid hcell with ⟨x, y, -, -, rfl⟩ | ⟨x, y, z, -, -, rfl⟩
  · exact ⟨_, rfl⟩
  · exact ⟨_, rfl⟩

/-- The cells of two positions in one grid are near exactly when in no coordinate the cells are
further apart than the radius. -/
theorem cellsAreNear_iff {descriptor : SpaceDescriptor} {cellSize radius : ℚ} {exactDistance : Bool}
    {epoch epoch' : SpaceEpoch} {source candidate : EntityPosition} {key key' : SpatialCellKey}
    (hgrid : descriptor.routing.spatial = some (.finite cellSize, .finite radius, exactDistance))
    (hkey : spatialCellFor source descriptor epoch = .ok (some key))
    (hkey' : spatialCellFor candidate descriptor epoch' = .ok (some key')) :
    cellsAreNear key.cell key'.cell (radius / cellSize) = true ↔
      ∀ pair ∈ source.coordinates candidate,
        (Grid.cellsApart cellSize pair.1 pair.2 : ℚ) ≤ radius / cellSize := by
  rcases spatialCellFor_eq_ok hgrid hkey with ⟨x, y, hrouting, rfl, heq⟩ |
    ⟨x, y, z, hrouting, rfl, heq⟩ <;> cases heq <;>
  rcases spatialCellFor_eq_ok hgrid hkey' with ⟨x', y', hrouting', rfl, heq⟩ |
    ⟨x', y', z', hrouting', rfl, heq⟩ <;> cases heq
  · simp [cellsAreNear, EntityPosition.coordinates, Grid.cellsApart]
  · rw [hrouting] at hrouting'
    cases hrouting'
  · rw [hrouting] at hrouting'
    cases hrouting'
  · simp [cellsAreNear, EntityPosition.coordinates, Grid.cellsApart, and_assoc]

/-! ## The recipients -/

namespace SessionState

variable {session : SessionState} {message : OutboundMessage} {c : ConnectionId}

/-- The connection owns an entity with the position in the space and epoch of the message. -/
def Owns (session : SessionState) (message : OutboundMessage) (c : ConnectionId)
    (position : EntityPosition) : Prop :=
  ∃ (id : EntityId) (record : EntityRecord), session.entities[id]? = some record ∧
    record.ownerConnection = c ∧ record.space = message.space ∧
      record.spaceEpoch = message.spaceEpoch ∧ record.position = some position

/-- A subscriber of the space that owns an entity there within the radius of the source. -/
def Interested (session : SessionState) (message : OutboundMessage) (source : EntityPosition)
    (radius : ℚ) (c : ConnectionId) : Prop :=
  c ∈ session.subscribersOf message.space ∧
    ∃ position, session.Owns message c position ∧ source.Within position radius

/-- With exact distances the recipients are those interested; else all of these are recipients. -/
def RoutesInterest (session : SessionState) (message : OutboundMessage) (source : EntityPosition)
    (radius : ℚ) (exactDistance : Bool) : Prop :=
  (∀ c, session.Interested message source radius c → c ∈ routingRecipients session message) ∧
    (exactDistance = true → ∀ c, c ∈ routingRecipients session message →
      session.Interested message source radius c)

end SessionState

theorem spatialCandidate_eq_some {session : SessionState} {subscribers : ExtTreeSet ConnectionId}
    {source : EntityPosition} {radius : ℚ} {exactDistance : Bool} {candidate : EntityId}
    {c : ConnectionId} (hradius : 0 < radius) :
    spatialCandidate session subscribers source radius exactDistance candidate = some c ↔
      ∃ record position, session.entities[candidate]? = some record ∧
        record.position = some position ∧ (exactDistance = true → source.Within position radius) ∧
          record.ownerConnection = c ∧ c ∈ subscribers := by
  unfold spatialCandidate
  cases hrecord : session.entities[candidate]? with
  | none => simp
  | some record =>
    cases hposition : record.position with
    | none => simp [hposition]
    | some position =>
      have hwithin : squaredDistanceWithin source position radius = true ↔
        source.Within position radius := EntityPosition.squaredDistanceWithin_iff hradius
      simp only [Option.bind_eq_bind, Option.bind_some, hposition, Option.some.injEq]
      rw [Option.ite_none_left_eq_some, Option.ite_none_right_eq_some, Option.some.injEq]
      simp only [Bool.and_eq_true, Bool.not_eq_true', ← Bool.not_eq_true, hwithin, not_and,
        not_not, ExtTreeSet.contains_iff_mem]
      constructor
      · rintro ⟨hexact, hsubscribed, rfl⟩
        exact ⟨record, position, rfl, hposition, hexact, rfl, hsubscribed⟩
      · rintro ⟨_, _, rfl, hplace, hexact, rfl, hsubscribed⟩
        obtain rfl := Option.some.inj (hposition.symm.trans hplace)
        exact ⟨hexact, hsubscribed, rfl⟩

section Recipients

variable {session : SessionState} {message : OutboundMessage} {descriptor : SpaceDescriptor}
  {cellSize radius : ℚ} {exactDistance : Bool} {id : EntityId} {record : EntityRecord}
  {source : EntityPosition} {c : ConnectionId}

/-- The loop over the cells finds the owners of the entities that the index has filed in the cells
near the source. -/
theorem mem_spatialRecipients (hindexed : session.Indexed) (hkeyed : session.Keyed)
    (hradius : 0 < radius) (hspace : session.spaces[message.space]? = some descriptor)
    (hgrid : descriptor.routing.spatial = some (.finite cellSize, .finite radius, exactDistance))
    {key : SpatialCellKey} {epoch : SpaceEpoch}
    (hkey : spatialCellFor source descriptor epoch = .ok (some key)) :
    c ∈ spatialRecipients session (session.subscribersOf message.space) message cellSize radius
        exactDistance source key ↔
      c ∈ session.subscribersOf message.space ∧ ∃ position, session.Owns message c position ∧
        (exactDistance = true → source.Within position radius) ∧
          ∀ pair ∈ source.coordinates position,
            (Grid.cellsApart cellSize pair.1 pair.2 : ℚ) ≤ radius / cellSize := by
  have hloop : c ∈ spatialRecipients session (session.subscribersOf message.space) message cellSize
      radius exactDistance source key ↔ ∃ candidate cell, session.InCell cell candidate ∧
        (cell.space = message.space ∧ cell.spaceEpoch = message.spaceEpoch ∧
          cellsAreNear key.cell cell.cell (radius / cellSize) = true) ∧
        spatialCandidate session (session.subscribersOf message.space) source radius
          exactDistance candidate = some c := by
    unfold spatialRecipients SessionState.InCell
    rw [ExtTreeSet.mem_ofList, List.contains_iff_mem, List.mem_filterMap]
    simp only [List.mem_flatMap, List.mem_filter, Prod.exists, ExtTreeSet.mem_toList,
      ExtTreeMap.mem_toList_iff_getElem?_eq_some, Bool.and_eq_true, beq_iff_eq, and_assoc]
    grind
  rw [hloop]
  constructor
  · rintro ⟨candidate, cell, hin, ⟨hcellSpace, hcellEpoch, hnear⟩, hcandidate⟩
    obtain ⟨record, position, hrecord, hposition, hexact, howner, hsubscribed⟩ :=
      (spatialCandidate_eq_some hradius).mp hcandidate
    obtain ⟨found, hfound, -, hplaced⟩ :=
      hindexed.placed candidate record position hrecord hposition
    rw [(hindexed.filed cell candidate).mp hin] at hplaced
    obtain ⟨hid, hepoch⟩ := spatialCellFor_scope hplaced
    have hlocated : record.space = message.space := by
      rw [← hcellSpace, hid, hkeyed.spaces _ _ hfound]
    rw [hlocated, hspace] at hfound
    obtain rfl := Option.some.inj hfound
    refine ⟨hsubscribed, position, ⟨candidate, record, hrecord, howner, hlocated,
      hepoch.symm.trans hcellEpoch, hposition⟩, hexact, ?_⟩
    exact (cellsAreNear_iff hgrid hkey hplaced).mp hnear
  · rintro ⟨hsubscribed, position, ⟨candidate, record, hrecord, howner, hlocated, hepoch,
      hposition⟩, hexact, hnear⟩
    obtain ⟨found, hfound, -, hplaced⟩ :=
      hindexed.placed candidate record position hrecord hposition
    rw [hlocated, hspace] at hfound
    obtain rfl := Option.some.inj hfound
    obtain ⟨cell, hcell⟩ := exists_spatialCell hgrid hplaced
    rw [hcell] at hplaced
    obtain ⟨hid, hcellEpoch⟩ := spatialCellFor_scope hplaced
    refine ⟨candidate, cell, (hindexed.filed cell candidate).mpr hcell, ⟨?_, ?_, ?_⟩, ?_⟩
    · rw [hid, hkeyed.spaces _ _ hspace]
    · rw [hcellEpoch, hepoch]
    · exact (cellsAreNear_iff hgrid hkey hplaced).mpr hnear
    · exact (spatialCandidate_eq_some hradius).mpr
        ⟨record, position, hrecord, hposition, hexact, howner, hsubscribed⟩

/-- What `routing_recipients` returns for a message that is not critical in a spatial space. -/
theorem mem_routingRecipients (hindexed : session.Indexed) (hsession : session.Consistent)
    (hradius : 0 < radius) (hcritical : message.delivery.isCritical = false)
    (hspace : session.spaces[message.space]? = some descriptor)
    (hgrid : descriptor.routing.spatial = some (.finite cellSize, .finite radius, exactDistance))
    (hentity : message.entity = some id) (hrecord : session.entities[id]? = some record)
    (hlocated : record.space = message.space) (hposition : record.position = some source) :
    c ∈ routingRecipients session message ↔
      c ∈ session.subscribersOf message.space ∧ ∃ position, session.Owns message c position ∧
        (exactDistance = true → source.Within position radius) ∧
          ∀ pair ∈ source.coordinates position,
            (Grid.cellsApart cellSize pair.1 pair.2 : ℚ) ≤ radius / cellSize := by
  obtain ⟨found, hfound, -, hplaced⟩ := hindexed.placed id record source hrecord hposition
  rw [hlocated, hspace] at hfound
  obtain rfl := Option.some.inj hfound
  obtain ⟨key, hkey⟩ := exists_spatialCell hgrid hplaced
  rw [hkey] at hplaced
  obtain ⟨hid, hkeyEpoch⟩ := spatialCellFor_scope hplaced
  have hkeySpace : key.space = message.space := by rw [hid, hsession.keyed.spaces _ _ hspace]
  by_cases hepoch : record.spaceEpoch = message.spaceEpoch
  · have hsource : spatialSource session message = some (source, key) := by
      simp [spatialSource, hentity, hrecord, hposition, hkey, hkeySpace, hkeyEpoch, hepoch]
    have hroute : routingRecipients session message = spatialRecipients session
        (session.subscribersOf message.space) message cellSize radius exactDistance source key := by
      unfold routingRecipients
      simp only [hspace, hcritical, hgrid, hsource]
      rfl
    rw [hroute]
    exact mem_spatialRecipients hindexed hsession.keyed hradius hspace hgrid hplaced
  · -- All entities of the space are in its epoch, so neither side has a recipient.
    have hsource : spatialSource session message = none := by
      simp [spatialSource, hentity, hrecord, hkey, hkeySpace, hkeyEpoch, hepoch]
    have hroute : routingRecipients session message = ∅ := by
      unfold routingRecipients
      simp only [hspace, hcritical, hgrid, hsource]
      rfl
    rw [hroute]
    refine iff_of_false ExtTreeSet.not_mem_empty ?_
    rintro ⟨-, position, ⟨other, found, hother, -, hspaceOther, hepochOther, -⟩, -⟩
    obtain ⟨before, hbefore, hcurrent⟩ := hsession.located id record hrecord
    obtain ⟨after, hafter, hcurrent'⟩ := hsession.located other found hother
    rw [hlocated] at hbefore
    rw [hspaceOther, hbefore] at hafter
    obtain rfl := Option.some.inj hafter
    exact hepoch (hcurrent.symm.trans (hcurrent'.trans hepochOther))

end Recipients

/-! ## The recipients and the interested -/

section Interest

variable {core : WovenCore} {message : OutboundMessage} {descriptor : SpaceDescriptor}
  {cellSize radius : ℚ} {exactDistance : Bool} {id : EntityId} {record : EntityRecord}
  {source : EntityPosition}

/-- The owner of an entity in cells that are all closer than the radius rounded up. -/
def SessionState.ReachesCell (session : SessionState) (message : OutboundMessage)
    (source : EntityPosition) (cellSize radius : ℚ) (exactDistance : Bool) (c : ConnectionId) :
    Prop :=
  ∃ position, session.Owns message c position ∧
    (exactDistance = true → source.Within position radius) ∧
      ∀ pair ∈ source.coordinates position,
        (Grid.cellsApart cellSize pair.1 pair.2 : ℤ) < ⌈radius / cellSize⌉

theorem pos_of_validatePositiveFinite {value : ℚ}
    (h : validatePositiveFinite (.finite value) = .ok ()) : 0 < value := by
  by_contra hvalue
  rw [validatePositiveFinite, if_neg hvalue] at h
  cases h

theorem spatial_pos (hvalid : descriptor.validateRouting = .ok ())
    (hgrid : descriptor.routing.spatial = some (.finite cellSize, .finite radius, exactDistance)) :
    0 < cellSize ∧ 0 < radius := by
  have hboth : (do
      validatePositiveFinite (.finite cellSize)
      validatePositiveFinite (.finite radius)) = .ok () := by
    unfold SpaceDescriptor.validateRouting at hvalid
    cases hrouting : descriptor.routing <;> cases hframe : descriptor.localFrame <;>
      rw [hrouting, hframe] at hvalid <;> rw [hrouting] at hgrid <;> cases hgrid
    all_goals first | exact hvalid | cases hvalid
  obtain ⟨_, hsize, hradius⟩ := Except.bind_eq_ok.mp hboth
  exact ⟨pos_of_validatePositiveFinite hsize, pos_of_validatePositiveFinite hradius⟩

/-- The cells miss nobody who is interested exactly where the radius is a multiple of the cell
size or each of the interested owns an entity that is near enough in cells. -/
theorem routingRecipients_routesInterest_iff (h : Reachable core) (key : SessionKey)
    (hcritical : message.delivery.isCritical = false)
    (hspace : (core.sessionAt key).spaces[message.space]? = some descriptor)
    (hgrid : descriptor.routing.spatial = some (.finite cellSize, .finite radius, exactDistance))
    (hentity : message.entity = some id)
    (hrecord : (core.sessionAt key).entities[id]? = some record)
    (hlocated : record.space = message.space) (hposition : record.position = some source) :
    (core.sessionAt key).RoutesInterest message source radius exactDistance ↔
      (∃ k : ℤ, radius = k * cellSize) ∨
        ∀ c, (core.sessionAt key).Interested message source radius c →
          (core.sessionAt key).ReachesCell message source cellSize radius exactDistance c := by
  obtain ⟨hsize, hradius⟩ := spatial_pos (h.routingValid key _ _ hspace) hgrid
  have hrecipients := fun c => mem_routingRecipients (c := c) (h.indexed key)
    (h.sound.consistent.session key) hradius hcritical hspace hgrid hentity hrecord hlocated
    hposition
  unfold SessionState.RoutesInterest
  simp only [hrecipients]
  constructor
  · rintro ⟨hall, -⟩
    by_cases hmultiple : ∃ k : ℤ, radius = k * cellSize
    · exact .inl hmultiple
    · refine .inr fun c hinterested => ?_
      obtain ⟨-, position, howns, hexact, hnear⟩ := hall c hinterested
      refine ⟨position, howns, hexact, fun pair hpair => ?_⟩
      exact (Grid.le_div_iff_lt_ceil hsize hmultiple _).mp (hnear pair hpair)
  · intro hcovered
    refine ⟨?_, ?_⟩
    · rintro c ⟨hsubscribed, position, howns, hwithin⟩
      refine ⟨hsubscribed, ?_⟩
      by_cases hmultiple : ∃ k : ℤ, radius = k * cellSize
      · refine ⟨position, howns, fun _ => hwithin, fun pair hpair => ?_⟩
        exact Grid.cellsApart_le_of_multiple hsize (hwithin.abs_sub_le hradius hpair) hmultiple
      · obtain ⟨place, howns, hexact, hnear⟩ :=
          hcovered.resolve_left hmultiple c ⟨hsubscribed, position, howns, hwithin⟩
        refine ⟨place, howns, hexact, fun pair hpair => ?_⟩
        exact (Grid.le_div_iff_lt_ceil hsize hmultiple _).mpr (hnear pair hpair)
    · rintro hexact c ⟨hsubscribed, position, howns, hwithin, -⟩
      exact ⟨hsubscribed, position, howns, hwithin hexact⟩

end Interest

namespace Sample

/-- A plane with cells of ten units and a radius of five. -/
def plane : SpaceDescriptor :=
  { id := ⟨1⟩, localFrame := .cartesian2D (.finite 1), parent := none, epoch := ⟨1⟩
    routing := .spatialGrid2D (.finite 10) (.finite 5) true }

/-- A position in the first cell. -/
def left : EntityPosition := .cartesian2D (.finite 9) (.finite 0)

/-- A position in the second cell. -/
def right : EntityPosition := .cartesian2D (.finite 11) (.finite 0)

/-- Two connections with an entity each, on either side of an edge between cells. -/
def onPlane : List Op :=
  [ .provisionSession session, .installSpace session plane,
    .transportConnected, .authenticate ⟨1⟩ ⟨"a"⟩, .joinSession ⟨1⟩ session,
    .subscribe ⟨1⟩ (spaceKey 1), .spawnEntity ⟨1⟩ (spaceKey 1) ⟨1⟩,
    .updateEntityPosition ⟨1⟩ session ⟨1⟩ left,
    .transportConnected, .authenticate ⟨2⟩ ⟨"bb"⟩, .joinSession ⟨2⟩ session,
    .subscribe ⟨2⟩ (spaceKey 1), .spawnEntity ⟨2⟩ (spaceKey 1) ⟨1⟩,
    .updateEntityPosition ⟨2⟩ session ⟨2⟩ right ]

/-- What the first entity says of itself. -/
def remark : OutboundMessage :=
  (AuthorizedMessage.fromRequest { publication 1 with delivery := .bestEffortEvent }).toOutbound
    session

/-- The record of an entity that its connection has put somewhere on the plane. -/
def placed (n : Nat) (position : EntityPosition) : EntityRecord :=
  { id := ⟨n⟩, ownerConnection := ⟨n⟩, ownerPrincipal := ⟨n⟩, space := ⟨1⟩, spaceEpoch := ⟨1⟩
    position := some position }

theorem plane_installed : ((Transition.run step core onPlane).sessionAt session).spaces[
    (⟨1⟩ : SpaceId)]? = some plane := by decide +kernel

theorem first_placed : ((Transition.run step core onPlane).sessionAt session).entities[
    (⟨1⟩ : EntityId)]? = some (placed 1 left) := by decide +kernel

theorem second_placed : ((Transition.run step core onPlane).sessionAt session).entities[
    (⟨2⟩ : EntityId)]? = some (placed 2 right) := by decide +kernel

end Sample

theorem routingRecipients_routesInterest_iff_onPlane :
    let session := (Transition.run step Sample.core Sample.onPlane).sessionAt Sample.session
    session.RoutesInterest Sample.remark Sample.left 5 true ↔
      (∃ k : ℤ, (5 : ℚ) = k * 10) ∨ ∀ c, session.Interested Sample.remark Sample.left 5 c →
        session.ReachesCell Sample.remark Sample.left 10 5 true c :=
  routingRecipients_routesInterest_iff (Sample.reachable _) Sample.session (by rfl)
    Sample.plane_installed rfl rfl Sample.first_placed rfl rfl

/-- A subscriber two units away receives nothing, though the radius is five. -/
theorem not_routesInterest :
    ¬ ∀ (core : WovenCore) (key : SessionKey) (message : OutboundMessage)
      (descriptor : SpaceDescriptor) (cellSize radius : ℚ) (exactDistance : Bool) (id : EntityId)
      (record : EntityRecord) (source : EntityPosition), Reachable core →
        message.delivery.isCritical = false →
        (core.sessionAt key).spaces[message.space]? = some descriptor →
        descriptor.routing.spatial = some (.finite cellSize, .finite radius, exactDistance) →
        message.entity = some id → (core.sessionAt key).entities[id]? = some record →
        record.space = message.space → record.position = some source →
        (core.sessionAt key).RoutesInterest message source radius exactDistance := by
  intro hall
  have hroutes := (hall (Transition.run step Sample.core Sample.onPlane) Sample.session
    Sample.remark Sample.plane 10 5 true ⟨1⟩ (Sample.placed 1 Sample.left) Sample.left
    (Sample.reachable _) rfl Sample.plane_installed rfl rfl Sample.first_placed rfl rfl).1 ⟨2⟩
  have hmissed : (⟨2⟩ : ConnectionId) ∉ routingRecipients
      ((Transition.run step Sample.core Sample.onPlane).sessionAt Sample.session)
      Sample.remark := by decide +kernel
  apply hmissed
  apply hroutes
  refine ⟨by decide +kernel, Sample.right,
    ⟨⟨2⟩, Sample.placed 2 Sample.right, Sample.second_placed, rfl, rfl, rfl, rfl⟩, ?_⟩
  rw [EntityPosition.within_iff (by norm_num)]
  exact ⟨[9 - 11, 0 - 0], by rfl, by norm_num⟩

end Signalweave
