import Signalweave.Core.Entities

/-!
# Who receives a message (`routing_recipients`, `core.rs`)
-/

open Std

namespace Signalweave

/-- `cells_are_near`: no coordinate of the cells differs by more than the radius. -/
def cellsAreNear (source candidate : SpatialCell) (radiusInCells : ℚ) : Bool :=
  match source, candidate with
  | .cartesian2D sourceX sourceY, .cartesian2D candidateX candidateY =>
    decide (((sourceX - candidateX).natAbs : ℚ) ≤ radiusInCells) &&
      decide (((sourceY - candidateY).natAbs : ℚ) ≤ radiusInCells)
  | .cartesian3D sourceX sourceY sourceZ, .cartesian3D candidateX candidateY candidateZ =>
    decide (((sourceX - candidateX).natAbs : ℚ) ≤ radiusInCells) &&
      decide (((sourceY - candidateY).natAbs : ℚ) ≤ radiusInCells) &&
      decide (((sourceZ - candidateZ).natAbs : ℚ) ≤ radiusInCells)
  | _, _ => false

/-- The differences of the coordinates of two positions, where they have the same dimension and
are finite. -/
def EntityPosition.components : EntityPosition → EntityPosition → Option (List ℚ)
  | .cartesian2D (.finite sourceX) (.finite sourceY),
    .cartesian2D (.finite candidateX) (.finite candidateY) =>
    some [sourceX - candidateX, sourceY - candidateY]
  | .cartesian3D (.finite sourceX) (.finite sourceY) (.finite sourceZ),
    .cartesian3D (.finite candidateX) (.finite candidateY) (.finite candidateZ) =>
    some [sourceX - candidateX, sourceY - candidateY, sourceZ - candidateZ]
  | _, _ => none

/-- `squared_distance_within`: both sides are divided by the square of the largest of the radius
and the components. -/
def squaredDistanceWithin (source candidate : EntityPosition) (radius : ℚ) : Bool :=
  match source.components candidate with
  | none => false
  | some components =>
    let scale := components.foldl (fun largest component => max largest |component|) radius
    decide ((components.map fun component => (component / scale) ^ 2).sum ≤ (radius / scale) ^ 2)

/-- The settings of a spatial routing policy: cell size, interest radius and exact distance. -/
def RoutingPolicy.spatial : RoutingPolicy → Option (F64 × F64 × Bool)
  | .spatialGrid2D cellSize interestRadius exactDistance
  | .spatialGrid3D cellSize interestRadius exactDistance =>
    some (cellSize, interestRadius, exactDistance)
  | .broadcastAll | .topicOnly => none

/-- The source of a spatial message: its position and cell, where it is indexed in the space of
the message. -/
def spatialSource (session : SessionState) (outbound : OutboundMessage) :
    Option (EntityPosition × SpatialCellKey) := do
  let entity ← outbound.entity
  let source ← session.entities[entity]?
  let position ← source.position
  let cell ← session.entityCells[entity]?
  if cell.space ≠ outbound.space ∨ cell.spaceEpoch ≠ outbound.spaceEpoch then none
  else some (position, cell)

/-- The owner that one candidate adds to the recipients. -/
def spatialCandidate (session : SessionState) (subscribers : ExtTreeSet ConnectionId)
    (sourcePosition : EntityPosition) (interestRadius : ℚ) (exactDistance : Bool)
    (candidate : EntityId) : Option ConnectionId := do
  let record ← session.entities[candidate]?
  let position ← record.position
  if exactDistance && !squaredDistanceWithin sourcePosition position interestRadius then none
  else if subscribers.contains record.ownerConnection then some record.ownerConnection
  else none

/-- The loop of `routing_recipients` over the cells near the source. -/
def spatialRecipients (session : SessionState) (subscribers : ExtTreeSet ConnectionId)
    (outbound : OutboundMessage) (cellSize interestRadius : ℚ) (exactDistance : Bool)
    (sourcePosition : EntityPosition) (sourceCell : SpatialCellKey) : ExtTreeSet ConnectionId :=
  let near := session.cellEntities.toList.filter fun entry =>
    entry.1.space == outbound.space && entry.1.spaceEpoch == outbound.spaceEpoch &&
      cellsAreNear sourceCell.cell entry.1.cell (interestRadius / cellSize)
  let candidates := near.flatMap fun entry => entry.2.toList
  ExtTreeSet.ofList (candidates.filterMap
    (spatialCandidate session subscribers sourcePosition interestRadius exactDistance))

/-- The cell size and the radius of an installed space are finite, so the branch for other
values is not taken. -/
def routingRecipients (session : SessionState) (outbound : OutboundMessage) :
    ExtTreeSet ConnectionId :=
  let subscribers := (session.subscribers[outbound.space]?).getD ∅
  match session.spaces[outbound.space]? with
  | none => ∅
  | some descriptor =>
    if outbound.delivery.isCritical then subscribers
    else
      match descriptor.routing.spatial with
      | none => subscribers
      | some (.finite cellSize, .finite interestRadius, exactDistance) =>
        match spatialSource session outbound with
        | none => ∅
        | some (position, cell) =>
          spatialRecipients session subscribers outbound cellSize interestRadius exactDistance
            position cell
      | some _ => ∅

end Signalweave
