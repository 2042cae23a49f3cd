import Signalweave.Core.Spaces

/-!
# Entities: spawning, moving and removing them (`core.rs`)
-/

open Std

namespace Signalweave

/-- `grid_coordinate`: the floor of the quotient, refused outside the range of an `i64`. The source
rounds the quotient to an `f64` before it takes the floor; here it is the exact quotient. -/
def gridCoordinate (value cellSize : F64) : Except CoreError Int :=
  match value, cellSize with
  | .finite value, .finite cellSize =>
    let coordinate := ⌊value / cellSize⌋
    if coordinate < -(2 ^ 63) ∨ 2 ^ 63 ≤ coordinate then .error .spatialCellOutOfRange
    else .ok coordinate
  | _, _ => .error .spatialCellOutOfRange

/-- `spatial_cell_for`: the cell of a position, in a space that is routed by a grid. -/
def spatialCellFor (position : EntityPosition) (descriptor : SpaceDescriptor)
    (epoch : SpaceEpoch) : Except CoreError (Option SpatialCellKey) :=
  match position, descriptor.routing with
  | .cartesian2D x y, .spatialGrid2D cellSize _ _ => do
    let x ← gridCoordinate x cellSize
    let y ← gridCoordinate y cellSize
    return some { space := descriptor.id, spaceEpoch := epoch, cell := .cartesian2D x y }
  | .cartesian3D x y z, .spatialGrid3D cellSize _ _ => do
    let x ← gridCoordinate x cellSize
    let y ← gridCoordinate y cellSize
    let z ← gridCoordinate z cellSize
    return some { space := descriptor.id, spaceEpoch := epoch, cell := .cartesian3D x y z }
  | _, .broadcastAll | _, .topicOnly => .ok none
  | _, _ => .error (.invalidEntityPosition .dimensionMismatch)

/-- `spawn_entity`. -/
def spawnEntity (connection : ConnectionId) (spaceKey : SpaceKey) (epoch : SpaceEpoch) :
    CoreM EntityId := do
  validateConnectionId connection
  validateSpaceKey spaceKey
  requireNonzero epoch.get .spaceEpoch
  let core ← get
  let principal ← core.authenticatedPrincipal connection
  requireNamespaceWrite principal spaceKey.session.namespaceId
  requireSessionWrite principal spaceKey.session
  requireSpaceWrite principal spaceKey
  core.requireMembership connection spaceKey.session
  core.requireSubscription connection spaceKey
  let state ← (core.connections[connection]?).okOr (CoreError.unknownConnection connection)
  if state.ownedEntities = core.config.maxOwnedEntitiesPerConnection then
    throw CoreError.ownedEntityLimitReached
  let session ← (core.sessions[spaceKey.session]?).okOr
    (CoreError.sessionNotFound spaceKey.session)
  let descriptor ← (session.spaces[spaceKey.space]?).okOr (CoreError.spaceNotFound spaceKey)
  if descriptor.epoch ≠ epoch then
    throw (CoreError.spaceEpochMismatch descriptor.epoch epoch)
  if session.entities.size = core.config.maxEntitiesPerSession then
    throw CoreError.entityLimitReached
  let id : EntityId := ⟨core.nextEntityId⟩
  let next ← (checkedSucc core.nextEntityId).okOr CoreError.idExhausted
  set { core with nextEntityId := next }
  withSession spaceKey.session fun session => { session with
    entities := session.entities.insert id
      { id, ownerConnection := connection, ownerPrincipal := principal.principalId,
        space := spaceKey.space, spaceEpoch := epoch, position := none } }
  withConnection connection fun state => { state with ownedEntities := state.ownedEntities + 1 }
  return id

/-- The cell update of `update_entity_position`. -/
def SessionState.moveToCell (session : SessionState) (entity : EntityId)
    (cell : Option SpatialCellKey) : SessionState :=
  if session.entityCells[entity]? = cell then session
  else
    let session := session.removeEntityFromCell entity
    match cell with
    | some cell => session.insertEntityIntoCell entity cell
    | none => session

/-- A change of one entity record. -/
def SessionState.modifyEntity (session : SessionState) (entity : EntityId)
    (f : EntityRecord → EntityRecord) : SessionState :=
  { session with entities := session.entities.modify entity f }

/-- `session.entities.get_mut(&entity).ok_or(EntityNotFound(entity))?`, then the change. The
session is one that the caller has already looked up. -/
def withEntity (key : SessionKey) (entity : EntityId) (f : EntityRecord → EntityRecord) :
    CoreM Unit := do
  let core ← get
  let _ ← ((core.sessions[key]?).bind fun session => session.entities[entity]?).okOr
    (CoreError.entityNotFound entity)
  set (core.modifySession key fun session => session.modifyEntity entity f)

/-- `update_entity_position`. -/
def updateEntityPosition (connection : ConnectionId) (key : SessionKey) (entity : EntityId)
    (position : EntityPosition) : CoreM Unit := do
  validateConnectionId connection
  validateSessionKey key
  requireNonzero entity.get .entity
  let core ← get
  let principal ← core.authenticatedPrincipal connection
  requireNamespaceWrite principal key.namespaceId
  requireSessionWrite principal key
  core.requireMembership connection key
  let session ← (core.sessions[key]?).okOr (CoreError.sessionNotFound key)
  let record ← (session.entities[entity]?).okOr (CoreError.entityNotFound entity)
  if record.ownerConnection ≠ connection then
    throw (CoreError.entityNotOwned entity)
  requireSpaceWrite principal ⟨key, record.space⟩
  core.requireSubscription connection ⟨key, record.space⟩
  let descriptor ← (session.spaces[record.space]?).okOr
    (CoreError.spaceNotFound ⟨key, record.space⟩)
  match position.validateForFrame descriptor.localFrame with
  | .error error => throw (CoreError.invalidEntityPosition error)
  | .ok _ => pure ()
  let cell ← spatialCellFor position descriptor record.spaceEpoch
  withSession key fun session => session.moveToCell entity cell
  withEntity key entity fun record => { record with position := some position }

/-- `remove_entity`. -/
def removeEntity (connection : ConnectionId) (key : SessionKey) (entity : EntityId) :
    CoreM CleanupSummary := do
  validateConnectionId connection
  validateSessionKey key
  requireNonzero entity.get .entity
  let core ← get
  let _ ← core.authenticatedPrincipal connection
  core.requireMembership connection key
  let record ← ((core.sessions[key]?).bind fun session => session.entities[entity]?).okOr
    (CoreError.entityNotFound entity)
  if record.ownerConnection ≠ connection then
    throw (CoreError.entityNotOwned entity)
  let (summary, core) := core.removeEntitiesAndAnchoredSpaces key (ExtTreeSet.ofList [entity])
  set core
  return summary

/-- Whether a key over a space, an epoch and an entity belongs to the place an entity leaves. -/
def EntityTransitionRequest.leaves (request : EntityTransitionRequest) (space : SpaceId)
    (epoch : SpaceEpoch) (entity : Option EntityId) : Bool :=
  space == request.sourceSpace && epoch == request.sourceEpoch && entity == some request.entity

/-- What `transition_entity` does to the record of the entity. -/
def EntityTransitionRequest.place (request : EntityTransitionRequest) (record : EntityRecord) :
    EntityRecord :=
  { record with
    space := request.destinationSpace
    spaceEpoch := request.destinationEpoch
    position := none }

/-- What `transition_entity` takes from the state and sequence tables. -/
def SessionState.leaveBehind (session : SessionState) (request : EntityTransitionRequest) :
    SessionState :=
  let session := { session with
    state := session.state.filter fun key _ =>
      !request.leaves key.space key.spaceEpoch key.entity }
  let session := session.recomputeStateBytes
  { session with
    sequences := session.sequences.filter fun key _ =>
      !request.leaves key.space key.spaceEpoch key.entity }

/-- Whether `transition_entity` discards a queued message. -/
def OutboundMessage.leftBehind (message : OutboundMessage) (request : EntityTransitionRequest) :
    Bool :=
  message.inSession request.session &&
    request.leaves message.space message.spaceEpoch message.entity

/-- The checks of `transition_entity`, in its order. -/
def WovenCore.checkTransition (core : WovenCore) (request : EntityTransitionRequest) :
    Except CoreError Unit := do
  validateConnectionId request.connection
  validateSessionKey request.session
  requireNonzero request.entity.get .entity
  requireNonzero request.sourceSpace.get .space
  requireNonzero request.sourceEpoch.get .spaceEpoch
  requireNonzero request.destinationSpace.get .space
  requireNonzero request.destinationEpoch.get .spaceEpoch
  let principal ← core.authenticatedPrincipal request.connection
  requireNamespaceWrite principal request.session.namespaceId
  requireSessionWrite principal request.session
  requireSpaceWrite principal ⟨request.session, request.sourceSpace⟩
  requireSpaceWrite principal ⟨request.session, request.destinationSpace⟩
  core.requireMembership request.connection request.session
  core.requireSubscription request.connection ⟨request.session, request.sourceSpace⟩
  core.requireSubscription request.connection ⟨request.session, request.destinationSpace⟩
  let session ← (core.sessions[request.session]?).okOr (.sessionNotFound request.session)
  let source ← (session.spaces[request.sourceSpace]?).okOr
    (.spaceNotFound ⟨request.session, request.sourceSpace⟩)
  if source.epoch ≠ request.sourceEpoch then
    throw (.spaceEpochMismatch source.epoch request.sourceEpoch)
  let destination ← (session.spaces[request.destinationSpace]?).okOr
    (.spaceNotFound ⟨request.session, request.destinationSpace⟩)
  if destination.epoch ≠ request.destinationEpoch then
    throw (.spaceEpochMismatch destination.epoch request.destinationEpoch)
  let record ← (session.entities[request.entity]?).okOr (.entityNotFound request.entity)
  if record.ownerConnection ≠ request.connection then
    throw (.entityNotOwned request.entity)
  if record.space ≠ request.sourceSpace ∨ record.spaceEpoch ≠ request.sourceEpoch then
    throw (.entitySpaceMismatch request.entity)

/-- `transition_entity`. -/
def transitionEntity (request : EntityTransitionRequest) : CoreM EntityTransition := do
  let core ← get
  core.checkTransition request
  let transition : EntityTransition :=
    { entity := request.entity
      session := request.session
      sourceSpace := request.sourceSpace
      sourceEpoch := request.sourceEpoch
      destinationSpace := request.destinationSpace
      destinationEpoch := request.destinationEpoch }
  if request.sourceSpace = request.destinationSpace ∧
      request.sourceEpoch = request.destinationEpoch then
    return transition
  withSession request.session fun session => session.removeEntityFromCell request.entity
  withEntity request.session request.entity request.place
  modify fun core =>
    (core.modifySession request.session fun session =>
      session.leaveBehind request).mapConnections fun _ state =>
        state.purgeOutbound fun message => message.leftBehind request
  return transition

end Signalweave
