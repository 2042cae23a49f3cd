import Signalweave.Ids
import Signalweave.Library.Stateful

/-!
# Messages, spaces and positions

The data types of `model.rs` with their validation. An `f64` is read exactly: a finite value is
the rational number it denotes, and every comparison and quotient below is taken between
rationals.
-/

open Std

namespace Signalweave

/-- An `f64`: a finite value is a rational, infinities and NaN are told apart from it only. -/
inductive F64 where
  | finite (value : ℚ)
  | nonFinite
  deriving DecidableEq

/-- `f64::is_finite`. -/
def F64.isFinite : F64 → Bool
  | .finite _ => true
  | .nonFinite => false

/-- How a message is to be delivered. -/
inductive DeliveryClass where
  | reliableOrdered
  | reliableUnordered
  | latestValue
  | unreliableSequenced
  | bestEffortEvent
  deriving DecidableEq

/-- The reliable classes. -/
def DeliveryClass.isCritical : DeliveryClass → Bool
  | .reliableOrdered | .reliableUnordered => true
  | _ => false

/-- The classes of which only the latest value counts. -/
def DeliveryClass.isReplaceable : DeliveryClass → Bool
  | .latestValue | .unreliableSequenced => true
  | _ => false

/-- Whether a message is forgotten, stored as state, or journaled. -/
inductive PersistenceClass where
  | ephemeral
  | stateful
  | durable
  deriving DecidableEq

/-- Where the positions of a space are measured from. -/
inductive CoordinateFrame where
  | logical
  | cartesian2D (metersPerUnit : F64)
  | cartesian3D (metersPerUnit : F64)
  deriving DecidableEq

/-- A position of two or three dimensions. -/
inductive EntityPosition where
  | cartesian2D (x y : F64)
  | cartesian3D (x y z : F64)
  deriving DecidableEq

/-- Why a position is refused. -/
inductive PositionValidationError where
  | logicalFrame
  | dimensionMismatch
  | nonFiniteCoordinate
  deriving DecidableEq

/-- Every coordinate is finite. -/
def EntityPosition.isFinite : EntityPosition → Bool
  | .cartesian2D x y => x.isFinite && y.isFinite
  | .cartesian3D x y z => x.isFinite && y.isFinite && z.isFinite

/-- `EntityPosition::validate_for_frame`: a logical frame is refused before the dimensions are
compared. -/
def EntityPosition.validateForFrame (position : EntityPosition) (frame : CoordinateFrame) :
    Except PositionValidationError Unit :=
  match position, frame with
  | _, .logical => .error .logicalFrame
  | .cartesian2D .., .cartesian3D _ | .cartesian3D .., .cartesian2D _ => .error .dimensionMismatch
  | position, _ => if position.isFinite then .ok () else .error .nonFiniteCoordinate

/-- What a nested space hangs on: an entity in a space of the same session. -/
structure ParentAnchor where
  parentSpace : SpaceId
  anchorEntity : EntityId
  deriving DecidableEq

/-- Whom a message in a space reaches. -/
inductive RoutingPolicy where
  | broadcastAll
  | spatialGrid2D (cellSize interestRadius : F64) (exactDistance : Bool)
  | spatialGrid3D (cellSize interestRadius : F64) (exactDistance : Bool)
  | topicOnly
  deriving DecidableEq

/-- A space as it is installed. -/
structure SpaceDescriptor where
  id : SpaceId
  localFrame : CoordinateFrame
  parent : Option ParentAnchor
  epoch : SpaceEpoch
  routing : RoutingPolicy
  deriving DecidableEq

/-- Why a space is refused. -/
inductive SpaceValidationError where
  | zeroSpaceId
  | zeroEpoch
  | zeroParentSpaceId
  | zeroAnchorEntityId
  | selfParent
  | invalidScale
  | routingDimensionMismatch
  deriving DecidableEq

/-- A length has to be finite and above zero. -/
def validatePositiveFinite : F64 → Except SpaceValidationError Unit
  | .finite value => if 0 < value then .ok () else .error .invalidScale
  | .nonFinite => .error .invalidScale

/-- The `parent` block of `SpaceDescriptor::validate`. -/
def SpaceDescriptor.validateParent (descriptor : SpaceDescriptor) :
    Except SpaceValidationError Unit :=
  match descriptor.parent with
  | none => .ok ()
  | some parent =>
    if parent.parentSpace.get = 0 then .error .zeroParentSpaceId
    else if parent.anchorEntity.get = 0 then .error .zeroAnchorEntityId
    else if parent.parentSpace = descriptor.id then .error .selfParent
    else .ok ()

/-- The `local_frame` block of `SpaceDescriptor::validate`. -/
def SpaceDescriptor.validateFrame (descriptor : SpaceDescriptor) :
    Except SpaceValidationError Unit :=
  match descriptor.localFrame with
  | .logical => .ok ()
  | .cartesian2D metersPerUnit | .cartesian3D metersPerUnit => validatePositiveFinite metersPerUnit

/-- The `routing` block of `SpaceDescriptor::validate`. -/
def SpaceDescriptor.validateRouting (descriptor : SpaceDescriptor) :
    Except SpaceValidationError Unit :=
  match descriptor.routing, descriptor.localFrame with
  | .broadcastAll, _ | .topicOnly, _ => .ok ()
  | .spatialGrid2D cellSize interestRadius _, .cartesian2D _
  | .spatialGrid3D cellSize interestRadius _, .cartesian3D _ => do
    validatePositiveFinite cellSize
    validatePositiveFinite interestRadius
  | .spatialGrid2D .., _ | .spatialGrid3D .., _ => .error .routingDimensionMismatch

/-- `SpaceDescriptor::validate`: its ids, its parent, its scale and its routing policy. -/
def SpaceDescriptor.validate (descriptor : SpaceDescriptor) :
    Except SpaceValidationError Unit := do
  if descriptor.id.get = 0 then throw .zeroSpaceId
  if descriptor.epoch.get = 0 then throw .zeroEpoch
  descriptor.validateParent
  descriptor.validateFrame
  descriptor.validateRouting

/-- What a replaceable message is the latest value of, within its space. -/
structure CoalesceKey where
  channel : ChannelId
  entity : Option EntityId
  component : Nat
  deriving DecidableEq

/-- By channel, entity and component. -/
def CoalesceKey.cmp : CoalesceKey → CoalesceKey → Ordering :=
  compareLex (compareOn CoalesceKey.channel)
    (compareLex (compareOn CoalesceKey.entity) (compareOn CoalesceKey.component))

instance : Ord CoalesceKey := ⟨CoalesceKey.cmp⟩
instance : TransOrd CoalesceKey := inferInstanceAs (TransCmp (compareLex _ (compareLex _ _)))
instance : LawfulEqOrd CoalesceKey := LawfulEqCmp.lex (by
  rintro ⟨c, e, n⟩ ⟨c', e', n'⟩ h₁ h₂
  simp_all [compareOn, compareLex_eq_eq])

/-- What a replaceable message is the latest value of, over all sessions. -/
structure ScopedCoalesceKey where
  namespaceId : NamespaceId
  session : SessionId
  space : SpaceId
  spaceEpoch : SpaceEpoch
  application : CoalesceKey
  deriving DecidableEq

/-- By session, space, incarnation and key. -/
def ScopedCoalesceKey.cmp : ScopedCoalesceKey → ScopedCoalesceKey → Ordering :=
  compareLex (compareOn ScopedCoalesceKey.namespaceId)
    (compareLex (compareOn ScopedCoalesceKey.session)
      (compareLex (compareOn ScopedCoalesceKey.space)
        (compareLex (compareOn ScopedCoalesceKey.spaceEpoch)
          (compareOn ScopedCoalesceKey.application))))

instance : Ord ScopedCoalesceKey := ⟨ScopedCoalesceKey.cmp⟩
instance : TransOrd ScopedCoalesceKey :=
  inferInstanceAs (TransCmp (compareLex _ (compareLex _ (compareLex _ (compareLex _ _)))))
instance : LawfulEqOrd ScopedCoalesceKey := LawfulEqCmp.lex (by
  rintro ⟨n, s, p, e, a⟩ ⟨n', s', p', e', a'⟩ h₁ h₂
  simp_all [compareOn, compareLex_eq_eq])

/-- A message on its way to a recipient. -/
structure OutboundMessage where
  namespaceId : NamespaceId
  session : SessionId
  space : SpaceId
  spaceEpoch : SpaceEpoch
  entity : Option EntityId
  channel : ChannelId
  sequence : Nat
  delivery : DeliveryClass
  persistence : PersistenceClass
  coalesceKey : Option CoalesceKey
  payload : List UInt8
  deriving DecidableEq

namespace OutboundMessage

/-- The coalesce key of a message with the scope of the message. -/
def scopedCoalesceKey (message : OutboundMessage) : Option ScopedCoalesceKey :=
  message.coalesceKey.map fun application =>
    { namespaceId := message.namespaceId
      session := message.session
      space := message.space
      spaceEpoch := message.spaceEpoch
      application := application }

/-- The session a message is addressed to. -/
def sessionKey (message : OutboundMessage) : SessionKey :=
  ⟨message.namespaceId, message.session⟩

end OutboundMessage

end Signalweave
