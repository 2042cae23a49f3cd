import Signalweave.Core.Snapshot
import Signalweave.Library.Rendering

/-!
# What the core looks like in a text

The `Debug` texts of errors and of snapshots. The text of an error is short; that of a snapshot
grows with the session, by every byte of stored state. The decimals of an `f64` are the work of the
standard library and a parameter here.
-/

open Std

namespace Signalweave

open Rendering

/-! ## Identifiers -/

/-- The name of the newtype of an identifier. -/
def IdTag.debug : IdTag → String
  | .namespaceId => "NamespaceId"
  | .session => "SessionId"
  | .space => "SpaceId"
  | .entity => "EntityId"
  | .connection => "ConnectionId"
  | .principal => "PrincipalId"
  | .channel => "ChannelId"
  | .spaceEpoch => "SpaceEpoch"
  | .node => "NodeId"

/-- `#[derive(Debug)]` of a newtype. -/
def TypedId.debug {tag : IdTag} (id : TypedId tag) : String := tuple tag.debug [number id.get]

/-- `#[derive(Debug)]` of `SessionKey`. -/
def SessionKey.debug (key : SessionKey) : String :=
  record "SessionKey" [("namespace", key.namespaceId.debug), ("session", key.session.debug)]

/-- `#[derive(Debug)]` of `SpaceKey`. -/
def SpaceKey.debug (key : SpaceKey) : String :=
  record "SpaceKey" [("session", key.session.debug), ("space", key.space.debug)]

/-- `#[derive(Debug)]` of `ChannelScope`. -/
def ChannelScope.debug (scope : ChannelScope) : String :=
  record "ChannelScope" [("session", scope.session.debug), ("channel", scope.channel.debug)]

/-- `#[derive(Debug)]` of `IdKind`. -/
def IdKind.debug : IdKind → String
  | .namespaceId => "Namespace"
  | .session => "Session"
  | .space => "Space"
  | .entity => "Entity"
  | .connection => "Connection"
  | .principal => "Principal"
  | .channel => "Channel"
  | .spaceEpoch => "SpaceEpoch"

/-! ## Errors -/

/-- `#[derive(Debug)]` of `DeliveryClass`. -/
def DeliveryClass.debug : DeliveryClass → String
  | .reliableOrdered => "ReliableOrdered"
  | .reliableUnordered => "ReliableUnordered"
  | .latestValue => "LatestValue"
  | .unreliableSequenced => "UnreliableSequenced"
  | .bestEffortEvent => "BestEffortEvent"

/-- `#[derive(Debug)]` of `PersistenceClass`. -/
def PersistenceClass.debug : PersistenceClass → String
  | .ephemeral => "Ephemeral"
  | .stateful => "Stateful"
  | .durable => "Durable"

/-- `#[derive(Debug)]` of `QueueConfigError`. -/
def QueueConfigError.debug : QueueConfigError → String
  | .zeroTotalCapacity => "ZeroTotalCapacity"
  | .zeroCriticalCapacity => "ZeroCriticalCapacity"
  | .classCapacityExceedsTotal => "ClassCapacityExceedsTotal"

/-- `#[derive(Debug)]` of `AuthError`. -/
def AuthError.debug : AuthError → String
  | .invalidCredentials => "InvalidCredentials"

/-- `#[derive(Debug)]` of `AuthorityRejection`. -/
def AuthorityRejection.debug : AuthorityRejection → String
  | .authenticationRequired => "AuthenticationRequired"
  | .sessionMembershipRequired => "SessionMembershipRequired"
  | .spaceSubscriptionRequired => "SpaceSubscriptionRequired"
  | .entityRequired => "EntityRequired"
  | .entityNotOwned => "EntityNotOwned"
  | .policyDenied => "PolicyDenied"

/-- An order that is out of step with its messages is no error of the source, which panics. -/
def QueueError.debug : QueueError → String
  | .missingCoalesceKey => "MissingCoalesceKey"
  | .latestOrderDesynchronized => "LatestOrderDesynchronized"

/-- `#[derive(Debug)]` of `SpaceValidationError`. -/
def SpaceValidationError.debug : SpaceValidationError → String
  | .zeroSpaceId => "ZeroSpaceId"
  | .zeroEpoch => "ZeroEpoch"
  | .zeroParentSpaceId => "ZeroParentSpaceId"
  | .zeroAnchorEntityId => "ZeroAnchorEntityId"
  | .selfParent => "SelfParent"
  | .invalidScale => "InvalidScale"
  | .routingDimensionMismatch => "RoutingDimensionMismatch"

/-- `#[derive(Debug)]` of `PositionValidationError`. -/
def PositionValidationError.debug : PositionValidationError → String
  | .logicalFrame => "LogicalFrame"
  | .dimensionMismatch => "DimensionMismatch"
  | .nonFiniteCoordinate => "NonFiniteCoordinate"

/-- `#[derive(Debug)]` of `CoreError`. -/
def CoreError.debug : CoreError → String
  | .invalidConfiguration => "InvalidConfiguration"
  | .invalidQueueConfig error => tuple "InvalidQueueConfig" [error.debug]
  | .reservedZeroId kind => tuple "ReservedZeroId" [kind.debug]
  | .authenticationFailed error => tuple "AuthenticationFailed" [error.debug]
  | .authenticationRequired => "AuthenticationRequired"
  | .alreadyAuthenticated => "AlreadyAuthenticated"
  | .unknownConnection connection => tuple "UnknownConnection" [connection.debug]
  | .connectionLimitReached => "ConnectionLimitReached"
  | .namespaceReadAccessDenied id => tuple "NamespaceReadAccessDenied" [id.debug]
  | .namespaceWriteAccessDenied id => tuple "NamespaceWriteAccessDenied" [id.debug]
  | .sessionReadAccessDenied session => tuple "SessionReadAccessDenied" [session.debug]
  | .sessionWriteAccessDenied session => tuple "SessionWriteAccessDenied" [session.debug]
  | .spaceReadAccessDenied space => tuple "SpaceReadAccessDenied" [space.debug]
  | .spaceWriteAccessDenied space => tuple "SpaceWriteAccessDenied" [space.debug]
  | .channelWriteAccessDenied channel => tuple "ChannelWriteAccessDenied" [channel.debug]
  | .unknownChannel channel => tuple "UnknownChannel" [channel.debug]
  | .channelAlreadyRegistered channel => tuple "ChannelAlreadyRegistered" [channel.debug]
  | .channelLimitReached => "ChannelLimitReached"
  | .invalidChannelLimit channel => tuple "InvalidChannelLimit" [channel.debug]
  | .channelPolicyMismatch channel expectedDelivery receivedDelivery expectedPersistence
      receivedPersistence =>
    record "ChannelPolicyMismatch" [("channel", channel.debug),
      ("expected_delivery", expectedDelivery.debug), ("received_delivery", receivedDelivery.debug),
      ("expected_persistence", expectedPersistence.debug),
      ("received_persistence", receivedPersistence.debug)]
  | .sessionNotFound session => tuple "SessionNotFound" [session.debug]
  | .sessionAlreadyProvisioned session => tuple "SessionAlreadyProvisioned" [session.debug]
  | .sessionLimitReached => "SessionLimitReached"
  | .sessionMembershipRequired session => tuple "SessionMembershipRequired" [session.debug]
  | .membershipLimitReached => "MembershipLimitReached"
  | .spaceNotFound space => tuple "SpaceNotFound" [space.debug]
  | .spaceAlreadyExists space => tuple "SpaceAlreadyExists" [space.debug]
  | .spaceLimitReached => "SpaceLimitReached"
  | .spaceIdHistoryLimitReached => "SpaceIdHistoryLimitReached"
  | .invalidSpace error => tuple "InvalidSpace" [error.debug]
  | .parentSpaceNotFound space => tuple "ParentSpaceNotFound" [space.debug]
  | .parentAnchorNotFound entity => tuple "ParentAnchorNotFound" [entity.debug]
  | .parentAnchorInWrongSpace entity expected =>
    record "ParentAnchorInWrongSpace" [("entity", entity.debug), ("expected", expected.debug)]
  | .epochDidNotAdvance current proposed =>
    record "EpochDidNotAdvance" [("current", current.debug), ("proposed", proposed.debug)]
  | .spaceEpochMismatch expected received =>
    record "SpaceEpochMismatch" [("expected", expected.debug), ("received", received.debug)]
  | .subscriptionRequired space => tuple "SubscriptionRequired" [space.debug]
  | .subscriptionLimitReached => "SubscriptionLimitReached"
  | .entityLimitReached => "EntityLimitReached"
  | .ownedEntityLimitReached => "OwnedEntityLimitReached"
  | .entityNotFound entity => tuple "EntityNotFound" [entity.debug]
  | .entityNotOwned entity => tuple "EntityNotOwned" [entity.debug]
  | .entitySpaceMismatch entity => tuple "EntitySpaceMismatch" [entity.debug]
  | .invalidEntityPosition error => tuple "InvalidEntityPosition" [error.debug]
  | .spatialCellOutOfRange => "SpatialCellOutOfRange"
  | .stateEntryLimitReached => "StateEntryLimitReached"
  | .stateByteLimitReached => "StateByteLimitReached"
  | .sequenceKeyLimitReached => "SequenceKeyLimitReached"
  | .payloadTooLarge actual limit =>
    record "PayloadTooLarge" [("actual", number actual), ("limit", number limit)]
  | .missingCoalesceKey => "MissingCoalesceKey"
  | .invalidCoalesceKey => "InvalidCoalesceKey"
  | .staleSequence received last =>
    record "StaleSequence" [("received", number received), ("last", number last)]
  | .publishRateLimited retryAfter =>
    record "PublishRateLimited" [("retry_after", duration retryAfter)]
  | .rateLimitClockRegressed => "RateLimitClockRegressed"
  | .authorityRejected reason => tuple "AuthorityRejected" [reason.debug]
  | .authorityEmissionLimitExceeded => "AuthorityEmissionLimitExceeded"
  | .journalOutboxSaturated => "JournalOutboxSaturated"
  | .idExhausted => "IdExhausted"
  | .admissionAlreadyConfigured session => tuple "AdmissionAlreadyConfigured" [session.debug]
  | .admissionLeaseRequired session => tuple "AdmissionLeaseRequired" [session.debug]
  | .invalidAdmissionLease session => tuple "InvalidAdmissionLease" [session.debug]
  | .queue error => tuple "Queue" [error.debug]

/-! ## Snapshots -/

section Snapshots

variable (float : F64 → String)

/-- `#[derive(Debug)]` of `CoordinateFrame`. -/
def CoordinateFrame.debug : CoordinateFrame → String
  | .logical => "Logical"
  | .cartesian2D metersPerUnit =>
    record "Cartesian2D" [("meters_per_unit", float metersPerUnit)]
  | .cartesian3D metersPerUnit =>
    record "Cartesian3D" [("meters_per_unit", float metersPerUnit)]

/-- `#[derive(Debug)]` of `ParentAnchor`. -/
def ParentAnchor.debug (anchor : ParentAnchor) : String :=
  record "ParentAnchor" [("parent_space", anchor.parentSpace.debug),
    ("anchor_entity", anchor.anchorEntity.debug)]

/-- `#[derive(Debug)]` of `RoutingPolicy`. -/
def RoutingPolicy.debug : RoutingPolicy → String
  | .broadcastAll => "BroadcastAll"
  | .spatialGrid2D cellSize interestRadius exactDistance =>
    record "SpatialGrid2D" [("cell_size", float cellSize),
      ("interest_radius", float interestRadius), ("exact_distance", toString exactDistance)]
  | .spatialGrid3D cellSize interestRadius exactDistance =>
    record "SpatialGrid3D" [("cell_size", float cellSize),
      ("interest_radius", float interestRadius), ("exact_distance", toString exactDistance)]
  | .topicOnly => "TopicOnly"

/-- `#[derive(Debug)]` of `SpaceDescriptor`. -/
def SpaceDescriptor.debug (descriptor : SpaceDescriptor) : String :=
  record "SpaceDescriptor" [("id", descriptor.id.debug),
    ("local_frame", descriptor.localFrame.debug float),
    ("parent", option (descriptor.parent.map ParentAnchor.debug)),
    ("epoch", descriptor.epoch.debug), ("routing", descriptor.routing.debug float)]

/-- `#[derive(Debug)]` of `SpaceSnapshot`. -/
def SpaceSnapshot.debug (space : SpaceSnapshot) : String :=
  record "SpaceSnapshot" [("descriptor", space.descriptor.debug float)]

/-- `#[derive(Debug)]` of `EntitySnapshot`. -/
def EntitySnapshot.debug (entity : EntitySnapshot) : String :=
  record "EntitySnapshot" [("id", entity.id.debug),
    ("owner_connection", entity.ownerConnection.debug),
    ("owner_principal", entity.ownerPrincipal.debug), ("space", entity.space.debug),
    ("space_epoch", entity.spaceEpoch.debug)]

/-- `#[derive(Debug)]` of `StateSnapshot`. -/
def StateSnapshot.debug (state : StateSnapshot) : String :=
  record "StateSnapshot" [("space", state.space.debug), ("space_epoch", state.spaceEpoch.debug),
    ("entity", option (state.entity.map TypedId.debug)), ("channel", state.channel.debug),
    ("component", number state.component), ("sequence", number state.sequence),
    ("payload", list (state.payload.map fun byte => number byte.toNat))]

/-- `#[derive(Debug)]` of `SessionSnapshot`. -/
def SessionSnapshot.debug (snapshot : SessionSnapshot) : String :=
  record "SessionSnapshot" [("key", snapshot.key.debug),
    ("member_count", number snapshot.memberCount),
    ("subscription_count", number snapshot.subscriptionCount),
    ("state_bytes", number snapshot.stateBytes),
    ("spaces", list (snapshot.spaces.map (SpaceSnapshot.debug float))),
    ("entities", list (snapshot.entities.map EntitySnapshot.debug)),
    ("state", list (snapshot.state.map StateSnapshot.debug))]

end Snapshots

/-! ## Their sizes -/

theorem TypedId.size_debug {tag : IdTag} (id : TypedId tag) :
    id.debug.utf8ByteSize = tag.debug.utf8ByteSize + 2 + digits id.get := by
  rw [debug, size_tuple, commasSize]
  simp

theorem SessionKey.size_debug (key : SessionKey) :
    key.debug.utf8ByteSize = 61 + digits key.namespaceId.get + digits key.session.get := by
  rw [debug, size_record]
  show 10 + 5 + commasSize [9 + 2 + key.namespaceId.debug.utf8ByteSize,
    7 + 2 + key.session.debug.utf8ByteSize] = _
  rw [TypedId.size_debug, TypedId.size_debug]
  show 10 + 5 + commasSize [9 + 2 + (11 + 2 + _), 7 + 2 + (9 + 2 + _)] = _
  simp only [commasSize, List.sum_cons, List.sum_nil, List.length_cons, List.length_nil]
  omega

section Sizes

variable (float : F64 → String)

/-- How long the text of a frame is, in bytes. -/
def CoordinateFrame.textSize : CoordinateFrame → ℕ
  | .logical => 7
  | .cartesian2D metersPerUnit | .cartesian3D metersPerUnit =>
    33 + (float metersPerUnit).utf8ByteSize

/-- How long the text of an anchor is, in bytes. -/
def ParentAnchor.textSize (anchor : ParentAnchor) : ℕ :=
  67 + digits anchor.parentSpace.get + digits anchor.anchorEntity.get

/-- How long the text of a policy is, in bytes. -/
def RoutingPolicy.textSize : RoutingPolicy → ℕ
  | .broadcastAll => 12
  | .spatialGrid2D cellSize interestRadius exactDistance
  | .spatialGrid3D cellSize interestRadius exactDistance =>
    66 + (float cellSize).utf8ByteSize + (float interestRadius).utf8ByteSize +
      if exactDistance then 4 else 5
  | .topicOnly => 9

/-- How long the text of a space is, in bytes. -/
def SpaceSnapshot.textSize (space : SpaceSnapshot) : ℕ :=
  let descriptor := space.descriptor
  120 + digits descriptor.id.get + descriptor.localFrame.textSize float +
    descriptor.parent.elim 4 (6 + ·.textSize) + digits descriptor.epoch.get +
    descriptor.routing.textSize float

/-- How long the text of an entity is, in bytes. -/
def EntitySnapshot.textSize (entity : EntitySnapshot) : ℕ :=
  144 + digits entity.id.get + digits entity.ownerConnection.get +
    digits entity.ownerPrincipal.get + digits entity.space.get + digits entity.spaceEpoch.get

/-- A byte of a payload takes a number and what stands before the next one. -/
def StateSnapshot.textSize (state : StateSnapshot) : ℕ :=
  131 + digits state.space.get + digits state.spaceEpoch.get +
    state.entity.elim 4 (16 + digits ·.get) + digits state.channel.get + digits state.component +
    digits state.sequence + commasSize (state.payload.map fun byte => digits byte.toNat)

/-- How long the text of a snapshot is, in bytes. -/
def SessionSnapshot.textSize (snapshot : SessionSnapshot) : ℕ :=
  176 + digits snapshot.key.namespaceId.get + digits snapshot.key.session.get +
    digits snapshot.memberCount + digits snapshot.subscriptionCount + digits snapshot.stateBytes +
    commasSize (snapshot.spaces.map (SpaceSnapshot.textSize float)) +
    commasSize (snapshot.entities.map EntitySnapshot.textSize) +
    commasSize (snapshot.state.map StateSnapshot.textSize)

theorem CoordinateFrame.size_debug (frame : CoordinateFrame) :
    (frame.debug float).utf8ByteSize = frame.textSize float := by
  cases frame with
  | logical => rfl
  | cartesian2D metersPerUnit =>
    rw [debug, size_record, textSize]
    show 11 + 5 + (15 + 2 + (float metersPerUnit).utf8ByteSize + 0 + 0) = _
    omega
  | cartesian3D metersPerUnit =>
    rw [debug, size_record, textSize]
    show 11 + 5 + (15 + 2 + (float metersPerUnit).utf8ByteSize + 0 + 0) = _
    omega

theorem ParentAnchor.size_debug (anchor : ParentAnchor) :
    anchor.debug.utf8ByteSize = anchor.textSize := by
  rw [debug, size_record]
  show 12 + 5 + commasSize [12 + 2 + anchor.parentSpace.debug.utf8ByteSize,
    13 + 2 + anchor.anchorEntity.debug.utf8ByteSize] = _
  rw [TypedId.size_debug, TypedId.size_debug]
  show 12 + 5 + commasSize [12 + 2 + (7 + 2 + _), 13 + 2 + (8 + 2 + _)] = _
  simp only [commasSize, List.sum_cons, List.sum_nil, List.length_cons, List.length_nil, textSize]
  omega

theorem size_bool (b : Bool) : (toString b).utf8ByteSize = if b then 4 else 5 := by
  cases b <;> rfl

theorem RoutingPolicy.size_debug (routing : RoutingPolicy) :
    (routing.debug float).utf8ByteSize = routing.textSize float := by
  have hgrid : ∀ (cellSize interestRadius : F64) (exactDistance : Bool),
      13 + 5 + commasSize [9 + 2 + (float cellSize).utf8ByteSize,
        15 + 2 + (float interestRadius).utf8ByteSize,
        14 + 2 + (toString exactDistance).utf8ByteSize] =
      66 + (float cellSize).utf8ByteSize + (float interestRadius).utf8ByteSize +
        if exactDistance then 4 else 5 := by
    intro cellSize interestRadius exactDistance
    rw [size_bool]
    simp only [commasSize, List.sum_cons, List.sum_nil, List.length_cons, List.length_nil]
    omega
  cases routing with
  | broadcastAll => rfl
  | topicOnly => rfl
  | spatialGrid2D cellSize interestRadius exactDistance =>
    rw [debug, size_record, textSize]
    exact hgrid cellSize interestRadius exactDistance
  | spatialGrid3D cellSize interestRadius exactDistance =>
    rw [debug, size_record, textSize]
    exact hgrid cellSize interestRadius exactDistance

theorem SpaceDescriptor.size_parent (parent : Option ParentAnchor) :
    (option (parent.map ParentAnchor.debug)).utf8ByteSize = parent.elim 4 (6 + ·.textSize) := by
  cases parent with
  | none => rfl
  | some anchor =>
    rw [Option.map_some, size_option_some, ParentAnchor.size_debug]
    rfl

theorem SpaceSnapshot.size_debug (space : SpaceSnapshot) :
    (space.debug float).utf8ByteSize = space.textSize float := by
  rw [debug, size_record]
  show 13 + 5 + (10 + 2 + (space.descriptor.debug float).utf8ByteSize + 0 + 0) = _
  rw [SpaceDescriptor.debug, size_record]
  show 13 + 5 + (10 + 2 + (15 + 5 + commasSize [2 + 2 + space.descriptor.id.debug.utf8ByteSize,
    11 + 2 + (space.descriptor.localFrame.debug float).utf8ByteSize,
    6 + 2 + (option (space.descriptor.parent.map ParentAnchor.debug)).utf8ByteSize,
    5 + 2 + space.descriptor.epoch.debug.utf8ByteSize,
    7 + 2 + (space.descriptor.routing.debug float).utf8ByteSize]) + 0 + 0) = _
  rw [TypedId.size_debug, TypedId.size_debug, CoordinateFrame.size_debug, RoutingPolicy.size_debug,
    SpaceDescriptor.size_parent, textSize]
  show 13 + 5 + (10 + 2 + (15 + 5 + commasSize [2 + 2 + (7 + 2 + _), 11 + 2 + _, 6 + 2 + _,
    5 + 2 + (10 + 2 + _), 7 + 2 + _]) + 0 + 0) = _
  simp only [commasSize, List.sum_cons, List.sum_nil, List.length_cons, List.length_nil]
  omega

theorem EntitySnapshot.size_debug (entity : EntitySnapshot) :
    entity.debug.utf8ByteSize = entity.textSize := by
  rw [debug, size_record]
  show 14 + 5 + commasSize [2 + 2 + entity.id.debug.utf8ByteSize,
    16 + 2 + entity.ownerConnection.debug.utf8ByteSize,
    15 + 2 + entity.ownerPrincipal.debug.utf8ByteSize, 5 + 2 + entity.space.debug.utf8ByteSize,
    11 + 2 + entity.spaceEpoch.debug.utf8ByteSize] = _
  simp only [TypedId.size_debug]
  show 14 + 5 + commasSize [2 + 2 + (8 + 2 + _), 16 + 2 + (12 + 2 + _), 15 + 2 + (11 + 2 + _),
    5 + 2 + (7 + 2 + _), 11 + 2 + (10 + 2 + _)] = _
  simp only [commasSize, List.sum_cons, List.sum_nil, List.length_cons, List.length_nil, textSize]
  omega

theorem StateSnapshot.size_entity (entity : Option EntityId) :
    (option (entity.map TypedId.debug)).utf8ByteSize = entity.elim 4 (16 + digits ·.get) := by
  cases entity with
  | none => rfl
  | some id =>
    rw [Option.map_some, size_option_some, TypedId.size_debug]
    show 6 + (8 + 2 + _) = 16 + _
    omega

theorem StateSnapshot.size_debug (state : StateSnapshot) :
    state.debug.utf8ByteSize = state.textSize := by
  have hpayload : (list (state.payload.map fun byte => number byte.toNat)).utf8ByteSize =
      2 + commasSize (state.payload.map fun byte => digits byte.toNat) := by
    rw [size_list, List.map_map]
    simp only [Function.comp_def, size_number]
  rw [debug, size_record]
  show 13 + 5 + commasSize [5 + 2 + state.space.debug.utf8ByteSize,
    11 + 2 + state.spaceEpoch.debug.utf8ByteSize,
    6 + 2 + (option (state.entity.map TypedId.debug)).utf8ByteSize,
    7 + 2 + state.channel.debug.utf8ByteSize, 9 + 2 + (number state.component).utf8ByteSize,
    8 + 2 + (number state.sequence).utf8ByteSize,
    7 + 2 + (list (state.payload.map fun byte => number byte.toNat)).utf8ByteSize] = _
  rw [hpayload, StateSnapshot.size_entity]
  simp only [TypedId.size_debug, size_number]
  show 13 + 5 + commasSize [5 + 2 + (7 + 2 + _), 11 + 2 + (10 + 2 + _), 6 + 2 + _,
    7 + 2 + (9 + 2 + _), 9 + 2 + _, 8 + 2 + _, 7 + 2 + (2 + _)] = _
  simp only [commasSize, List.sum_cons, List.sum_nil, List.length_cons, List.length_nil, textSize]
  omega

theorem SessionSnapshot.size_debug (snapshot : SessionSnapshot) :
    (snapshot.debug float).utf8ByteSize = snapshot.textSize float := by
  have hspaces : (list (snapshot.spaces.map (SpaceSnapshot.debug float))).utf8ByteSize =
      2 + commasSize (snapshot.spaces.map (SpaceSnapshot.textSize float)) := by
    rw [size_list, List.map_map]
    simp only [Function.comp_def, SpaceSnapshot.size_debug]
  have hentities : (list (snapshot.entities.map EntitySnapshot.debug)).utf8ByteSize =
      2 + commasSize (snapshot.entities.map EntitySnapshot.textSize) := by
    rw [size_list, List.map_map]
    simp only [Function.comp_def, EntitySnapshot.size_debug]
  have hstate : (list (snapshot.state.map StateSnapshot.debug)).utf8ByteSize =
      2 + commasSize (snapshot.state.map StateSnapshot.textSize) := by
    rw [size_list, List.map_map]
    simp only [Function.comp_def, StateSnapshot.size_debug]
  rw [debug, size_record]
  show 15 + 5 + commasSize [3 + 2 + snapshot.key.debug.utf8ByteSize,
    12 + 2 + (number snapshot.memberCount).utf8ByteSize,
    18 + 2 + (number snapshot.subscriptionCount).utf8ByteSize,
    11 + 2 + (number snapshot.stateBytes).utf8ByteSize,
    6 + 2 + (list (snapshot.spaces.map (SpaceSnapshot.debug float))).utf8ByteSize,
    8 + 2 + (list (snapshot.entities.map EntitySnapshot.debug)).utf8ByteSize,
    5 + 2 + (list (snapshot.state.map StateSnapshot.debug)).utf8ByteSize] = _
  rw [hspaces, hentities, hstate, SessionKey.size_debug, size_number, size_number, size_number,
    textSize]
  simp only [commasSize, List.sum_cons, List.sum_nil, List.length_cons, List.length_nil]
  omega

theorem StateSnapshot.le_textSize (state : StateSnapshot) :
    3 * state.payload.length ≤ state.textSize := by
  have hdigits : ∀ bytes : List UInt8,
      bytes.length ≤ (bytes.map fun byte => digits byte.toNat).sum := by
    intro bytes
    induction bytes with
    | nil => exact Nat.le_refl 0
    | cons byte rest ih =>
      have hpos := digits_pos byte.toNat
      simp only [List.length_cons, List.map_cons, List.sum_cons]
      omega
  have hpayload := hdigits state.payload
  simp only [textSize, commasSize, List.length_map]
  omega

/-- A text has three bytes for each byte of state, at least. -/
theorem SessionSnapshot.le_textSize (snapshot : SessionSnapshot) :
    3 * (snapshot.state.map fun state => state.payload.length).sum ≤ snapshot.textSize float := by
  have hstate : (snapshot.state.map fun state => 3 * state.payload.length).sum ≤
      (snapshot.state.map StateSnapshot.textSize).sum :=
    List.sum_le_sum fun state _ => state.le_textSize
  rw [List.sum_map_mul_left] at hstate
  simp only [textSize, commasSize]
  omega

end Sizes

/-! ## Errors are short -/

theorem TypedId.size_debug_le {tag : IdTag} (id : TypedId tag) : id.debug.utf8ByteSize ≤ 101 := by
  have hdigits := digits_le id.get
  have htag : tag.debug.utf8ByteSize ≤ 12 := by cases tag <;> decide
  rw [size_debug]
  omega

theorem SessionKey.size_debug_le (key : SessionKey) : key.debug.utf8ByteSize ≤ 101 := by
  have hnamespace := digits_le key.namespaceId.get
  have hsession := digits_le key.session.get
  rw [size_debug]
  omega

theorem size_number_le (n : ℕ) : (number n).utf8ByteSize ≤ 101 := by
  rw [size_number]
  exact (digits_le n).trans (by decide)

theorem size_tuple_le {name text : String} (hname : name.utf8ByteSize ≤ 32)
    (htext : text.utf8ByteSize ≤ 400) : (tuple name [text]).utf8ByteSize ≤ 512 := by
  rw [size_tuple]
  simp only [commasSize, List.map_cons, List.map_nil, List.sum_cons, List.sum_nil,
    List.length_cons, List.length_nil]
  omega

theorem size_pair_le {name first second firstText secondText : String}
    (hname : name.utf8ByteSize ≤ 32) (hfirst : first.utf8ByteSize ≤ 32)
    (hsecond : second.utf8ByteSize ≤ 32) (hfirstText : firstText.utf8ByteSize ≤ 101)
    (hsecondText : secondText.utf8ByteSize ≤ 101) :
    (record name [(first, firstText), (second, secondText)]).utf8ByteSize ≤ 400 := by
  rw [size_record]
  simp only [commasSize, List.map_cons, List.map_nil, List.sum_cons, List.sum_nil,
    List.length_cons, List.length_nil]
  omega

theorem SpaceKey.size_debug_le (key : SpaceKey) : key.debug.utf8ByteSize ≤ 400 :=
  size_pair_le (by decide) (by decide) (by decide) key.session.size_debug_le key.space.size_debug_le

theorem ChannelScope.size_debug_le (scope : ChannelScope) : scope.debug.utf8ByteSize ≤ 400 :=
  size_pair_le (by decide) (by decide) (by decide) scope.session.size_debug_le
    scope.channel.size_debug_le

theorem size_channelPolicyMismatch_le (channel : ChannelId)
    (expectedDelivery receivedDelivery : DeliveryClass)
    (expectedPersistence receivedPersistence : PersistenceClass) :
    (CoreError.channelPolicyMismatch channel expectedDelivery receivedDelivery expectedPersistence
      receivedPersistence).debug.utf8ByteSize ≤ 512 := by
  have hdelivery : ∀ delivery : DeliveryClass, delivery.debug.utf8ByteSize ≤ 19 := by
    intro delivery
    cases delivery <;> decide
  have hpersistence : ∀ persistence : PersistenceClass, persistence.debug.utf8ByteSize ≤ 9 := by
    intro persistence
    cases persistence <;> decide
  have hchannel := channel.size_debug_le
  have hexpected := hdelivery expectedDelivery
  have hreceived := hdelivery receivedDelivery
  have hexpected' := hpersistence expectedPersistence
  have hreceived' := hpersistence receivedPersistence
  rw [CoreError.debug, size_record]
  show 21 + 5 + commasSize [7 + 2 + channel.debug.utf8ByteSize,
    17 + 2 + expectedDelivery.debug.utf8ByteSize, 17 + 2 + receivedDelivery.debug.utf8ByteSize,
    20 + 2 + expectedPersistence.debug.utf8ByteSize,
    20 + 2 + receivedPersistence.debug.utf8ByteSize] ≤ 512
  simp only [commasSize, List.sum_cons, List.sum_nil, List.length_cons, List.length_nil]
  omega

theorem size_publishRateLimited_le (retryAfter : Duration) :
    (CoreError.publishRateLimited retryAfter).debug.utf8ByteSize ≤ 512 := by
  have hduration := size_duration_le retryAfter
  rw [CoreError.debug, size_record]
  show 18 + 5 + (11 + 2 + (duration retryAfter).utf8ByteSize + 0 + 0) ≤ 512
  omega

theorem CoreError.size_debug_le (error : CoreError) : error.debug.utf8ByteSize ≤ 512 := by
  have hid : ∀ {tag : IdTag} (id : TypedId tag), id.debug.utf8ByteSize ≤ 400 := fun id =>
    id.size_debug_le.trans (by decide)
  have hsession : ∀ key : SessionKey, key.debug.utf8ByteSize ≤ 400 := fun key =>
    key.size_debug_le.trans (by decide)
  cases error
  case channelPolicyMismatch => exact size_channelPolicyMismatch_le ..
  case publishRateLimited retryAfter => exact size_publishRateLimited_le retryAfter
  case invalidQueueConfig error =>
    exact size_tuple_le (by decide) (by cases error <;> decide)
  case reservedZeroId kind => exact size_tuple_le (by decide) (by cases kind <;> decide)
  case authenticationFailed error =>
    exact size_tuple_le (by decide) (by cases error; decide)
  case invalidSpace error => exact size_tuple_le (by decide) (by cases error <;> decide)
  case invalidEntityPosition error => exact size_tuple_le (by decide) (by cases error <;> decide)
  case authorityRejected reason => exact size_tuple_le (by decide) (by cases reason <;> decide)
  case queue error => exact size_tuple_le (by decide) (by cases error <;> decide)
  case payloadTooLarge actual limit =>
    exact (size_pair_le (by decide) (by decide) (by decide) (size_number_le _)
      (size_number_le _)).trans (by decide)
  case staleSequence received last =>
    exact (size_pair_le (by decide) (by decide) (by decide) (size_number_le _)
      (size_number_le _)).trans (by decide)
  case parentAnchorInWrongSpace entity expected =>
    exact (size_pair_le (by decide) (by decide) (by decide) entity.size_debug_le
      expected.size_debug_le).trans (by decide)
  case epochDidNotAdvance current proposed =>
    exact (size_pair_le (by decide) (by decide) (by decide) current.size_debug_le
      proposed.size_debug_le).trans (by decide)
  case spaceEpochMismatch expected received =>
    exact (size_pair_le (by decide) (by decide) (by decide) expected.size_debug_le
      received.size_debug_le).trans (by decide)
  case channelWriteAccessDenied channel => exact size_tuple_le (by decide) channel.size_debug_le
  case unknownConnection id | namespaceReadAccessDenied id | namespaceWriteAccessDenied id
    | unknownChannel id | channelAlreadyRegistered id | invalidChannelLimit id
    | parentSpaceNotFound id | parentAnchorNotFound id | entityNotFound id | entityNotOwned id
    | entitySpaceMismatch id => exact size_tuple_le (by decide) (hid id)
  case sessionReadAccessDenied key | sessionWriteAccessDenied key | sessionNotFound key
    | sessionAlreadyProvisioned key | sessionMembershipRequired key
    | admissionAlreadyConfigured key | admissionLeaseRequired key | invalidAdmissionLease key =>
    exact size_tuple_le (by decide) (hsession key)
  case spaceReadAccessDenied key | spaceWriteAccessDenied key | spaceNotFound key
    | spaceAlreadyExists key | subscriptionRequired key =>
    exact size_tuple_le (by decide) key.size_debug_le
  all_goals decide

end Signalweave
