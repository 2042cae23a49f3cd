import Signalweave.Protocol.Codec

/-!
# Between envelopes and their tables (`codec.rs`)

The schema has a table for the envelope and one for each control payload. The FlatBuffers library
writes and reads tables; what the codec puts into them and takes out of them is modelled here. In
the tables every identifier is a number, zero where there is none, and every enumeration its value.
-/

namespace Signalweave.Protocol

/-! ## Enumerations -/

/-- What `numeric_enum!` makes of an enumeration. -/
class NumericEnum (α : Type) where
  variants : List α
  value : α → Nat
  complete : ∀ a, a ∈ variants
  injective : Function.Injective value

export NumericEnum (value)

/-- `TryFrom` of a number on the wire. -/
def fromWire {α : Type} [NumericEnum α] (n : Nat) : Option α :=
  (NumericEnum.variants : List α).find? fun a => value a == n

theorem fromWire_eq_some {α : Type} [NumericEnum α] {n : Nat} {a : α} :
    (fromWire n : Option α) = some a ↔ n = value a := by
  unfold fromWire
  constructor
  · intro h
    have hfound := List.find?_some h
    exact (eq_of_beq hfound).symm
  · rintro rfl
    obtain ⟨b, hb⟩ : ∃ b,
        List.find? (fun b : α => value b == value a) NumericEnum.variants = some b :=
      Option.isSome_iff_exists.mp
        (List.find?_isSome.mpr ⟨a, NumericEnum.complete a, beq_self_eq_true _⟩)
    have hsame := List.find?_some hb
    rw [hb, NumericEnum.injective (eq_of_beq hsame)]

@[simp] theorem fromWire_value {α : Type} [NumericEnum α] (a : α) :
    (fromWire (value a) : Option α) = some a :=
  fromWire_eq_some.mpr rfl

/-- The number of a message kind on the wire. -/
def MessageKind.number : MessageKind → Nat
  | .unknown => 0
  | .hello => 1
  | .capabilities => 2
  | .authenticate => 3
  | .authenticated => 4
  | .joinSession => 5
  | .leaveSession => 6
  | .subscribeSpace => 7
  | .unsubscribeSpace => 8
  | .subscriptionAccepted => 9
  | .subscriptionRejected => 10
  | .entityEntered => 11
  | .entityLeft => 12
  | .entityState => 13
  | .reliableEvent => 14
  | .snapshotRequest => 15
  | .snapshot => 16
  | .spaceTransition => 17
  | .ping => 18
  | .pong => 19
  | .protocolError => 20
  | .inferenceRequested => 21
  | .inferenceAccepted => 22
  | .inferenceProgress => 23
  | .inferenceStreamChunk => 24
  | .inferenceCompleted => 25
  | .inferenceFailed => 26
  | .inferenceCancelled => 27
  | .inferenceExpired => 28
  | .toolCallProposed => 29
  | .toolCallAccepted => 30
  | .toolCallRejected => 31
  | .toolCallCompleted => 32

instance : NumericEnum MessageKind where
  variants :=
    [.unknown, .hello, .capabilities, .authenticate, .authenticated, .joinSession, .leaveSession,
      .subscribeSpace, .unsubscribeSpace, .subscriptionAccepted, .subscriptionRejected,
      .entityEntered, .entityLeft, .entityState, .reliableEvent, .snapshotRequest, .snapshot,
      .spaceTransition, .ping, .pong, .protocolError, .inferenceRequested, .inferenceAccepted,
      .inferenceProgress, .inferenceStreamChunk, .inferenceCompleted, .inferenceFailed,
      .inferenceCancelled, .inferenceExpired, .toolCallProposed, .toolCallAccepted,
      .toolCallRejected, .toolCallCompleted]
  value := MessageKind.number
  complete a := by cases a <;> decide
  injective a b h := by cases a <;> cases b <;> first | rfl | cases h

instance : NumericEnum DeliveryClass where
  variants := [.unknown, .reliableOrdered, .reliableUnordered, .latestValue, .unreliableSequenced,
    .bestEffortEvent]
  value
    | .unknown => 0
    | .reliableOrdered => 1
    | .reliableUnordered => 2
    | .latestValue => 3
    | .unreliableSequenced => 4
    | .bestEffortEvent => 5
  complete a := by cases a <;> decide
  injective a b h := by cases a <;> cases b <;> first | rfl | cases h

instance : NumericEnum AuthenticationScheme where
  variants := [.unknown, .bearer, .development]
  value
    | .unknown => 0
    | .bearer => 1
    | .development => 2
  complete a := by cases a <;> decide
  injective a b h := by cases a <;> cases b <;> first | rfl | cases h

instance : NumericEnum SubscriptionRejectionCode where
  variants := [.unknown, .unauthorized, .spaceNotFound, .capacityExceeded, .epochMismatch]
  value
    | .unknown => 0
    | .unauthorized => 1
    | .spaceNotFound => 2
    | .capacityExceeded => 3
    | .epochMismatch => 4
  complete a := by cases a <;> decide
  injective a b h := by cases a <;> cases b <;> first | rfl | cases h

instance : NumericEnum EntityLeaveReason where
  variants := [.unknown, .unsubscribed, .disconnected, .transitioned, .removed]
  value
    | .unknown => 0
    | .unsubscribed => 1
    | .disconnected => 2
    | .transitioned => 3
    | .removed => 4
  complete a := by cases a <;> decide
  injective a b h := by cases a <;> cases b <;> first | rfl | cases h

instance : NumericEnum ProtocolErrorCode where
  variants := [.unknown, .malformedFrame, .unsupportedVersion, .unsupportedMessage,
    .authenticationRequired, .unauthorized, .invalidScope, .staleEpoch, .sequenceRejected,
    .payloadTooLarge, .rateLimited, .internal]
  value
    | .unknown => 0
    | .malformedFrame => 1
    | .unsupportedVersion => 2
    | .unsupportedMessage => 3
    | .authenticationRequired => 4
    | .unauthorized => 5
    | .invalidScope => 6
    | .staleEpoch => 7
    | .sequenceRejected => 8
    | .payloadTooLarge => 9
    | .rateLimited => 10
    | .internal => 11
  complete a := by cases a <;> decide
  injective a b h := by cases a <;> cases b <;> first | rfl | cases h

instance : NumericEnum ToolCallRejectionCode where
  variants := [.unknown, .stale, .unauthorized, .invalidArguments, .policyDenied]
  value
    | .unknown => 0
    | .stale => 1
    | .unauthorized => 2
    | .invalidArguments => 3
    | .policyDenied => 4
  complete a := by cases a <;> decide
  injective a b h := by cases a <;> cases b <;> first | rfl | cases h

/-! ## Tables -/

/-- The member of the union `ControlPayload`: a table of a type that the schema knows, or one of
another type. Strings and vectors may be missing from a table. -/
inductive WireControl where
  | helloPayload (minProtocolVersion maxProtocolVersion : Nat)
    (clientName clientVersion : Option String) (capabilityBits maxFrameSize maxPayloadSize : Nat)
  | capabilitiesPayload (selectedProtocolVersion : Nat) (serverName serverVersion : Option String)
    (capabilityBits maxFrameSize maxPayloadSize : Nat)
  | authenticatePayload (scheme : Nat) (credentials : Option (List UInt8))
  | authenticatedPayload (principalId assignedEntityId : Nat)
  | joinSessionPayload (resumeToken : Option (List UInt8))
  | leaveSessionPayload (reason : Option String)
  | subscribeSpacePayload (channelId : Nat)
  | unsubscribeSpacePayload (subscriptionId : Nat)
  | subscriptionAcceptedPayload (subscriptionId acceptedSpaceEpoch : Nat)
  | subscriptionRejectedPayload (code : Nat) (reason : Option String)
  | entityEnteredPayload (ownerEntityId : Nat)
  | entityLeftPayload (reason : Nat)
  | snapshotRequestPayload (channelId afterServerTick : Nat)
  | spaceTransitionPayload (fromSpaceId toSpaceId toSpaceEpoch : Nat)
  | pingPayload (nonce senderTimeMicros : Nat)
  | pongPayload (nonce senderTimeMicros responderTimeMicros : Nat)
  | protocolErrorPayload (code relatedMessageKind : Nat) (message : Option String)
  | inferenceRequestedPayload (capability : Option String) (deadlineMs : Nat)
    (input : Option (List UInt8))
  | inferenceAcceptedPayload (queuedPosition : Nat)
  | inferenceProgressPayload (percent : Nat)
  | inferenceStreamChunkPayload (sequence : Nat) (chunk : Option (List UInt8)) (isFinal : Bool)
  | inferenceCompletedPayload (result : Option (List UInt8))
  | inferenceFailedPayload (reason : Option String)
  | inferenceCancelledPayload (reason : Option String)
  | inferenceExpiredPayload (reason : Option String)
  | toolCallProposedPayload (toolId : Option String) (toolVersion : Nat)
    (arguments : Option (List UInt8)) (expectedRevision : Nat)
  | toolCallAcceptedPayload (toolId : Option String)
  | toolCallRejectedPayload (code : Nat) (reason : Option String)
  | toolCallCompletedPayload (newRevision : Nat) (result : Option (List UInt8))
  | other (controlType : Nat)
  deriving DecidableEq

/-- `control_type`, the number of the member. -/
def WireControl.controlType : WireControl → Nat
  | helloPayload .. => 1
  | capabilitiesPayload .. => 2
  | authenticatePayload .. => 3
  | authenticatedPayload .. => 4
  | joinSessionPayload _ => 5
  | leaveSessionPayload _ => 6
  | subscribeSpacePayload _ => 7
  | unsubscribeSpacePayload _ => 8
  | subscriptionAcceptedPayload .. => 9
  | subscriptionRejectedPayload .. => 10
  | entityEnteredPayload _ => 11
  | entityLeftPayload _ => 12
  | snapshotRequestPayload .. => 13
  | spaceTransitionPayload .. => 14
  | pingPayload .. => 15
  | pongPayload .. => 16
  | protocolErrorPayload .. => 17
  | inferenceRequestedPayload .. => 18
  | inferenceAcceptedPayload _ => 19
  | inferenceProgressPayload _ => 20
  | inferenceStreamChunkPayload .. => 21
  | inferenceCompletedPayload _ => 22
  | inferenceFailedPayload _ => 23
  | inferenceCancelledPayload _ => 24
  | inferenceExpiredPayload _ => 25
  | toolCallProposedPayload .. => 26
  | toolCallAcceptedPayload _ => 27
  | toolCallRejectedPayload .. => 28
  | toolCallCompletedPayload .. => 29
  | other controlType => controlType

/-- The table of an envelope. A verified one has a type of the union where it has a member. -/
structure WireEnvelope where
  protocolVersion : Nat := 1
  messageKind : Nat := 0
  deliveryClass : Nat := 0
  namespaceId : Nat := 0
  sessionId : Nat := 0
  spaceId : Nat := 0
  entityId : Nat := 0
  spaceEpoch : Nat := 0
  serverTick : Nat := 0
  senderSequence : Nat := 0
  correlationId : Nat := 0
  payloadTypeId : Nat := 0
  payload : Option (List UInt8) := none
  control : Option WireControl := none
  channelId : Nat := 0
  deriving DecidableEq

/-- The number of the control payload in the union, zero for none. -/
def WireEnvelope.controlType (wire : WireEnvelope) : Nat :=
  wire.control.elim 0 WireControl.controlType

/-! ## Encoding -/

/-- `encode_control`. -/
def encodeControl (channelId : Nat) : ControlPayload → WireControl
  | .hello minProtocolVersion maxProtocolVersion clientName clientVersion capabilityBits
    maxFrameSize
      maxPayloadSize =>
    .helloPayload minProtocolVersion maxProtocolVersion (some clientName) (some clientVersion)
      capabilityBits maxFrameSize maxPayloadSize
  | .capabilities selectedProtocolVersion serverName serverVersion capabilityBits maxFrameSize
      maxPayloadSize =>
    .capabilitiesPayload selectedProtocolVersion (some serverName) (some serverVersion)
      capabilityBits maxFrameSize maxPayloadSize
  | .authenticate scheme credentials => .authenticatePayload (value scheme) (some credentials)
  | .authenticated principalId assignedEntityId =>
    .authenticatedPayload principalId (assignedEntityId.getD 0)
  | .joinSession resumeToken => .joinSessionPayload (some resumeToken)
  | .leaveSession reason => .leaveSessionPayload (some reason)
  | .subscribeSpace => .subscribeSpacePayload channelId
  | .unsubscribeSpace subscriptionId => .unsubscribeSpacePayload subscriptionId
  | .subscriptionAccepted subscriptionId acceptedSpaceEpoch =>
    .subscriptionAcceptedPayload subscriptionId acceptedSpaceEpoch
  | .subscriptionRejected code reason => .subscriptionRejectedPayload (value code) (some reason)
  | .entityEntered ownerEntityId => .entityEnteredPayload (ownerEntityId.getD 0)
  | .entityLeft reason => .entityLeftPayload (value reason)
  | .snapshotRequest afterServerTick => .snapshotRequestPayload channelId (afterServerTick.getD 0)
  | .spaceTransition fromSpaceId toSpaceId toSpaceEpoch =>
    .spaceTransitionPayload fromSpaceId toSpaceId toSpaceEpoch
  | .ping nonce senderTimeMicros => .pingPayload nonce senderTimeMicros
  | .pong nonce senderTimeMicros responderTimeMicros =>
    .pongPayload nonce senderTimeMicros responderTimeMicros
  | .protocolError code relatedMessageKind message =>
    .protocolErrorPayload (value code) (value relatedMessageKind) (some message)
  | .inferenceRequested capability deadlineMs input =>
    .inferenceRequestedPayload (some capability) deadlineMs (some input)
  | .inferenceAccepted queuedPosition => .inferenceAcceptedPayload queuedPosition
  | .inferenceProgress percent => .inferenceProgressPayload percent
  | .inferenceStreamChunk sequence chunk isFinal =>
    .inferenceStreamChunkPayload sequence (some chunk) isFinal
  | .inferenceCompleted result => .inferenceCompletedPayload (some result)
  | .inferenceFailed reason => .inferenceFailedPayload (some reason)
  | .inferenceCancelled reason => .inferenceCancelledPayload (some reason)
  | .inferenceExpired reason => .inferenceExpiredPayload (some reason)
  | .toolCallProposed toolId toolVersion arguments expectedRevision =>
    .toolCallProposedPayload (some toolId) toolVersion (some arguments) expectedRevision
  | .toolCallAccepted toolId => .toolCallAcceptedPayload (some toolId)
  | .toolCallRejected code reason => .toolCallRejectedPayload (value code) (some reason)
  | .toolCallCompleted newRevision result => .toolCallCompletedPayload newRevision (some result)

/-- The table that `encode` creates. -/
def encodeEnvelope (envelope : Envelope) : WireEnvelope where
  protocolVersion := envelope.protocolVersion
  messageKind := value envelope.messageKind
  deliveryClass := value envelope.deliveryClass
  namespaceId := envelope.namespaceId
  sessionId := envelope.sessionId
  spaceId := envelope.spaceId
  entityId := envelope.entityId.getD 0
  spaceEpoch := envelope.spaceEpoch
  serverTick := envelope.serverTick
  senderSequence := envelope.senderSequence
  correlationId := envelope.correlationId.getD 0
  payloadTypeId := envelope.message.opaquePayload.elim 0 (·.typeId)
  payload := envelope.message.opaquePayload.map (·.bytes)
  control :=
    match envelope.message with
    | .control payload => some (encodeControl (envelope.channelId.getD 0) payload)
    | _ => none
  channelId := envelope.channelId.getD 0

/-! ## Decoding -/

/-- `nonzero` -/
def nonzero (n : Nat) : Option Nat := if n = 0 then none else some n

/-- `control_mismatch`. -/
def controlMismatch {α : Type} (wire : WireEnvelope) (kind : MessageKind) : Except CodecError α :=
  .error (.messageControlMismatch (value kind) wire.controlType)

/-- `from_wire` with the error of `decode_control`. -/
def supportedEnum {α : Type} [NumericEnum α] (name : String) (n : Nat) : Except CodecError α :=
  (fromWire n).elim (.error (.unsupportedEnumValue name n)) .ok

/-- `from_wire` and the filter of `decode_verified`: an unknown value and the value `Unknown` are
the same to it. -/
def knownEnum {α : Type} [NumericEnum α] [DecidableEq α] (unknown : α) (error : Nat → CodecError)
    (n : Nat) : Except CodecError α :=
  ((fromWire n).filter (· ≠ unknown)).elim (.error (error n)) .ok

/-- The envelope of the fields of a table, around a message. -/
def WireEnvelope.decoded (wire : WireEnvelope) (deliveryClass : DeliveryClass)
    (message : MessagePayload) : Envelope where
  protocolVersion := wire.protocolVersion
  deliveryClass
  namespaceId := wire.namespaceId
  sessionId := wire.sessionId
  spaceId := wire.spaceId
  channelId := nonzero wire.channelId
  entityId := nonzero wire.entityId
  spaceEpoch := wire.spaceEpoch
  serverTick := wire.serverTick
  senderSequence := wire.senderSequence
  correlationId := nonzero wire.correlationId
  message

/-- `require_channel_mirror`: a channel in the payload is that of the envelope. -/
def requireChannelMirror (wire : WireEnvelope) (kind : MessageKind) (mirroredChannelId : Nat) :
    Except CodecError Unit :=
  if mirroredChannelId = wire.channelId then .ok ()
  else .error (.invalidSemantics kind "control channel_id must match envelope channel_id")

namespace CodecLimits

variable (limits : CodecLimits)

/-- `checked_control_vector`: a missing vector is an empty one. -/
def checkedControlVector (vector : Option (List UInt8)) : Except CodecError (List UInt8) := do
  limits.enforcePayloadLimit (vector.elim 0 List.length)
  return vector.getD []

/-- `checked_control_string`: a missing text is an empty one. -/
def checkedControlString (string : Option String) : Except CodecError String := do
  limits.enforcePayloadLimit (string.getD "").utf8ByteSize
  return string.getD ""

/-- `checked_control_strings`: the limit is for both texts together. -/
def checkedControlStrings (first second : Option String) : Except CodecError (String × String) := do
  limits.enforcePayloadLimit ((first.getD "").utf8ByteSize + (second.getD "").utf8ByteSize)
  return (first.getD "", second.getD "")

/-- `decode_control`. `require_control` and the accessor that follows it succeed where the member is
the table that belongs to the kind. -/
def decodeControl (wire : WireEnvelope) (kind : MessageKind) : Except CodecError ControlPayload :=
  match kind, wire.control with
  | .hello, some (.helloPayload minProtocolVersion maxProtocolVersion clientName clientVersion
      capabilityBits maxFrameSize maxPayloadSize) => do
    let (clientName, clientVersion) ← limits.checkedControlStrings clientName clientVersion
    return .hello minProtocolVersion maxProtocolVersion clientName clientVersion capabilityBits
      maxFrameSize maxPayloadSize
  | .capabilities, some (.capabilitiesPayload selectedProtocolVersion serverName serverVersion
      capabilityBits maxFrameSize maxPayloadSize) => do
    let (serverName, serverVersion) ← limits.checkedControlStrings serverName serverVersion
    return .capabilities selectedProtocolVersion serverName serverVersion capabilityBits
      maxFrameSize maxPayloadSize
  | .authenticate, some (.authenticatePayload scheme credentials) => do
    let scheme ← supportedEnum "authentication scheme" scheme
    return .authenticate scheme (← limits.checkedControlVector credentials)
  | .authenticated, some (.authenticatedPayload principalId assignedEntityId) =>
    return .authenticated principalId (nonzero assignedEntityId)
  | .joinSession, some (.joinSessionPayload resumeToken) =>
    return .joinSession (← limits.checkedControlVector resumeToken)
  | .leaveSession, some (.leaveSessionPayload reason) =>
    return .leaveSession (← limits.checkedControlString reason)
  | .subscribeSpace, some (.subscribeSpacePayload channelId) => do
    requireChannelMirror wire kind channelId
    return .subscribeSpace
  | .unsubscribeSpace, some (.unsubscribeSpacePayload subscriptionId) =>
    return .unsubscribeSpace subscriptionId
  | .subscriptionAccepted, some (.subscriptionAcceptedPayload subscriptionId acceptedSpaceEpoch) =>
    return .subscriptionAccepted subscriptionId acceptedSpaceEpoch
  | .subscriptionRejected, some (.subscriptionRejectedPayload code reason) => do
    let code ← supportedEnum "subscription rejection code" code
    return .subscriptionRejected code (← limits.checkedControlString reason)
  | .entityEntered, some (.entityEnteredPayload ownerEntityId) =>
    return .entityEntered (nonzero ownerEntityId)
  | .entityLeft, some (.entityLeftPayload reason) =>
    return .entityLeft (← supportedEnum "entity leave reason" reason)
  | .snapshotRequest, some (.snapshotRequestPayload channelId afterServerTick) => do
    requireChannelMirror wire kind channelId
    return .snapshotRequest (nonzero afterServerTick)
  | .spaceTransition, some (.spaceTransitionPayload fromSpaceId toSpaceId toSpaceEpoch) =>
    return .spaceTransition fromSpaceId toSpaceId toSpaceEpoch
  | .ping, some (.pingPayload nonce senderTimeMicros) => return .ping nonce senderTimeMicros
  | .pong, some (.pongPayload nonce senderTimeMicros responderTimeMicros) =>
    return .pong nonce senderTimeMicros responderTimeMicros
  | .protocolError, some (.protocolErrorPayload code relatedMessageKind message) => do
    let code ← supportedEnum "protocol error code" code
    let relatedMessageKind ← supportedEnum "related message kind" relatedMessageKind
    return .protocolError code relatedMessageKind (← limits.checkedControlString message)
  | .inferenceRequested, some (.inferenceRequestedPayload capability deadlineMs input) => do
    let capability ← limits.checkedControlString capability
    return .inferenceRequested capability deadlineMs (← limits.checkedControlVector input)
  | .inferenceAccepted, some (.inferenceAcceptedPayload queuedPosition) =>
    return .inferenceAccepted queuedPosition
  | .inferenceProgress, some (.inferenceProgressPayload percent) =>
    return .inferenceProgress percent
  | .inferenceStreamChunk, some (.inferenceStreamChunkPayload sequence chunk isFinal) =>
    return .inferenceStreamChunk sequence (← limits.checkedControlVector chunk) isFinal
  | .inferenceCompleted, some (.inferenceCompletedPayload result) =>
    return .inferenceCompleted (← limits.checkedControlVector result)
  | .inferenceFailed, some (.inferenceFailedPayload reason) =>
    return .inferenceFailed (← limits.checkedControlString reason)
  | .inferenceCancelled, some (.inferenceCancelledPayload reason) =>
    return .inferenceCancelled (← limits.checkedControlString reason)
  | .inferenceExpired, some (.inferenceExpiredPayload reason) =>
    return .inferenceExpired (← limits.checkedControlString reason)
  | .toolCallProposed, some (.toolCallProposedPayload toolId toolVersion arguments
      expectedRevision) => do
    let toolId ← limits.checkedControlString toolId
    return .toolCallProposed toolId toolVersion (← limits.checkedControlVector arguments)
      expectedRevision
  | .toolCallAccepted, some (.toolCallAcceptedPayload toolId) =>
    return .toolCallAccepted (← limits.checkedControlString toolId)
  | .toolCallRejected, some (.toolCallRejectedPayload code reason) => do
    let code ← supportedEnum "tool call rejection code" code
    return .toolCallRejected code (← limits.checkedControlString reason)
  | .toolCallCompleted, some (.toolCallCompletedPayload newRevision result) =>
    return .toolCallCompleted newRevision (← limits.checkedControlVector result)
  | _, _ => controlMismatch wire kind

/-- `decode_opaque`. -/
def decodeOpaque (wire : WireEnvelope) (kind : MessageKind) : Except CodecError MessagePayload := do
  if wire.control.isSome then
    controlMismatch wire kind
  if wire.payloadTypeId = 0 then
    throw (.missingPayloadType kind)
  limits.enforcePayloadLimit (wire.payload.elim 0 List.length)
  let payload : OpaquePayload := { typeId := wire.payloadTypeId, bytes := wire.payload.getD [] }
  match kind with
  | .entityState => return .entityState payload
  | .reliableEvent => return .reliableEvent payload
  | .snapshot => return .snapshot payload
  | _ => controlMismatch wire kind

/-- The payload that `decode_verified` makes of a table. -/
def decodeMessage (wire : WireEnvelope) (kind : MessageKind) : Except CodecError MessagePayload :=
  match kind with
  | .entityState | .reliableEvent | .snapshot => limits.decodeOpaque wire kind
  | .unknown => .error (.unknownMessageKind 0)
  | _ => do
    if wire.payloadTypeId ≠ 0 ∨ wire.payload.isSome then
      throw (.unexpectedDomainPayload kind)
    return .control (← limits.decodeControl wire kind)

/-- `decode`, once the buffer is verified. -/
def decodeVerified (wire : WireEnvelope) : Except CodecError Envelope := do
  if wire.protocolVersion ≠ protocolVersion then
    throw (.unsupportedProtocolVersion wire.protocolVersion)
  let kind ← knownEnum .unknown .unknownMessageKind wire.messageKind
  let deliveryClass ← knownEnum .unknown .unknownDeliveryClass wire.deliveryClass
  let message ← limits.decodeMessage wire kind
  let decoded := wire.decoded deliveryClass message
  validate decoded
  return decoded

end CodecLimits

/-! ## Frames -/

/-- The FlatBuffers library: what it makes of a table that is finished with a size prefix, whether a
buffer has the identifier of the schema, and the root table of a buffer that verifies. -/
structure FlatBuffers where
  finish : WireEnvelope → List UInt8
  hasIdentifier : List UInt8 → Bool
  root : List UInt8 → Except String WireEnvelope

/-- What the library promises: a finished buffer begins with its own length and with the identifier,
and reading it gives back what was written. -/
structure FlatBuffers.Sound (library : FlatBuffers) : Prop where
  minimal : ∀ wire, 12 ≤ (library.finish wire).length
  sizePrefix : ∀ wire, (library.finish wire).length < 2 ^ 32 + sizePrefixLen →
    CodecLimits.littleEndian ((library.finish wire).take sizePrefixLen) + sizePrefixLen =
      (library.finish wire).length
  identified : ∀ wire, library.hasIdentifier (library.finish wire) = true
  root_finish : ∀ wire, library.root (library.finish wire) = .ok wire

namespace FlatBuffers

variable (library : FlatBuffers) (limits : CodecLimits)

/-- `Codec::encode` -/
def encode (envelope : Envelope) : Except CodecError (List UInt8) := do
  limits.validateOutbound envelope
  let encoded := library.finish (encodeEnvelope envelope)
  limits.enforceFrameLimit encoded.length
  return encoded

/-- What `Codec::decode` makes of a frame of the right length. -/
def decodeFrame (frame : List UInt8) : Except CodecError Envelope := do
  if !library.hasIdentifier frame then
    throw .invalidFileIdentifier
  match library.root frame with
  | .error error => throw (.invalidFlatbuffer error)
  | .ok wire => limits.decodeVerified wire

/-- `Codec::decode` -/
def decode (frame : List UInt8) : Except CodecError Envelope :=
  limits.decode (library.decodeFrame limits) frame

end FlatBuffers

end Signalweave.Protocol
