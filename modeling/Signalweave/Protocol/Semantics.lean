import Signalweave.Library.Stateful
import Signalweave.Protocol.Model

/-!
# What an envelope has to satisfy (`semantics.rs`)

The same checks are made of an envelope that has been decoded and of one that is to be encoded.
-/

namespace Signalweave.Protocol

/-- Why a frame or an envelope is refused. -/
inductive CodecError where
  | invalidLimits (maxFrameLen maxPayloadLen : Nat)
  | frameTooLarge (actual maximum : Nat)
  | payloadTooLarge (actual maximum : Nat)
  | truncatedFrame (expected actual : Nat)
  | trailingBytes (expected actual : Nat)
  | invalidSizePrefix (encodedLen : Nat)
  | invalidFileIdentifier
  | invalidFlatbuffer (error : String)
  | unsupportedProtocolVersion (version : Nat)
  | unknownMessageKind (value : Nat)
  | unknownDeliveryClass (value : Nat)
  | unsupportedEnumValue (name : String) (value : Nat)
  | messageControlMismatch (messageKind controlKind : Nat)
  | missingPayloadType (kind : MessageKind)
  | unexpectedDomainPayload (kind : MessageKind)
  | invalidSemantics (messageKind : MessageKind) (reason : String)
  deriving DecidableEq

/-- `invalid`. -/
def invalid {α : Type} (envelope : Envelope) (reason : String) : Except CodecError α :=
  .error (.invalidSemantics envelope.messageKind reason)

/-- `require`. -/
def requireNonzero (value : Nat) (envelope : Envelope) (reason : String) : Except CodecError Unit :=
  if value = 0 then invalid envelope reason else .ok ()

/-- `reject_zero_option`. -/
def rejectZeroOption (value : Option Nat) (envelope : Envelope) (reason : String) :
    Except CodecError Unit :=
  if value = some 0 then invalid envelope reason else .ok ()

/-- `reject_zero_optional_ids`. -/
def rejectZeroOptionalIds (envelope : Envelope) : Except CodecError Unit := do
  rejectZeroOption envelope.channelId envelope "channel_id cannot be Some(0)"
  rejectZeroOption envelope.entityId envelope "entity_id cannot be Some(0)"
  rejectZeroOption envelope.correlationId envelope "correlation_id cannot be Some(0)"

/-- The delivery classes that go with a message kind. -/
def MessageKind.delivers : MessageKind → DeliveryClass → Bool
  | .entityState, .latestValue | .entityState, .unreliableSequenced => true
  | .entityState, _ => false
  | .reliableEvent, .reliableOrdered | .reliableEvent, .reliableUnordered => true
  | .reliableEvent, _ => false
  | .ping, delivery | .pong, delivery => delivery == .reliableUnordered
  | .inferenceProgress, delivery | .inferenceStreamChunk, delivery => delivery == .bestEffortEvent
  | .unknown, _ => false
  | _, delivery => delivery == .reliableOrdered

/-- `validate_delivery`: each kind of message has the delivery classes that suit it. -/
def validateDelivery (envelope : Envelope) : Except CodecError Unit :=
  if envelope.messageKind.delivers envelope.deliveryClass then .ok ()
  else invalid envelope "delivery class is incompatible with the message kind"

/-- `require_unscoped`: nothing of a scope is named. -/
def requireUnscoped (envelope : Envelope) : Except CodecError Unit :=
  if envelope.namespaceId ≠ 0 ∨ envelope.sessionId ≠ 0 ∨ envelope.spaceId ≠ 0 ∨
      envelope.channelId.isSome ∨ envelope.entityId.isSome ∨ envelope.spaceEpoch ≠ 0 then
    invalid envelope ("connection-level message must not carry namespace, session, space, " ++
      "channel, entity, or epoch scope")
  else .ok ()

/-- `require_session_scope`: a session is named and nothing in it. -/
def requireSessionScope (envelope : Envelope) : Except CodecError Unit := do
  requireNonzero envelope.namespaceId envelope "namespace_id must be non-zero"
  requireNonzero envelope.sessionId envelope "session_id must be non-zero"
  if envelope.spaceId ≠ 0 ∨ envelope.channelId.isSome ∨ envelope.entityId.isSome ∨
      envelope.spaceEpoch ≠ 0 then
    invalid envelope "session-level message must not carry space, channel, entity, or epoch scope"

/-- `require_space_scope`: a space is named, with or without a channel and an entity. -/
def requireSpaceScope (envelope : Envelope) (requireChannel requireEntity : Bool) :
    Except CodecError Unit := do
  requireNonzero envelope.namespaceId envelope "namespace_id must be non-zero"
  requireNonzero envelope.sessionId envelope "session_id must be non-zero"
  requireNonzero envelope.spaceId envelope "space_id must be non-zero"
  requireNonzero envelope.spaceEpoch envelope "space_epoch must be non-zero"
  if requireChannel then
    requireNonzero (envelope.channelId.getD 0) envelope "channel_id must be non-zero"
  else if envelope.channelId.isSome then
    invalid envelope "message kind must not carry channel_id"
  if requireEntity then
    requireNonzero (envelope.entityId.getD 0) envelope "entity_id must be non-zero"

/-- `validate_optional_scope`: who names a part of a scope names what it is part of. -/
def validateOptionalScope (envelope : Envelope) : Except CodecError Unit :=
  let hasSpaceDetail := envelope.spaceId ≠ 0 ∨ envelope.channelId.isSome ∨
    envelope.entityId.isSome ∨ envelope.spaceEpoch ≠ 0
  if envelope.namespaceId = 0 ∧ (envelope.sessionId ≠ 0 ∨ hasSpaceDetail) then
    invalid envelope "scoped protocol error requires namespace_id"
  else if envelope.sessionId = 0 ∧ hasSpaceDetail then
    invalid envelope "space-scoped protocol error requires session_id"
  else if envelope.spaceId = 0 ∧ (envelope.channelId.isSome ∨ envelope.entityId.isSome ∨
      envelope.spaceEpoch ≠ 0) then
    invalid envelope "space-scoped protocol error requires space_id"
  else .ok ()

/-- `validate_advertised_limits`, with the name of the message in its texts. -/
def validateAdvertisedLimits (envelope : Envelope) (maxFrameSize maxPayloadSize : Nat)
    (message : String) : Except CodecError Unit := do
  if maxFrameSize = 0 ∨ maxPayloadSize = 0 then
    invalid envelope (message ++ " advertised limits must be non-zero")
  if maxFrameSize < maxPayloadSize then
    invalid envelope (message ++ " max_payload_size cannot exceed max_frame_size")

/-- `validate_hello`. -/
def validateHello (envelope : Envelope)
    (minProtocolVersion maxProtocolVersion maxFrameSize maxPayloadSize : Nat) :
    Except CodecError Unit := do
  if minProtocolVersion = 0 ∨ maxProtocolVersion < minProtocolVersion ∨
      ¬ (minProtocolVersion ≤ protocolVersion ∧ protocolVersion ≤ maxProtocolVersion) then
    invalid envelope "Hello version range must be non-zero, ordered, and include protocol v1"
  validateAdvertisedLimits envelope maxFrameSize maxPayloadSize "Hello"

/-- `validate_capabilities`. -/
def validateCapabilities (envelope : Envelope)
    (selectedProtocolVersion maxFrameSize maxPayloadSize : Nat) : Except CodecError Unit := do
  if selectedProtocolVersion ≠ protocolVersion then
    invalid envelope "Capabilities selected_protocol_version must be protocol v1"
  validateAdvertisedLimits envelope maxFrameSize maxPayloadSize "Capabilities"

/-- `validate_authenticate`. -/
def validateAuthenticate (envelope : Envelope) (scheme : AuthenticationScheme)
    (credentials : List UInt8) : Except CodecError Unit := do
  if scheme = .unknown then
    invalid envelope "authentication scheme cannot be Unknown"
  if credentials.isEmpty then
    invalid envelope "authentication credentials cannot be empty"

/-- `validate_transition`. -/
def validateTransition (envelope : Envelope) (fromSpaceId toSpaceId toSpaceEpoch : Nat) :
    Except CodecError Unit := do
  requireSpaceScope envelope false true
  requireNonzero fromSpaceId envelope "transition from_space_id must be non-zero"
  requireNonzero toSpaceId envelope "transition to_space_id must be non-zero"
  requireNonzero toSpaceEpoch envelope "transition to_space_epoch must be non-zero"
  if fromSpaceId ≠ envelope.spaceId then
    invalid envelope "transition from_space_id must match envelope space_id"
  if fromSpaceId = toSpaceId then
    invalid envelope "transition spaces must differ"

/-- `validate_protocol_error`. -/
def validateProtocolError (envelope : Envelope) (code : ProtocolErrorCode)
    (relatedMessageKind : MessageKind) : Except CodecError Unit := do
  if code = .unknown then
    invalid envelope "protocol error code cannot be Unknown"
  if relatedMessageKind = .unknown then
    invalid envelope "related message kind cannot be Unknown"
  validateOptionalScope envelope

/-- `validate_tool_call_proposed`. -/
def validateToolCallProposed (envelope : Envelope) (toolId : String) (toolVersion : Nat) :
    Except CodecError Unit := do
  if toolId.isEmpty then
    invalid envelope "tool_id cannot be empty"
  if toolVersion = 0 then
    invalid envelope "tool_version must be non-zero"

/-- `validate_inference_control`. -/
def validateInferenceControl (envelope : Envelope) (control : ControlPayload) :
    Except CodecError Unit := do
  requireSpaceScope envelope false true
  match control with
  | .inferenceRequested capability _ _ =>
    if capability.isEmpty then
      invalid envelope "inference capability cannot be empty"
  | .inferenceProgress percent =>
    if 100 < percent then
      invalid envelope "inference progress percent cannot exceed 100"
  | .inferenceFailed reason =>
    if reason.isEmpty then
      invalid envelope "inference failure reason cannot be empty"
  | .toolCallProposed toolId toolVersion _ _ => validateToolCallProposed envelope toolId toolVersion
  | .toolCallAccepted toolId =>
    if toolId.isEmpty then
      invalid envelope "tool_id cannot be empty"
  | .toolCallRejected code _ =>
    if code = .unknown then
      invalid envelope "tool call rejection code cannot be Unknown"
  | _ => return

/-- `validate_control`: the scope of each control message, and what it says. -/
def validateControl (envelope : Envelope) (control : ControlPayload) : Except CodecError Unit :=
  match control with
  | .hello minProtocolVersion maxProtocolVersion _ _ _ maxFrameSize maxPayloadSize => do
    requireUnscoped envelope
    validateHello envelope minProtocolVersion maxProtocolVersion maxFrameSize maxPayloadSize
  | .capabilities selectedProtocolVersion _ _ _ maxFrameSize maxPayloadSize => do
    requireUnscoped envelope
    validateCapabilities envelope selectedProtocolVersion maxFrameSize maxPayloadSize
  | .authenticate scheme credentials => do
    requireUnscoped envelope
    validateAuthenticate envelope scheme credentials
  | .authenticated principalId assignedEntityId => do
    requireUnscoped envelope
    requireNonzero principalId envelope "authenticated principal_id must be non-zero"
    rejectZeroOption assignedEntityId envelope "assigned_entity_id cannot be Some(0)"
  | .joinSession _ | .leaveSession _ => requireSessionScope envelope
  | .subscribeSpace => requireSpaceScope envelope true false
  | .unsubscribeSpace subscriptionId => do
    requireSpaceScope envelope true false
    requireNonzero subscriptionId envelope "subscription_id must be non-zero"
  | .subscriptionAccepted subscriptionId acceptedSpaceEpoch => do
    requireSpaceScope envelope true false
    requireNonzero subscriptionId envelope "subscription_id must be non-zero"
    requireNonzero acceptedSpaceEpoch envelope "accepted_space_epoch must be non-zero"
    if acceptedSpaceEpoch ≠ envelope.spaceEpoch then
      invalid envelope "accepted_space_epoch must match envelope space_epoch"
  | .subscriptionRejected code _ => do
    requireSpaceScope envelope true false
    if code = .unknown then
      invalid envelope "subscription rejection code cannot be Unknown"
  | .entityEntered ownerEntityId => do
    requireSpaceScope envelope false true
    rejectZeroOption ownerEntityId envelope "owner_entity_id cannot be Some(0)"
  | .entityLeft reason => do
    requireSpaceScope envelope false true
    if reason = .unknown then
      invalid envelope "entity leave reason cannot be Unknown"
  | .snapshotRequest afterServerTick => do
    requireSpaceScope envelope true false
    rejectZeroOption afterServerTick envelope "after_server_tick cannot be Some(0)"
  | .spaceTransition fromSpaceId toSpaceId toSpaceEpoch =>
    validateTransition envelope fromSpaceId toSpaceId toSpaceEpoch
  | .ping nonce _ => do
    requireUnscoped envelope
    requireNonzero nonce envelope "ping nonce must be non-zero"
  | .pong nonce _ _ => do
    requireUnscoped envelope
    requireNonzero nonce envelope "pong nonce must be non-zero"
  | .protocolError code relatedMessageKind _ =>
    validateProtocolError envelope code relatedMessageKind
  | inference => validateInferenceControl envelope inference

/-- `validate`. -/
def validate (envelope : Envelope) : Except CodecError Unit := do
  rejectZeroOptionalIds envelope
  validateDelivery envelope
  match envelope.message with
  | .control control => validateControl envelope control
  | .entityState payload => do
    requireSpaceScope envelope true true
    requireNonzero payload.typeId envelope "payload_type_id must be non-zero"
  | .reliableEvent payload | .snapshot payload => do
    requireSpaceScope envelope true false
    requireNonzero payload.typeId envelope "payload_type_id must be non-zero"

/-! ## What each check accepts -/

section Checks

variable {envelope : Envelope} {reason : String} {u : Unit}

@[simp] theorem invalid_ne_ok {α : Type} {a : α} : invalid envelope reason ≠ .ok a := by
  rw [invalid]
  exact fun h => by cases h

@[simp] theorem requireNonzero_eq_ok {value : Nat} :
    requireNonzero value envelope reason = .ok u ↔ value ≠ 0 := by
  unfold requireNonzero
  split <;> simp_all

@[simp] theorem rejectZeroOption_eq_ok {value : Option Nat} :
    rejectZeroOption value envelope reason = .ok u ↔ value ≠ some 0 := by
  unfold rejectZeroOption
  split <;> simp_all

@[simp] theorem rejectZeroOptionalIds_eq_ok :
    rejectZeroOptionalIds envelope = .ok u ↔ envelope.channelId ≠ some 0 ∧
      envelope.entityId ≠ some 0 ∧ envelope.correlationId ≠ some 0 := by
  simp [rejectZeroOptionalIds]

@[simp] theorem validateDelivery_eq_ok :
    validateDelivery envelope = .ok u ↔
      envelope.messageKind.delivers envelope.deliveryClass = true := by
  unfold validateDelivery
  split <;> simp_all

/-- The scope of a message of a space. -/
structure SpaceScope (envelope : Envelope) : Prop where
  namespaceId : envelope.namespaceId ≠ 0
  sessionId : envelope.sessionId ≠ 0
  spaceId : envelope.spaceId ≠ 0
  spaceEpoch : envelope.spaceEpoch ≠ 0

theorem requireSpaceScope_eq_ok {requireChannel requireEntity : Bool} :
    requireSpaceScope envelope requireChannel requireEntity = .ok u ↔ SpaceScope envelope ∧
      (if requireChannel then envelope.channelId.getD 0 ≠ 0 else envelope.channelId = none) ∧
        (requireEntity = true → envelope.entityId.getD 0 ≠ 0) := by
  have hscope : SpaceScope envelope ↔ envelope.namespaceId ≠ 0 ∧ envelope.sessionId ≠ 0 ∧
      envelope.spaceId ≠ 0 ∧ envelope.spaceEpoch ≠ 0 :=
    ⟨fun ⟨hn, hs, hp, he⟩ => ⟨hn, hs, hp, he⟩, fun ⟨hn, hs, hp, he⟩ => ⟨hn, hs, hp, he⟩⟩
  rw [hscope]
  cases requireChannel <;> cases requireEntity <;>
    simp [requireSpaceScope] <;> tauto

end Checks

end Signalweave.Protocol
