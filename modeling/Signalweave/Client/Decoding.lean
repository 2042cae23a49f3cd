import Signalweave.Client.Reassembly
import Signalweave.Protocol.Agreement

/-!
# The two decoders (`codec.ts`, `codec.rs`)

The decoder of the TypeScript client reads the fields of a table and checks none of them. What the
Rust decoder returns it returns too; what it returns the Rust decoder may refuse.
-/

namespace Signalweave.Client

open Protocol

/-- `DecodedEnvelope`. Of `control` it has the table that the bindings read. -/
structure DecodedEnvelope where
  protocolVersion : Nat
  messageKind : Nat
  deliveryClass : Nat
  namespaceId : Nat
  sessionId : Nat
  spaceId : Nat
  entityId : Option Nat
  spaceEpoch : Nat
  serverTick : Nat
  senderSequence : Nat
  correlationId : Option Nat
  channelId : Option Nat
  payloadTypeId : Nat
  payload : Option (List UInt8)
  controlType : Nat
  control : Option WireControl
  deriving DecidableEq

/-- `unionToControlPayload`: `null` where the type is none of the union. -/
def unionToControlPayload : WireControl → Option WireControl
  | .other _ => none
  | control => some control

/-- `decode`, past the reading of the table: the fields as the application gets them. -/
def decodeEnvelope (envelope : WireEnvelope) : DecodedEnvelope where
  protocolVersion := envelope.protocolVersion
  messageKind := envelope.messageKind
  deliveryClass := envelope.deliveryClass
  namespaceId := envelope.namespaceId
  sessionId := envelope.sessionId
  spaceId := envelope.spaceId
  entityId := nonzero envelope.entityId
  spaceEpoch := envelope.spaceEpoch
  serverTick := envelope.serverTick
  senderSequence := envelope.senderSequence
  correlationId := nonzero envelope.correlationId
  channelId := nonzero envelope.channelId
  payloadTypeId := envelope.payloadTypeId
  payload := envelope.payload
  controlType := envelope.controlType
  control := envelope.control.bind unionToControlPayload

/-- `EnvelopeCodec.decode`, where `access` is the table that the FlatBuffers runtime finds in a
buffer. -/
def decodeTable (access : List UInt8 → Except String WireEnvelope) (frame : List UInt8) :
    Except CodecError DecodedEnvelope :=
  decode (fun frame => decodeEnvelope <$> access frame) frame

/-- The two runtimes find the identifier in the same place, and the same table in a buffer that
verifies. -/
structure SameAccess (library : FlatBuffers) (access : List UInt8 → Except String WireEnvelope) :
    Prop where
  identifier : ∀ frame : List UInt8, 12 ≤ frame.length →
    (library.hasIdentifier frame = true ↔ (frame.drop 8).take 4 = fileIdentifier)
  table : ∀ frame wire, library.root frame = .ok wire → access frame = .ok wire

/-- What the two decoders have made of a frame is the same. The kind of a control payload is the
type of the table it is written as. -/
structure Agrees (decoded : DecodedEnvelope) (envelope : Envelope) : Prop where
  protocolVersion : decoded.protocolVersion = envelope.protocolVersion
  messageKind : decoded.messageKind = value envelope.messageKind
  deliveryClass : decoded.deliveryClass = value envelope.deliveryClass
  namespaceId : decoded.namespaceId = envelope.namespaceId
  sessionId : decoded.sessionId = envelope.sessionId
  spaceId : decoded.spaceId = envelope.spaceId
  entityId : decoded.entityId = envelope.entityId
  spaceEpoch : decoded.spaceEpoch = envelope.spaceEpoch
  serverTick : decoded.serverTick = envelope.serverTick
  senderSequence : decoded.senderSequence = envelope.senderSequence
  correlationId : decoded.correlationId = envelope.correlationId
  channelId : decoded.channelId = envelope.channelId
  payloadTypeId : decoded.payloadTypeId = envelope.message.opaquePayload.elim 0 (·.typeId)
  payload : decoded.payload.getD [] = envelope.message.opaquePayload.elim [] (·.bytes)
  controlType : decoded.controlType = (encodeEnvelope envelope).controlType

/-- What `Codec::decode` makes of a frame that is framed well. -/
def verified (library : FlatBuffers) (limits : CodecLimits) (frame : List UInt8) :
    Except CodecError Envelope :=
  match library.root frame with
  | .error error => .error (.invalidFlatbuffer error)
  | .ok wire => limits.decodeVerified wire

/-! ## Fields -/

variable {limits : CodecLimits} {wire : WireEnvelope} {envelope : Envelope} {kind : MessageKind}

theorem payload_of_decodeOpaque {message : MessagePayload}
    (h : limits.decodeOpaque wire kind = .ok message) :
    message.messageKind = kind ∧ wire.control = none ∧ message.opaquePayload =
      some { typeId := wire.payloadTypeId, bytes := wire.payload.getD [] } := by
  have hcontrol := (CodecLimits.variableLen_of_decodeOpaque h).1
  unfold CodecLimits.decodeOpaque at h
  by_cases htype : wire.payloadTypeId = 0
  · simp [hcontrol, htype] at h
  · simp only [hcontrol, htype, Option.isSome_none, Bool.false_eq_true, if_false,
      Except.bind_eq_ok] at h
    obtain ⟨-, -, hmessage⟩ := h
    split at hmessage
    all_goals cases hmessage
    all_goals exact ⟨rfl, hcontrol, rfl⟩

/-- A control payload is of the kind, and its table of the type, that were asked for. -/
theorem kind_of_decodeControl {payload : ControlPayload}
    (h : limits.decodeControl wire kind = .ok payload) (channelId : Nat) :
    payload.messageKind = kind ∧
      wire.controlType = (encodeControl channelId payload).controlType := by
  unfold CodecLimits.decodeControl at h
  split at h <;> rename_i hcontrol
  case h_30 => cases h
  all_goals
    simp only [Except.bind_eq_ok, Except.pure_eq_ok] at h
    grind [WireEnvelope.controlType, ControlPayload.messageKind, encodeControl,
      WireControl.controlType]

/-- What the TypeScript decoder reads of a table is what `decode_verified` has made of it. -/
theorem agrees_of_decodeVerified (h : limits.decodeVerified wire = .ok envelope) :
    Agrees (decodeEnvelope wire) envelope := by
  obtain ⟨hversion, kind, hkind, deliveryClass, hclass, message, hmessage, -, rfl⟩ :=
    CodecLimits.decodeVerified_eq_ok.mp h
  have hnumber := (knownEnum_eq_ok hkind).1
  have hdelivery := (knownEnum_eq_ok hclass).1
  have hparts : message.messageKind = kind ∧
      wire.payloadTypeId = message.opaquePayload.elim 0 (·.typeId) ∧
      wire.payload.getD [] = message.opaquePayload.elim [] (·.bytes) ∧
      wire.controlType = (encodeEnvelope (wire.decoded deliveryClass message)).controlType := by
    rcases CodecLimits.decodeMessage_eq_ok hmessage with hopaque |
      ⟨payload, htype, hnone, hread, rfl⟩
    · obtain ⟨hsame, hcontrol, hpayload⟩ := payload_of_decodeOpaque hopaque
      rw [hpayload]
      refine ⟨hsame, rfl, rfl, ?_⟩
      cases message <;> cases hpayload <;> simp [WireEnvelope.controlType, hcontrol, encodeEnvelope,
        WireEnvelope.decoded]
    · obtain ⟨hsame, hcontrol⟩ := kind_of_decodeControl hread ((nonzero wire.channelId).getD 0)
      exact ⟨hsame, htype, by rw [hnone]; rfl, hcontrol⟩
  obtain ⟨hsame, htype, hpayload, hcontrol⟩ := hparts
  exact ⟨rfl, hnumber.trans (congrArg value hsame.symm), hdelivery, rfl, rfl, rfl, rfl, rfl, rfl,
    rfl, rfl, rfl, htype, hpayload, hcontrol⟩

/-! ## Frames -/

variable {library : FlatBuffers} {access : List UInt8 → Except String WireEnvelope}
  {frame : List UInt8} {decoded : DecodedEnvelope}

theorem decodeTable_eq_ok : decodeTable access frame = .ok decoded ↔
    Framed frame ∧ ∃ wire, access frame = .ok wire ∧ decodeEnvelope wire = decoded := by
  rw [decodeTable, decode_eq_ok]
  cases haccess : access frame with
  | error error => simp
  | ok wire => simp

/-- A frame that says its own length, within the limit, comes to the verifier where it has the
identifier. -/
theorem decode_of_framed (h : SameAccess library access) (hframed : Framed frame)
    (hlimit : frame.length ≤ limits.maxFrameLen) :
    library.decode limits frame = verified library limits frame := by
  have hwhole := hframed.whole
  have hsize := hframed.size
  have hlength : CodecLimits.littleEndian (frame.take sizePrefixLen) + sizePrefixLen =
      frame.length := by
    show CodecLimits.littleEndian (frame.take 4) + 4 = frame.length
    omega
  have hidentified : library.hasIdentifier frame = true :=
    (h.identifier frame hwhole).mpr hframed.identifier
  rw [FlatBuffers.decode, CodecLimits.decode_of_expectedFrameLen
    (CodecLimits.expectedFrameLen_eq_some hwhole hlength hlimit), FlatBuffers.decodeFrame,
    hidentified, verified]
  rfl

theorem framed_of_decode (h : SameAccess library access)
    (hdecoded : library.decode limits frame = .ok envelope) : Framed frame := by
  obtain ⟨-, hexpected⟩ := CodecLimits.expectedFrameLen_of_decode hdecoded
  unfold CodecLimits.expectedFrameLen at hexpected
  rw [List.take_take, Nat.min_self] at hexpected
  dsimp only at hexpected
  by_cases hshort : (frame.take sizePrefixLen).length < sizePrefixLen
  · rw [if_pos hshort] at hexpected
    cases hexpected
  rw [if_neg hshort] at hexpected
  by_cases hmin : CodecLimits.littleEndian (frame.take sizePrefixLen) < minEncodedLen
  · rw [if_pos hmin] at hexpected
    cases hexpected
  rw [if_neg hmin] at hexpected
  simp only [Except.bind_eq_ok, Except.pure_eq_ok, Option.some.injEq] at hexpected
  obtain ⟨-, -, hlength⟩ := hexpected
  have hsize : CodecLimits.littleEndian (frame.take 4) + 4 = frame.length := hlength
  have hlong : 8 ≤ CodecLimits.littleEndian (frame.take 4) := Nat.le_of_not_lt hmin
  have hwhole : 12 ≤ frame.length := by omega
  refine ⟨hwhole, by omega, (h.identifier frame hwhole).mp ?_⟩
  unfold FlatBuffers.decode CodecLimits.decode at hdecoded
  simp only [Except.bind_eq_ok] at hdecoded
  obtain ⟨-, -, hframe⟩ := hdecoded
  by_contra hidentifier
  rw [Bool.not_eq_true] at hidentifier
  rw [FlatBuffers.decodeFrame, hidentifier] at hframe
  cases hframe

end Signalweave.Client

namespace Signalweave

open Protocol Client

/-- The TypeScript decoder returns what the Rust decoder returns, and it returns the fields of every
table that comes in a well-framed frame. The Rust decoder then asks the verifier and
`decode_verified`. -/
theorem decoders_agree {library : FlatBuffers} {access : List UInt8 → Except String WireEnvelope}
    (h : SameAccess library access) {frame : List UInt8}
    (hlimit : frame.length ≤ ({} : CodecLimits).maxFrameLen) :
    (∀ envelope, library.decode {} frame = .ok envelope →
      ∃ decoded, decodeTable access frame = .ok decoded ∧ Agrees decoded envelope) ∧
    (∀ decoded, decodeTable access frame = .ok decoded →
      library.decode {} frame = verified library {} frame) ∧
    ∀ decoded, decodeTable access frame = .ok decoded ↔
      Framed frame ∧ ∃ wire, access frame = .ok wire ∧ decodeEnvelope wire = decoded := by
  refine ⟨?_, ?_, fun _ => decodeTable_eq_ok⟩
  · intro envelope hdecoded
    have hframed := framed_of_decode h hdecoded
    obtain ⟨wire, hroot, hverified⟩ := FlatBuffers.decode_eq_ok hdecoded
    exact ⟨_, decodeTable_eq_ok.mpr ⟨hframed, wire, h.table frame wire hroot, rfl⟩,
      agrees_of_decodeVerified hverified⟩
  · intro decoded hdecoded
    exact decode_of_framed h (decodeTable_eq_ok.mp hdecoded).1 hlimit

namespace Protocol.Sample

/-- The frame of the tool call with another number for the kind of its message. -/
def unknownKindFrame : List UInt8 := toolCallCompletedFrame.set 57 200

/-- The table in it. -/
def unknownKind : WireEnvelope := { encodeEnvelope toolCallCompleted with messageKind := 200 }

theorem root_library {wire : WireEnvelope} {frame : List UInt8} :
    (library wire frame).root frame = .ok wire := if_pos rfl

theorem sameAccess (wire : WireEnvelope) (frame : List UInt8) :
    SameAccess (library wire frame) (library wire frame).root where
  identifier _ _ := beq_iff_eq
  table _ _ h := h

end Protocol.Sample

/-- The frame of a tool call is read alike. -/
theorem decoders_agree_toolCallCompleted :
    ∃ decoded, decodeTable (Protocol.Sample.library
        (encodeEnvelope Protocol.Sample.toolCallCompleted)
        Protocol.Sample.toolCallCompletedFrame).root Protocol.Sample.toolCallCompletedFrame =
          .ok decoded ∧
      Agrees decoded Protocol.Sample.toolCallCompleted :=
  (decoders_agree (Protocol.Sample.sameAccess _ _) (by decide +kernel)).1 _
    (Protocol.Sample.decode_library (by decide +kernel) (by decide +kernel) (by decide +kernel))

/-- A message of an unknown kind is returned by the TypeScript decoder alone. -/
theorem decoders_not_same : ¬ ∀ (library : FlatBuffers)
    (access : List UInt8 → Except String WireEnvelope) (frame : List UInt8),
      SameAccess library access → frame.length ≤ ({} : CodecLimits).maxFrameLen →
        ((∃ decoded, decodeTable access frame = .ok decoded) ↔
          ∃ envelope, library.decode {} frame = .ok envelope) := by
  intro h
  have hsame := Protocol.Sample.sameAccess Protocol.Sample.unknownKind
    Protocol.Sample.unknownKindFrame
  have hroot : (Protocol.Sample.library Protocol.Sample.unknownKind
      Protocol.Sample.unknownKindFrame).root Protocol.Sample.unknownKindFrame =
        .ok Protocol.Sample.unknownKind := Protocol.Sample.root_library
  have hframed : Framed Protocol.Sample.unknownKindFrame :=
    ⟨by decide +kernel, by decide +kernel, by decide +kernel⟩
  obtain ⟨envelope, hdecoded⟩ := (h _ _ Protocol.Sample.unknownKindFrame hsame
    (by decide +kernel)).mp ⟨_, decodeTable_eq_ok.mpr ⟨hframed, _, hroot, rfl⟩⟩
  obtain ⟨wire, hfound, hverified⟩ := FlatBuffers.decode_eq_ok hdecoded
  rw [hroot] at hfound
  obtain rfl := Except.ok.inj hfound
  have hrefused : ({} : CodecLimits).decodeVerified Protocol.Sample.unknownKind =
      .error (.unknownMessageKind 200) := by decide +kernel
  rw [hrefused] at hverified
  cases hverified

end Signalweave
