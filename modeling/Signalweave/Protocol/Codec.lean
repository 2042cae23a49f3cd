import Signalweave.Protocol.Semantics

/-!
# Frames and their limits (`codec.rs`)

A frame is a length of four bytes and so many bytes after it. What the FlatBuffers library makes of
the bytes is not modelled; what the codec checks of an envelope on either side of it is.
-/

namespace Signalweave.Protocol

/-- `SIZE_PREFIX_LEN`. -/
def sizePrefixLen : Nat := 4

/-- `MIN_ENCODED_LEN`. -/
def minEncodedLen : Nat := 8

/-- The limits of a codec, with their defaults. -/
structure CodecLimits where
  maxFrameLen : Nat := 1024 * 1024
  maxPayloadLen : Nat := 256 * 1024
  deriving DecidableEq

namespace CodecLimits

/-- `CodecLimits::new` -/
def new (maxFrameLen maxPayloadLen : Nat) : Except CodecError CodecLimits :=
  if maxFrameLen < 12 ∨ 2 ^ 32 - 1 + sizePrefixLen < maxFrameLen ∨ maxFrameLen < maxPayloadLen then
    .error (.invalidLimits maxFrameLen maxPayloadLen)
  else .ok { maxFrameLen, maxPayloadLen }

variable (limits : CodecLimits)

/-- `enforce_frame_limit`. -/
def enforceFrameLimit (actual : Nat) : Except CodecError Unit :=
  if limits.maxFrameLen < actual then .error (.frameTooLarge actual limits.maxFrameLen) else .ok ()

/-- `enforce_payload_limit`. -/
def enforcePayloadLimit (actual : Nat) : Except CodecError Unit :=
  if limits.maxPayloadLen < actual then .error (.payloadTooLarge actual limits.maxPayloadLen)
  else .ok ()

/-- `u32::from_le_bytes` of the first four bytes. -/
def littleEndian : List UInt8 → Nat
  | [] => 0
  | byte :: rest => byte.toNat + 256 * littleEndian rest

/-- `expected_frame_len`: nothing yet where the length itself is not there. -/
def expectedFrameLen (bytes : List UInt8) : Except CodecError (Option Nat) :=
  if bytes.length < sizePrefixLen then .ok none
  else
    let encodedLen := littleEndian (bytes.take sizePrefixLen)
    if encodedLen < minEncodedLen then .error (.invalidSizePrefix encodedLen)
    else do
      let frameLen := encodedLen + sizePrefixLen
      limits.enforceFrameLimit frameLen
      return some frameLen

/-- The checks of `decode` on the length of a frame. -/
def checkFrameLen (frame : List UInt8) : Except CodecError Unit := do
  match ← limits.expectedFrameLen frame with
  | none => throw (.truncatedFrame sizePrefixLen frame.length)
  | some expected =>
    if frame.length < expected then
      throw (.truncatedFrame expected frame.length)
    if expected < frame.length then
      throw (.trailingBytes expected frame.length)

/-- `decode`: what is made of a frame of the right length is a parameter. -/
def decode {α : Type} (verified : List UInt8 → Except CodecError α) (frame : List UInt8) :
    Except CodecError α := do
  limits.checkFrameLen frame
  verified frame

/-- `validate_outbound`. -/
def validateOutbound (envelope : Envelope) : Except CodecError Unit := do
  if envelope.protocolVersion ≠ protocolVersion then
    throw (.unsupportedProtocolVersion envelope.protocolVersion)
  if envelope.deliveryClass = .unknown then
    throw (.unknownDeliveryClass 0)
  validate envelope
  match envelope.message with
  | .control control => limits.enforcePayloadLimit control.variableLen
  | .entityState payload | .reliableEvent payload | .snapshot payload =>
    if payload.typeId = 0 then
      throw (.missingPayloadType envelope.messageKind)
    limits.enforcePayloadLimit payload.bytes.length

/-- The envelopes that `decode_verified` returns: it checks the version, the kind, the class and the
payload of the wire envelope, and last the meaning of what it has decoded. -/
structure Accepts (envelope : Envelope) : Prop where
  version : envelope.protocolVersion = protocolVersion
  kind : envelope.messageKind ≠ .unknown
  delivery : envelope.deliveryClass ≠ .unknown
  payload : ∀ payload, envelope.message.opaquePayload = some payload →
    payload.typeId ≠ 0 ∧ payload.bytes.length ≤ limits.maxPayloadLen
  meaning : validate envelope = .ok ()

theorem enforcePayloadLimit_eq_ok {limits : CodecLimits} {actual : Nat} {u : Unit} :
    limits.enforcePayloadLimit actual = .ok u ↔ actual ≤ limits.maxPayloadLen := by
  unfold enforcePayloadLimit
  split <;> simp_all

theorem expectedFrameLen_eq_none {limits : CodecLimits} {bytes : List UInt8}
    (h : bytes.length < sizePrefixLen) : limits.expectedFrameLen bytes = .ok none := if_pos h

/-- A frame that is decoded has the length that its prefix says, and the prefix is there. -/
theorem expectedFrameLen_of_decode {limits : CodecLimits} {α : Type}
    {verified : List UInt8 → Except CodecError α} {frame : List UInt8} {value : α}
    (h : limits.decode verified frame = .ok value) :
    sizePrefixLen ≤ frame.length ∧
      limits.expectedFrameLen (frame.take sizePrefixLen) = .ok (some frame.length) := by
  have hsame : sizePrefixLen ≤ frame.length →
      limits.expectedFrameLen (frame.take sizePrefixLen) = limits.expectedFrameLen frame := by
    intro hlong
    unfold expectedFrameLen
    rw [List.take_take, Nat.min_self, List.length_take, Nat.min_eq_left hlong,
      if_neg (Nat.lt_irrefl _), if_neg (Nat.not_lt.mpr hlong)]
  unfold decode checkFrameLen at h
  by_cases hshort : frame.length < sizePrefixLen
  · rw [expectedFrameLen_eq_none hshort] at h
    cases h
  · have hlong := Nat.le_of_not_lt hshort
    refine ⟨hlong, ?_⟩
    rw [hsame hlong]
    cases hlen : limits.expectedFrameLen frame with
    | error error =>
      rw [hlen] at h
      cases h
    | ok answer =>
      cases answer with
      | none =>
        rw [hlen] at h
        cases h
      | some expected =>
        rw [hlen] at h
        have hless : ¬ frame.length < expected := by
          intro hless
          simp [hless] at h
        have hmore : ¬ expected < frame.length := by
          intro hmore
          simp [hless, hmore] at h
        rw [Nat.le_antisymm (Nat.le_of_not_lt hless) (Nat.le_of_not_lt hmore)]

end CodecLimits

end Signalweave.Protocol
