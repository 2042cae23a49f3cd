import Mathlib.Data.Countable.Basic
import Mathlib.Tactic.DeriveCountable
import Signalweave.Protocol.Wire

/-!
# What is encoded is decoded

A payload is read back from its own table, then a message from its envelope, then an envelope from
its frame. Zero stands for an absent identifier in the tables, and no envelope that is encoded has
an identifier that is there and zero.
-/

namespace Signalweave.Protocol

/-! ## Single fields -/

theorem nonzero_getD {n : Option Nat} (h : n ≠ some 0) : nonzero (n.getD 0) = n := by
  cases n with
  | none => rfl
  | some n =>
    have hn : n ≠ 0 := fun hzero => h (congrArg some hzero)
    simp [nonzero, hn]

@[simp] theorem supportedEnum_value {α : Type} [NumericEnum α] (name : String) (a : α) :
    supportedEnum name (value a) = .ok a := by
  simp [supportedEnum]

@[simp] theorem requireChannelMirror_self (wire : WireEnvelope) (kind : MessageKind) :
    requireChannelMirror wire kind wire.channelId = .ok () := if_pos rfl

theorem knownEnum_value {α : Type} [NumericEnum α] [DecidableEq α] {unknown a : α}
    (error : Nat → CodecError) (h : a ≠ unknown) :
    knownEnum unknown error (value a) = .ok a := by
  simp [knownEnum, Option.filter, h]

namespace CodecLimits

variable {limits : CodecLimits}

theorem enforcePayloadLimit_of_le {n : Nat} (h : n ≤ limits.maxPayloadLen) :
    limits.enforcePayloadLimit n = .ok () :=
  enforcePayloadLimit_eq_ok.mpr h

theorem checkedControlVector_some {vector : List UInt8} (h : vector.length ≤ limits.maxPayloadLen) :
    limits.checkedControlVector (some vector) = .ok vector := by
  simp [checkedControlVector, enforcePayloadLimit_of_le h]

theorem checkedControlString_some {string : String}
    (h : string.utf8ByteSize ≤ limits.maxPayloadLen) :
    limits.checkedControlString (some string) = .ok string := by
  simp [checkedControlString, enforcePayloadLimit_of_le h]

theorem checkedControlStrings_some {first second : String}
    (h : first.utf8ByteSize + second.utf8ByteSize ≤ limits.maxPayloadLen) :
    limits.checkedControlStrings (some first) (some second) = .ok (first, second) := by
  simp [checkedControlStrings, enforcePayloadLimit_of_le h]

end CodecLimits

/-! ## Control payloads -/

/-- The identifiers of the payload that may be absent are not zero. -/
def ControlPayload.Present : ControlPayload → Prop
  | .authenticated _ assignedEntityId => assignedEntityId ≠ some 0
  | .entityEntered ownerEntityId => ownerEntityId ≠ some 0
  | .snapshotRequest afterServerTick => afterServerTick ≠ some 0
  | _ => True

theorem ControlPayload.present_of_validateControl {envelope : Envelope} {payload : ControlPayload}
    (h : validateControl envelope payload = .ok ()) : payload.Present := by
  cases payload with
  | authenticated principalId assignedEntityId =>
    simp only [validateControl, Except.bind_eq_ok, rejectZeroOption_eq_ok] at h
    obtain ⟨_, _, _, _, hpresent⟩ := h
    exact hpresent
  | entityEntered ownerEntityId =>
    simp only [validateControl, Except.bind_eq_ok, rejectZeroOption_eq_ok] at h
    obtain ⟨_, _, hpresent⟩ := h
    exact hpresent
  | snapshotRequest afterServerTick =>
    simp only [validateControl, Except.bind_eq_ok, rejectZeroOption_eq_ok] at h
    obtain ⟨_, _, hpresent⟩ := h
    exact hpresent
  | _ => trivial

namespace CodecLimits

variable {limits : CodecLimits}

/-- A control payload is read back from its table. -/
theorem decodeControl_encodeControl {wire : WireEnvelope} {payload : ControlPayload}
    (hcontrol : wire.control = some (encodeControl wire.channelId payload))
    (hpresent : payload.Present) (hlen : payload.variableLen ≤ limits.maxPayloadLen) :
    limits.decodeControl wire payload.messageKind = .ok payload := by
  unfold decodeControl
  rw [hcontrol]
  cases payload with
  | hello | capabilities =>
    simp [encodeControl, ControlPayload.messageKind, checkedControlStrings_some hlen]
  | authenticate | joinSession | inferenceStreamChunk | inferenceCompleted | toolCallCompleted =>
    simp [encodeControl, ControlPayload.messageKind, checkedControlVector_some hlen]
  | leaveSession | subscriptionRejected | protocolError | inferenceFailed | inferenceCancelled
  | inferenceExpired | toolCallAccepted | toolCallRejected =>
    simp [encodeControl, ControlPayload.messageKind, checkedControlString_some hlen]
  | inferenceRequested capability deadlineMs input =>
    have hcapability := Nat.le_trans (Nat.le_add_right _ _) hlen
    have hinput := Nat.le_trans (Nat.le_add_left _ _) hlen
    simp [encodeControl, ControlPayload.messageKind, checkedControlString_some hcapability,
      checkedControlVector_some hinput]
  | toolCallProposed toolId toolVersion arguments expectedRevision =>
    have htoolId := Nat.le_trans (Nat.le_add_right _ _) hlen
    have harguments := Nat.le_trans (Nat.le_add_left _ _) hlen
    simp [encodeControl, ControlPayload.messageKind, checkedControlString_some htoolId,
      checkedControlVector_some harguments]
  | authenticated | entityEntered | snapshotRequest =>
    simp only [ControlPayload.Present] at hpresent
    simp [encodeControl, ControlPayload.messageKind, nonzero_getD hpresent]
  | _ => simp [encodeControl, ControlPayload.messageKind]

end CodecLimits

/-! ## Envelopes -/

/-- The bytes of a message that the payload limit counts. -/
def MessagePayload.variableLen : MessagePayload → Nat
  | control payload => payload.variableLen
  | entityState payload | reliableEvent payload | snapshot payload => payload.bytes.length

theorem typeId_of_validate {envelope : Envelope} {payload : OpaquePayload}
    (h : validate envelope = .ok ()) (hpayload : envelope.message.opaquePayload = some payload) :
    payload.typeId ≠ 0 := by
  unfold validate at h
  cases hmessage : envelope.message with
  | control control =>
    rw [hmessage] at hpayload
    cases hpayload
  | entityState other | reliableEvent other | snapshot other =>
    rw [hmessage] at h hpayload
    cases hpayload
    simp only [Except.bind_eq_ok, requireNonzero_eq_ok] at h
    obtain ⟨_, _, _, _, _, _, htype⟩ := h
    exact htype

theorem validateControl_of_validate {envelope : Envelope} {payload : ControlPayload}
    (h : validate envelope = .ok ()) (hpayload : envelope.message = .control payload) :
    validateControl envelope payload = .ok () := by
  unfold validate at h
  rw [hpayload] at h
  simp only [Except.bind_eq_ok] at h
  obtain ⟨_, _, _, _, hcontrol⟩ := h
  exact hcontrol

theorem ids_of_validate {envelope : Envelope} (h : validate envelope = .ok ()) :
    envelope.channelId ≠ some 0 ∧ envelope.entityId ≠ some 0 ∧ envelope.correlationId ≠ some 0 := by
  unfold validate at h
  simp only [Except.bind_eq_ok, rejectZeroOptionalIds_eq_ok] at h
  obtain ⟨_, hids, _⟩ := h
  exact hids

theorem delivers_of_validate {envelope : Envelope} (h : validate envelope = .ok ()) :
    envelope.messageKind.delivers envelope.deliveryClass = true := by
  unfold validate at h
  simp only [Except.bind_eq_ok, validateDelivery_eq_ok] at h
  obtain ⟨_, _, _, hdelivers, _⟩ := h
  exact hdelivers

/-- No class goes with the kind `Unknown`. -/
theorem messageKind_ne_unknown {envelope : Envelope} (h : validate envelope = .ok ()) :
    envelope.messageKind ≠ .unknown := by
  intro hunknown
  have hdelivers := delivers_of_validate h
  rw [hunknown] at hdelivers
  cases hdelivers

namespace CodecLimits

variable {limits : CodecLimits}

theorem validateOutbound_eq_ok {envelope : Envelope} :
    limits.validateOutbound envelope = .ok () ↔ envelope.protocolVersion = protocolVersion ∧
      envelope.deliveryClass ≠ .unknown ∧ validate envelope = .ok () ∧
        envelope.message.variableLen ≤ limits.maxPayloadLen := by
  unfold validateOutbound
  by_cases hversion : envelope.protocolVersion = protocolVersion
  · by_cases hdelivery : envelope.deliveryClass = .unknown
    · simp [hversion, hdelivery]
    · cases hvalid : validate envelope with
      | error error => simp [hversion, hdelivery]
      | ok _ =>
        cases hmessage : envelope.message with
        | control payload =>
          simp [hversion, hdelivery, enforcePayloadLimit_eq_ok, MessagePayload.variableLen]
        | entityState payload | reliableEvent payload | snapshot payload =>
          have htype : payload.typeId ≠ 0 := typeId_of_validate hvalid (by rw [hmessage]; rfl)
          simp [hversion, hdelivery, enforcePayloadLimit_eq_ok, MessagePayload.variableLen, htype]
  · simp [hversion]

theorem decodeOpaque_encodeEnvelope {envelope : Envelope} {payload : OpaquePayload}
    (hpayload : envelope.message.opaquePayload = some payload) (htype : payload.typeId ≠ 0)
    (hlen : payload.bytes.length ≤ limits.maxPayloadLen) :
    limits.decodeOpaque (encodeEnvelope envelope) envelope.messageKind = .ok envelope.message := by
  cases hmessage : envelope.message with
  | control control =>
    rw [hmessage] at hpayload
    cases hpayload
  | entityState other | reliableEvent other | snapshot other =>
    rw [hmessage] at hpayload
    cases hpayload
    simp [decodeOpaque, encodeEnvelope, Envelope.messageKind, hmessage, MessagePayload.messageKind,
      MessagePayload.opaquePayload, htype, enforcePayloadLimit_of_le hlen]

theorem decodeMessage_encodeEnvelope {envelope : Envelope} (hvalid : validate envelope = .ok ())
    (hlen : envelope.message.variableLen ≤ limits.maxPayloadLen) :
    limits.decodeMessage (encodeEnvelope envelope) envelope.messageKind = .ok envelope.message := by
  cases hmessage : envelope.message with
  | entityState payload | reliableEvent payload | snapshot payload =>
    have hpayload : envelope.message.opaquePayload = some payload := by rw [hmessage]; rfl
    have htype := typeId_of_validate hvalid hpayload
    rw [hmessage] at hlen
    have hdecoded := decodeOpaque_encodeEnvelope hpayload htype hlen
    rw [hmessage] at hdecoded
    rw [Envelope.messageKind, hmessage] at hdecoded ⊢
    exact hdecoded
  | control payload =>
    have hcontrol : (encodeEnvelope envelope).control =
        some (encodeControl (encodeEnvelope envelope).channelId payload) := by
      simp [encodeEnvelope, hmessage]
    have hpresent := ControlPayload.present_of_validateControl
      (validateControl_of_validate hvalid hmessage)
    rw [hmessage] at hlen
    have hdecoded := decodeControl_encodeControl hcontrol hpresent hlen
    have hnone : (encodeEnvelope envelope).payloadTypeId = 0 ∧
        (encodeEnvelope envelope).payload = none := by
      simp [encodeEnvelope, hmessage, MessagePayload.opaquePayload]
    rw [Envelope.messageKind, hmessage, MessagePayload.messageKind]
    -- the arm of the opaque kinds is not taken, whichever the control payload is
    cases payload <;> simp_all [decodeMessage, ControlPayload.messageKind]

theorem decodeVerified_eq_ok {wire : WireEnvelope} {envelope : Envelope} :
    limits.decodeVerified wire = .ok envelope ↔ wire.protocolVersion = protocolVersion ∧
      ∃ kind, knownEnum .unknown .unknownMessageKind wire.messageKind = .ok kind ∧
        ∃ deliveryClass,
          knownEnum .unknown .unknownDeliveryClass wire.deliveryClass = .ok deliveryClass ∧
            ∃ message, limits.decodeMessage wire kind = .ok message ∧
              validate (wire.decoded deliveryClass message) = .ok () ∧
                wire.decoded deliveryClass message = envelope := by
  unfold decodeVerified
  by_cases hversion : wire.protocolVersion = protocolVersion
  · simp [hversion, Unique.exists_iff, -bind_pure_comp]
  · simp [hversion]

/-- What passes `validate_outbound` is read back from its table. -/
theorem decodeVerified_encodeEnvelope {envelope : Envelope}
    (h : limits.validateOutbound envelope = .ok ()) :
    limits.decodeVerified (encodeEnvelope envelope) = .ok envelope := by
  obtain ⟨hversion, hdelivery, hvalid, hlen⟩ := validateOutbound_eq_ok.mp h
  have hkind : knownEnum .unknown .unknownMessageKind (encodeEnvelope envelope).messageKind =
      .ok envelope.messageKind := knownEnum_value _ (messageKind_ne_unknown hvalid)
  have hclass : knownEnum .unknown .unknownDeliveryClass (encodeEnvelope envelope).deliveryClass =
      .ok envelope.deliveryClass := knownEnum_value _ hdelivery
  have hdecoded : (encodeEnvelope envelope).decoded envelope.deliveryClass envelope.message =
      envelope := by
    obtain ⟨hchannel, hentity, hcorrelation⟩ := ids_of_validate hvalid
    simp [WireEnvelope.decoded, encodeEnvelope, nonzero_getD hchannel, nonzero_getD hentity,
      nonzero_getD hcorrelation]
  refine decodeVerified_eq_ok.mpr ⟨hversion, _, hkind, _, hclass, _,
    decodeMessage_encodeEnvelope hvalid hlen, ?_, hdecoded⟩
  rw [hdecoded]
  exact hvalid

end CodecLimits

/-! ## Frames -/

namespace CodecLimits

/-- A limit of `CodecLimits::new` is one that the prefix of a frame can tell. -/
theorem maxFrameLen_of_new {maxFrameLen maxPayloadLen : Nat} {limits : CodecLimits}
    (h : CodecLimits.new maxFrameLen maxPayloadLen = .ok limits) :
    limits.maxFrameLen < 2 ^ 32 + sizePrefixLen := by
  unfold CodecLimits.new at h
  split at h
  · cases h
  · rename_i hlimits
    cases h
    have hlength : ¬ 2 ^ 32 - 1 + sizePrefixLen < maxFrameLen := fun hless =>
      hlimits (.inr (.inl hless))
    change maxFrameLen < 2 ^ 32 + sizePrefixLen
    omega

theorem enforceFrameLimit_eq_ok {limits : CodecLimits} {actual : Nat} {u : Unit} :
    limits.enforceFrameLimit actual = .ok u ↔ actual ≤ limits.maxFrameLen := by
  unfold enforceFrameLimit
  split <;> simp_all

/-- A frame of the length that its prefix says. -/
theorem expectedFrameLen_eq_some {limits : CodecLimits} {frame : List UInt8}
    (hlong : minEncodedLen + sizePrefixLen ≤ frame.length)
    (hlength : littleEndian (frame.take sizePrefixLen) + sizePrefixLen = frame.length)
    (hlimit : frame.length ≤ limits.maxFrameLen) :
    limits.expectedFrameLen frame = .ok (some frame.length) := by
  unfold expectedFrameLen
  have hnonempty : ¬ frame.length < sizePrefixLen := by omega
  have hmin : ¬ littleEndian (frame.take sizePrefixLen) < minEncodedLen := by omega
  have hframe : limits.enforceFrameLimit frame.length = .ok () := enforceFrameLimit_eq_ok.mpr hlimit
  simp [hnonempty, hmin, hlength, hframe]

theorem decode_of_expectedFrameLen {limits : CodecLimits} {α : Type}
    {verified : List UInt8 → Except CodecError α} {frame : List UInt8}
    (h : limits.expectedFrameLen frame = .ok (some frame.length)) :
    limits.decode verified frame = verified frame := by
  unfold CodecLimits.decode checkFrameLen
  rw [h]
  simp [bind, Except.bind, pure, Except.pure]

end CodecLimits

theorem FlatBuffers.encode_eq_ok {library : FlatBuffers} {limits : CodecLimits}
    {envelope : Envelope} {bytes : List UInt8} :
    library.encode limits envelope = .ok bytes ↔ limits.validateOutbound envelope = .ok () ∧
      bytes.length ≤ limits.maxFrameLen ∧ bytes = library.finish (encodeEnvelope envelope) := by
  unfold FlatBuffers.encode
  simp only [Except.bind_eq_ok, Except.pure_eq_ok, CodecLimits.enforceFrameLimit_eq_ok]
  constructor
  · rintro ⟨⟨⟩, hvalid, ⟨⟩, hframe, rfl⟩
    exact ⟨hvalid, hframe, rfl⟩
  · rintro ⟨hvalid, hframe, rfl⟩
    exact ⟨(), hvalid, (), hframe, rfl⟩

namespace FlatBuffers.Sound

variable {library : FlatBuffers} {limits : CodecLimits} {envelope : Envelope}

/-- A frame that is within the limit says its own length. -/
theorem expectedFrameLen_finish (hlibrary : library.Sound) {wire : WireEnvelope}
    (hlimit : limits.maxFrameLen < 2 ^ 32 + sizePrefixLen)
    (hframe : (library.finish wire).length ≤ limits.maxFrameLen) :
    limits.expectedFrameLen (library.finish wire) = .ok (some (library.finish wire).length) :=
  CodecLimits.expectedFrameLen_eq_some (hlibrary.minimal wire)
    (hlibrary.sizePrefix wire (Nat.lt_of_le_of_lt hframe hlimit)) hframe

/-- The frame of an envelope that passes `validate_outbound` is decoded to that envelope. -/
theorem decode_finish (hlibrary : library.Sound)
    (hlimit : limits.maxFrameLen < 2 ^ 32 + sizePrefixLen)
    (hvalid : limits.validateOutbound envelope = .ok ())
    (hframe : (library.finish (encodeEnvelope envelope)).length ≤ limits.maxFrameLen) :
    library.decode limits (library.finish (encodeEnvelope envelope)) = .ok envelope :=
  calc library.decode limits (library.finish (encodeEnvelope envelope))
      = library.decodeFrame limits (library.finish (encodeEnvelope envelope)) :=
        CodecLimits.decode_of_expectedFrameLen (hlibrary.expectedFrameLen_finish hlimit hframe)
    _ = limits.decodeVerified (encodeEnvelope envelope) := by
        unfold FlatBuffers.decodeFrame
        rw [hlibrary.identified, hlibrary.root_finish]
        rfl
    _ = .ok envelope := CodecLimits.decodeVerified_encodeEnvelope hvalid

end FlatBuffers.Sound

/-! ## A library -/

section Countable

instance countableUInt8 : Countable UInt8 :=
  Function.Injective.countable (f := UInt8.toNat) fun _ _ h => UInt8.toNat_inj.mp h

instance countableChar : Countable Char :=
  Function.Injective.countable (f := Char.toNat) fun _ _ h => Char.toNat_inj.mp h

instance countableString : Countable String :=
  Function.Injective.countable fun _ _ h => String.toList_inj.mp h

deriving instance Countable for WireControl

deriving instance Countable for WireEnvelope

end Countable

namespace Sample

/-- The four bytes of a length, the lowest first. -/
def lengthBytes (n : Nat) : List UInt8 :=
  [UInt8.ofNat n, UInt8.ofNat (n / 2 ^ 8), UInt8.ofNat (n / 2 ^ 16), UInt8.ofNat (n / 2 ^ 24)]

theorem littleEndian_lengthBytes {n : Nat} (h : n < 2 ^ 32) :
    CodecLimits.littleEndian (lengthBytes n) = n := by
  simp only [lengthBytes, CodecLimits.littleEndian, UInt8.toNat_ofNat']
  omega

/-- The bytes of the file identifier `WVN1`. -/
def fileIdentifier : List UInt8 := [87, 86, 78, 49]

/-- A number of each table. -/
noncomputable def code : WireEnvelope → Nat := Classical.choose (exists_injective_nat WireEnvelope)

theorem code_injective : Function.Injective code :=
  Classical.choose_spec (exists_injective_nat WireEnvelope)

/-- A frame of zeros that tells a number by its length. -/
def numbered (n : Nat) : List UInt8 :=
  lengthBytes (8 + n) ++ ([0, 0, 0, 0] ++ (fileIdentifier ++ List.replicate n 0))

theorem length_numbered (n : Nat) : (numbered n).length = 12 + n := by
  simp [numbered, lengthBytes, fileIdentifier]
  omega

/-- A library that makes `frame` of the table `wire`, and a frame of zeros of every other one. -/
noncomputable def library (wire : WireEnvelope) (frame : List UInt8) : FlatBuffers where
  finish other := if other = wire then frame else numbered (code other)
  hasIdentifier bytes := (bytes.drop 8).take 4 == fileIdentifier
  root bytes :=
    if bytes = frame then .ok wire
    else
      letI : Nonempty WireEnvelope := ⟨wire⟩
      .ok (Function.invFun code (bytes.length - 12))

theorem finish_library {wire : WireEnvelope} {frame : List UInt8} :
    (library wire frame).finish wire = frame := if_pos rfl

theorem sound_library {wire : WireEnvelope} {frame : List UInt8} (hlong : 12 ≤ frame.length)
    (hlength : CodecLimits.littleEndian (frame.take 4) + 4 = frame.length)
    (hroot : (frame.drop 4).take 4 ≠ [0, 0, 0, 0])
    (hidentifier : (frame.drop 8).take 4 = fileIdentifier) : (library wire frame).Sound := by
  have hfinish : ∀ other, other ≠ wire →
      (library wire frame).finish other = numbered (code other) :=
    fun _ hother => if_neg hother
  -- the root offset of a frame of zeros is zero, and that of `frame` is not
  have hframe : ∀ n, numbered n ≠ frame := by
    rintro n rfl
    exact hroot rfl
  constructor
  · intro other
    by_cases hother : other = wire
    · rw [hother, finish_library]
      exact hlong
    · rw [hfinish other hother, length_numbered]
      exact Nat.le_add_right _ _
  · intro other hless
    by_cases hother : other = wire
    · rw [hother, finish_library]
      exact hlength
    · rw [hfinish other hother] at hless ⊢
      rw [length_numbered] at hless ⊢
      change CodecLimits.littleEndian (lengthBytes (8 + code other)) + 4 = 12 + code other
      rw [sizePrefixLen] at hless
      rw [littleEndian_lengthBytes (by omega)]
      omega
  · intro other
    by_cases hother : other = wire
    · rw [hother, finish_library]
      exact beq_iff_eq.mpr hidentifier
    · rw [hfinish other hother]
      rfl
  · intro other
    by_cases hother : other = wire
    · rw [hother, finish_library]
      exact if_pos rfl
    · rw [hfinish other hother]
      let _ : Nonempty WireEnvelope := ⟨wire⟩
      have hroot : (library wire frame).root (numbered (code other)) =
          .ok (Function.invFun code ((numbered (code other)).length - 12)) := if_neg (hframe _)
      rw [hroot, length_numbered, Nat.add_sub_cancel_left,
        Function.leftInverse_invFun code_injective]

/-- A tool call that has ended. -/
def toolCallCompleted : Envelope where
  protocolVersion := protocolVersion
  deliveryClass := .reliableOrdered
  namespaceId := 1
  sessionId := 1
  spaceId := 1
  entityId := some 7
  spaceEpoch := 1
  message := .control (.toolCallCompleted 2
    [115, 116, 97, 116, 117, 115, 32, 117, 112, 100, 97, 116, 101, 100])

/-- Its frame (`tool_call_completed_v1.swp`). -/
def toolCallCompletedFrame : List UInt8 :=
  [148, 0, 0, 0, 48, 0, 0, 0, 87, 86, 78, 49, 0, 0, 0, 0, 0, 0, 34, 0, 52, 0, 0, 0, 5, 0, 6, 0, 12,
    0, 20, 0, 28, 0, 36, 0, 44, 0, 0, 0, 0, 0, 0, 0, 0, 0, 0, 0, 7, 0, 8, 0, 34, 0, 0, 0, 0, 32, 1,
    29, 52, 0, 0, 0, 1, 0, 0, 0, 0, 0, 0, 0, 1, 0, 0, 0, 0, 0, 0, 0, 1, 0, 0, 0, 0, 0, 0, 0, 7, 0,
    0, 0, 0, 0, 0, 0, 1, 0, 0, 0, 0, 0, 0, 0, 8, 0, 20, 0, 8, 0, 4, 0, 8, 0, 0, 0, 16, 0, 0, 0, 2,
    0, 0, 0, 0, 0, 0, 0, 0, 0, 0, 0, 14, 0, 0, 0, 115, 116, 97, 116, 117, 115, 32, 117, 112, 100,
    97, 116, 101, 100, 0, 0]

end Sample

end Signalweave.Protocol

namespace Signalweave

open Protocol

/-- What is encoded is decoded to the same envelope, and the frame says its own length. -/
theorem decode_encode {library : FlatBuffers} (hlibrary : library.Sound)
    {maxFrameLen maxPayloadLen : Nat} {limits : CodecLimits}
    (hlimits : CodecLimits.new maxFrameLen maxPayloadLen = .ok limits) {envelope : Envelope}
    {bytes : List UInt8} (h : library.encode limits envelope = .ok bytes) :
    library.decode limits bytes = .ok envelope ∧
      limits.expectedFrameLen bytes = .ok (some bytes.length) := by
  obtain ⟨hvalid, hframe, rfl⟩ := FlatBuffers.encode_eq_ok.mp h
  have hlimit := CodecLimits.maxFrameLen_of_new hlimits
  exact ⟨hlibrary.decode_finish hlimit hvalid hframe,
    hlibrary.expectedFrameLen_finish hlimit hframe⟩

/-- The completion of a tool call, and its frame. -/
theorem decode_encode_toolCallCompleted :
    (Sample.library (encodeEnvelope Sample.toolCallCompleted)
      Sample.toolCallCompletedFrame).decode {}
        Sample.toolCallCompletedFrame = .ok Sample.toolCallCompleted ∧
      ({} : CodecLimits).expectedFrameLen Sample.toolCallCompletedFrame = .ok (some 152) := by
  have hlibrary : (Sample.library (encodeEnvelope Sample.toolCallCompleted)
      Sample.toolCallCompletedFrame).Sound :=
    Sample.sound_library (by decide +kernel) (by decide +kernel) (by decide +kernel)
      (by decide +kernel)
  have hlimits : CodecLimits.new (1024 * 1024) (256 * 1024) = .ok {} := rfl
  have hencoded : (Sample.library (encodeEnvelope Sample.toolCallCompleted)
      Sample.toolCallCompletedFrame).encode {} Sample.toolCallCompleted =
        .ok Sample.toolCallCompletedFrame :=
    FlatBuffers.encode_eq_ok.mpr ⟨by decide +kernel, by decide +kernel, Sample.finish_library.symm⟩
  exact decode_encode hlibrary hlimits hencoded

end Signalweave
