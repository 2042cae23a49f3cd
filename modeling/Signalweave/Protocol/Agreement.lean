import Signalweave.Protocol.RoundTrip

/-!
# What is decoded, and whether it could be encoded

The encoder holds the payload limit against all the bytes of a control payload together. The decoder
does so field by field, which is the same where there is one field, and takes the names of a `Hello`
and of `Capabilities` together as well. It does not for the two payloads of a string and a vector.
-/

namespace Signalweave.Protocol

theorem supportedEnum_eq_ok {α : Type} [NumericEnum α] {name : String} {n : Nat} {a : α} :
    supportedEnum name n = .ok a ↔ n = value a := by
  unfold supportedEnum
  cases hvalue : (fromWire n : Option α) with
  | none =>
    have hother : n ≠ value a := fun heq => by
      rw [fromWire_eq_some.mpr heq] at hvalue
      cases hvalue
    simp [hother]
  | some b => simp [fromWire_eq_some.mp hvalue, NumericEnum.injective.eq_iff]

theorem requireChannelMirror_eq_ok {wire : WireEnvelope} {kind : MessageKind} {channelId : Nat}
    {u : Unit} : requireChannelMirror wire kind channelId = .ok u ↔ channelId = wire.channelId := by
  unfold requireChannelMirror
  split <;> simp_all

theorem knownEnum_eq_ok {α : Type} [NumericEnum α] [DecidableEq α] {unknown a : α}
    {error : Nat → CodecError} {n : Nat} (h : knownEnum unknown error n = .ok a) :
    n = value a ∧ a ≠ unknown := by
  unfold knownEnum at h
  cases hvalue : (fromWire n : Option α) with
  | none => simp [hvalue] at h
  | some b =>
    by_cases hknown : b = unknown
    · simp [hvalue, Option.filter, hknown] at h
    · simp [hvalue, Option.filter, hknown] at h
      subst h
      exact ⟨fromWire_eq_some.mp hvalue, hknown⟩

/-- The payloads of a string and a vector are within the limit together. -/
def WireControl.Fits (maxPayloadLen : Nat) : WireControl → Prop
  | .inferenceRequestedPayload capability _ input =>
    (capability.getD "").utf8ByteSize + (input.getD []).length ≤ maxPayloadLen
  | .toolCallProposedPayload toolId _ arguments _ =>
    (toolId.getD "").utf8ByteSize + (arguments.getD []).length ≤ maxPayloadLen
  | _ => True

namespace CodecLimits

variable {limits : CodecLimits}

theorem checkedControlVector_eq_ok {vector : Option (List UInt8)} {bytes : List UInt8} :
    limits.checkedControlVector vector = .ok bytes ↔
      (vector.getD []).length ≤ limits.maxPayloadLen ∧ vector.getD [] = bytes := by
  cases vector <;>
    simp [checkedControlVector, enforcePayloadLimit_eq_ok, Unique.exists_iff, -bind_pure_comp]

theorem checkedControlString_eq_ok {string : Option String} {text : String} :
    limits.checkedControlString string = .ok text ↔
      (string.getD "").utf8ByteSize ≤ limits.maxPayloadLen ∧ string.getD "" = text := by
  simp [checkedControlString, enforcePayloadLimit_eq_ok, Unique.exists_iff, -bind_pure_comp]

theorem checkedControlStrings_eq_ok {first second : Option String} {texts : String × String} :
    limits.checkedControlStrings first second = .ok texts ↔
      (first.getD "").utf8ByteSize + (second.getD "").utf8ByteSize ≤ limits.maxPayloadLen ∧
        (first.getD "", second.getD "") = texts := by
  simp [checkedControlStrings, enforcePayloadLimit_eq_ok, Unique.exists_iff, -bind_pure_comp]

/-- What an arm has read of its table is within the limit wherever the table is one of a single
field with a length, and then the total is too. -/
theorem variableLen_le_iff {wire : WireEnvelope} {kind : MessageKind} {payload : ControlPayload}
    (h : limits.decodeControl wire kind = .ok payload) :
    payload.variableLen ≤ limits.maxPayloadLen ↔
      ∀ control, wire.control = some control → control.Fits limits.maxPayloadLen := by
  unfold decodeControl at h
  split at h <;> rename_i hcontrol
  case h_30 => cases h
  all_goals
    simp only [hcontrol, Option.some.injEq, forall_eq', WireControl.Fits]
    simp only [Except.bind_eq_ok, Except.pure_eq_ok, checkedControlVector_eq_ok,
      checkedControlString_eq_ok, checkedControlStrings_eq_ok, supportedEnum_eq_ok,
      requireChannelMirror_eq_ok] at h
    grind [ControlPayload.variableLen]

theorem variableLen_of_decodeOpaque {wire : WireEnvelope} {kind : MessageKind}
    {message : MessagePayload} (h : limits.decodeOpaque wire kind = .ok message) :
    wire.control = none ∧ message.variableLen ≤ limits.maxPayloadLen := by
  unfold decodeOpaque at h
  cases hcontrol : wire.control with
  | some control => simp [hcontrol, controlMismatch] at h
  | none =>
    by_cases htype : wire.payloadTypeId = 0
    · simp [hcontrol, htype] at h
    · simp only [hcontrol, htype, Option.isSome_none, Bool.false_eq_true, if_false,
        Except.bind_eq_ok, enforcePayloadLimit_eq_ok] at h
      obtain ⟨-, hlen, hmessage⟩ := h
      have hbytes : (wire.payload.getD []).length ≤ limits.maxPayloadLen := by
        cases hpayload : wire.payload with
        | none => exact Nat.zero_le _
        | some bytes =>
          rw [hpayload] at hlen
          exact hlen
      refine ⟨rfl, ?_⟩
      split at hmessage
      · cases hmessage
        exact hbytes
      · cases hmessage
        exact hbytes
      · cases hmessage
        exact hbytes
      · cases hmessage

theorem decodeMessage_eq_ok {wire : WireEnvelope} {kind : MessageKind} {message : MessagePayload}
    (h : limits.decodeMessage wire kind = .ok message) :
    limits.decodeOpaque wire kind = .ok message ∨
      ∃ payload, wire.payloadTypeId = 0 ∧ wire.payload = none ∧
        limits.decodeControl wire kind = .ok payload ∧ message = .control payload := by
  unfold decodeMessage at h
  split at h
  · exact .inl h
  · exact .inl h
  · exact .inl h
  · cases h
  · by_cases hpayload : wire.payloadTypeId ≠ 0 ∨ wire.payload.isSome = true
    · simp [hpayload] at h
    · simp only [hpayload, if_false, Except.bind_eq_ok, Except.pure_eq_ok] at h
      obtain ⟨payload, hread, rfl⟩ := h
      push Not at hpayload
      exact .inr ⟨payload, hpayload.1, by simpa using hpayload.2, hread, rfl⟩

theorem message_variableLen_le_iff {wire : WireEnvelope} {kind : MessageKind}
    {message : MessagePayload} (h : limits.decodeMessage wire kind = .ok message) :
    message.variableLen ≤ limits.maxPayloadLen ↔
      ∀ control, wire.control = some control → control.Fits limits.maxPayloadLen := by
  rcases decodeMessage_eq_ok h with hopaque | ⟨payload, -, -, hcontrol, rfl⟩
  · obtain ⟨hnone, hlen⟩ := variableLen_of_decodeOpaque hopaque
    simp [hnone, hlen]
  · exact variableLen_le_iff hcontrol

end CodecLimits

/-- What is decoded passes `validate_outbound` but for the two payloads that may be too long. -/
theorem CodecLimits.validateOutbound_of_decodeVerified {limits : CodecLimits} {wire : WireEnvelope}
    {envelope : Envelope} (h : limits.decodeVerified wire = .ok envelope) :
    limits.validateOutbound envelope = .ok () ↔
      ∀ control, wire.control = some control → control.Fits limits.maxPayloadLen := by
  obtain ⟨hversion, kind, -, deliveryClass, hclass, message, hmessage, hvalid, rfl⟩ :=
    decodeVerified_eq_ok.mp h
  have hdelivery := (knownEnum_eq_ok hclass).2
  rw [validateOutbound_eq_ok, ← message_variableLen_le_iff hmessage]
  exact ⟨fun ⟨_, _, _, hlen⟩ => hlen, fun hlen => ⟨hversion, hdelivery, hvalid, hlen⟩⟩

theorem variableLen_of_opaquePayload {message : MessagePayload} {payload : OpaquePayload}
    (h : message.opaquePayload = some payload) : message.variableLen = payload.bytes.length := by
  cases message <;> cases h <;> rfl

/-- `Accepts` says no more of an envelope than that it has been decoded. -/
theorem CodecLimits.accepts_of_decodeVerified {limits : CodecLimits} {wire : WireEnvelope}
    {envelope : Envelope} (h : limits.decodeVerified wire = .ok envelope) :
    limits.Accepts envelope := by
  obtain ⟨hversion, kind, -, deliveryClass, hclass, message, hmessage, hvalid, rfl⟩ :=
    decodeVerified_eq_ok.mp h
  refine ⟨hversion, messageKind_ne_unknown hvalid, (knownEnum_eq_ok hclass).2, ?_, hvalid⟩
  intro payload hpayload
  refine ⟨typeId_of_validate hvalid hpayload, ?_⟩
  have hmessagePayload : message.opaquePayload = some payload := hpayload
  rw [← variableLen_of_opaquePayload hmessagePayload]
  rcases decodeMessage_eq_ok hmessage with hopaque | ⟨control, -, -, -, rfl⟩
  · exact (variableLen_of_decodeOpaque hopaque).2
  · cases hmessagePayload

theorem FlatBuffers.decode_eq_ok {library : FlatBuffers} {limits : CodecLimits}
    {bytes : List UInt8} {envelope : Envelope} (h : library.decode limits bytes = .ok envelope) :
    ∃ wire, library.root bytes = .ok wire ∧ limits.decodeVerified wire = .ok envelope := by
  unfold FlatBuffers.decode CodecLimits.decode at h
  simp only [Except.bind_eq_ok] at h
  obtain ⟨-, -, hframe⟩ := h
  unfold FlatBuffers.decodeFrame at hframe
  by_cases hidentifier : library.hasIdentifier bytes = true
  · cases hroot : library.root bytes with
    | error error => simp [hidentifier, hroot] at hframe
    | ok wire =>
      simp [hidentifier, hroot] at hframe
      exact ⟨wire, rfl, hframe⟩
  · simp [hidentifier] at hframe

namespace Sample

/-- The sample library reads `wire` of `frame`. -/
theorem decode_library {wire : WireEnvelope} {frame : List UInt8} {limits : CodecLimits}
    {envelope : Envelope} (hlen : limits.expectedFrameLen frame = .ok (some frame.length))
    (hidentifier : (frame.drop 8).take 4 = fileIdentifier)
    (hdecoded : limits.decodeVerified wire = .ok envelope) :
    (library wire frame).decode limits frame = .ok envelope := by
  have hidentified : (library wire frame).hasIdentifier frame = true := beq_iff_eq.mpr hidentifier
  have hroot : (library wire frame).root frame = .ok wire := if_pos rfl
  calc (library wire frame).decode limits frame
      = (library wire frame).decodeFrame limits frame := CodecLimits.decode_of_expectedFrameLen hlen
    _ = limits.decodeVerified wire := by
        unfold FlatBuffers.decodeFrame
        rw [hidentified, hroot]
        rfl
    _ = .ok envelope := hdecoded

/-- A request with three bytes of text and three of input. -/
def inferenceRequested : Envelope where
  protocolVersion := protocolVersion
  deliveryClass := .reliableOrdered
  namespaceId := 1
  sessionId := 1
  spaceId := 1
  entityId := some 7
  spaceEpoch := 1
  message := .control (.inferenceRequested "llm" 0 [1, 2, 3])

/-- Its frame. -/
def inferenceRequestedFrame : List UInt8 :=
  [140, 0, 0, 0, 48, 0, 0, 0, 87, 86, 78, 49, 0, 0, 0, 0, 0, 0, 34, 0, 54, 0, 0, 0, 5, 0, 6, 0, 12,
    0, 20, 0, 28, 0, 36, 0, 44, 0, 0, 0, 0, 0, 0, 0, 0, 0, 0, 0, 7, 0, 8, 0, 34, 0, 0, 0, 0, 21, 1,
    18, 56, 0, 0, 0, 1, 0, 0, 0, 0, 0, 0, 0, 1, 0, 0, 0, 0, 0, 0, 0, 1, 0, 0, 0, 0, 0, 0, 0, 7, 0,
    0, 0, 0, 0, 0, 0, 1, 0, 0, 0, 0, 0, 0, 0, 0, 0, 10, 0, 12, 0, 4, 0, 0, 0, 8, 0, 10, 0, 0, 0, 16,
    0, 0, 0, 4, 0, 0, 0, 3, 0, 0, 0, 1, 2, 3, 0, 3, 0, 0, 0, 108, 108, 109, 0]

/-- A codec that takes four bytes of payload. -/
def fourBytes : CodecLimits := { maxFrameLen := 1024, maxPayloadLen := 4 }

end Sample

end Signalweave.Protocol

namespace Signalweave

open Protocol

/-- What is decoded of a frame could be encoded again if and only if its table is none of the two
with a string and a vector that are too long together. -/
theorem validateOutbound_decode_iff {library : FlatBuffers} {limits : CodecLimits}
    {bytes : List UInt8} {envelope : Envelope} (h : library.decode limits bytes = .ok envelope) :
    limits.validateOutbound envelope = .ok () ↔
      ∀ wire control, library.root bytes = .ok wire → wire.control = some control →
        control.Fits limits.maxPayloadLen := by
  obtain ⟨wire, hroot, hdecoded⟩ := FlatBuffers.decode_eq_ok h
  rw [CodecLimits.validateOutbound_of_decodeVerified hdecoded]
  constructor
  · intro hfits other control hother hcontrol
    cases hroot.symm.trans hother
    exact hfits control hcontrol
  · intro hfits control hcontrol
    exact hfits wire control hroot hcontrol

/-- The completion of a tool call has one field with a length. -/
theorem validateOutbound_decode_toolCallCompleted :
    ({} : CodecLimits).validateOutbound Sample.toolCallCompleted = .ok () ↔
      ∀ wire control,
        (Sample.library (encodeEnvelope Sample.toolCallCompleted)
          Sample.toolCallCompletedFrame).root
            Sample.toolCallCompletedFrame = .ok wire →
          wire.control = some control → control.Fits (256 * 1024) :=
  validateOutbound_decode_iff
    (Sample.decode_library (by decide +kernel) (by decide +kernel) (by decide +kernel))

/-- The request is decoded under a limit of four bytes and not encoded under it. -/
theorem not_validateOutbound_decode :
    ¬ ∀ (library : FlatBuffers) (maxFrameLen maxPayloadLen : Nat) (limits : CodecLimits)
      (bytes : List UInt8) (envelope : Envelope), library.Sound →
        CodecLimits.new maxFrameLen maxPayloadLen = .ok limits →
          library.decode limits bytes = .ok envelope →
            limits.validateOutbound envelope = .ok () := by
  intro hall
  have hlibrary : (Sample.library (encodeEnvelope Sample.inferenceRequested)
      Sample.inferenceRequestedFrame).Sound :=
    Sample.sound_library (by decide +kernel) (by decide +kernel) (by decide +kernel)
      (by decide +kernel)
  have hdecoded : (Sample.library (encodeEnvelope Sample.inferenceRequested)
      Sample.inferenceRequestedFrame).decode Sample.fourBytes Sample.inferenceRequestedFrame =
        .ok Sample.inferenceRequested :=
    Sample.decode_library (by decide +kernel) (by decide +kernel) (by decide +kernel)
  have hencoded := hall _ 1024 4 Sample.fourBytes _ _ hlibrary rfl hdecoded
  have hrefused : Sample.fourBytes.validateOutbound Sample.inferenceRequested =
      .error (.payloadTooLarge 6 4) := by decide +kernel
  rw [hrefused] at hencoded
  cases hencoded

end Signalweave
