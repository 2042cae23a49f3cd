import Signalweave.Protocol.RoundTrip

/-!
# What the two clients send (`encode.ts`, `woven-client-rust`)

The Rust client makes an envelope of each request and gives it to the codec. The TypeScript client
writes the table of the envelope itself, with the functions that are generated from the schema.
-/

namespace Signalweave.Client

open Protocol

/-! ## The TypeScript encoders -/

/-- The scope that an application gives an envelope. What it leaves out is zero. -/
structure EnvelopeScope where
  namespaceId : Option Nat := none
  sessionId : Option Nat := none
  spaceId : Option Nat := none
  spaceEpoch : Option Nat := none
  channelId : Option Nat := none
  entityId : Option Nat := none
  senderSequence : Option Nat := none

/-- The members of the union that the client writes. -/
inductive ControlType where
  | none
  | helloPayload
  | authenticatePayload
  | joinSessionPayload
  | subscribeSpacePayload
  | snapshotRequestPayload
  | spaceTransitionPayload
  | inferenceRequestedPayload

/-- The number of a control payload in the union of the schema. -/
def ControlType.number : ControlType → Nat
  | none => 0
  | helloPayload => 1
  | authenticatePayload => 3
  | joinSessionPayload => 5
  | subscribeSpacePayload => 7
  | snapshotRequestPayload => 13
  | spaceTransitionPayload => 14
  | inferenceRequestedPayload => 18

/-- `createEnvelope`, with its arguments in the order of the schema. A table is a member of the
union under the type of its own alone. -/
def createEnvelope (protocolVersion : Nat) (messageKind : MessageKind)
    (deliveryClass : Protocol.DeliveryClass)
    (namespaceId sessionId spaceId entityId spaceEpoch serverTick senderSequence correlationId
      payloadTypeId : Nat)
    (payload : Option (List UInt8)) (controlType : ControlType) (control : Option WireControl)
    (channelId : Nat) : WireEnvelope where
  protocolVersion
  messageKind := value messageKind
  deliveryClass := value deliveryClass
  namespaceId
  sessionId
  spaceId
  entityId
  spaceEpoch
  serverTick
  senderSequence
  correlationId
  payloadTypeId
  payload
  control := control.filter (·.controlType == controlType.number)
  channelId

/-- An envelope with a payload of the application. -/
def encodeOpaque (kind : MessageKind) (deliveryClass : Protocol.DeliveryClass)
    (scope : EnvelopeScope) (payload : OpaquePayload) : WireEnvelope :=
  createEnvelope protocolVersion kind deliveryClass (scope.namespaceId.getD 0)
    (scope.sessionId.getD 0) (scope.spaceId.getD 0) (scope.entityId.getD 0)
    (scope.spaceEpoch.getD 0) 0 (scope.senderSequence.getD 0) 0 payload.typeId (some payload.bytes)
    .none none (scope.channelId.getD 0)

/-- An envelope with a control payload. -/
def finishControl (kind : MessageKind) (controlType : ControlType) (control : WireControl)
    (deliveryClass : Protocol.DeliveryClass) (scope : EnvelopeScope) : WireEnvelope :=
  createEnvelope protocolVersion kind deliveryClass (scope.namespaceId.getD 0)
    (scope.sessionId.getD 0) (scope.spaceId.getD 0) (scope.entityId.getD 0)
    (scope.spaceEpoch.getD 0) 0 (scope.senderSequence.getD 0) 0 0 none controlType (some control)
    (scope.channelId.getD 0)

/-- What an application may say of itself in its hello. -/
structure HelloOptions where
  clientName : Option String := none
  clientVersion : Option String := none
  maxFrameSize : Option Nat := none
  maxPayloadSize : Option Nat := none

/-- `encodeHello`, with the defaults of the package. -/
def encodeHello (opts : HelloOptions) : WireEnvelope :=
  finishControl .hello .helloPayload
    (.helloPayload 1 1 (some (opts.clientName.getD "woven-client-ts"))
      (some (opts.clientVersion.getD "0.1.0")) 0 (opts.maxFrameSize.getD 65536)
      (opts.maxPayloadSize.getD 65536))
    .reliableOrdered {}

/-- `encodeAuthenticate`: the development scheme. -/
def encodeAuthenticate (credentials : List UInt8) : WireEnvelope :=
  finishControl .authenticate .authenticatePayload
    (.authenticatePayload (value AuthenticationScheme.development) (some credentials))
    .reliableOrdered {}

/-- `encodeJoinSession`: no token is an empty one. -/
def encodeJoinSession (scope : EnvelopeScope) (resumeToken : Option (List UInt8)) : WireEnvelope :=
  finishControl .joinSession .joinSessionPayload (.joinSessionPayload (some (resumeToken.getD [])))
    .reliableOrdered scope

/-- `encodeSubscribeSpace`: the channel stands in the payload and in the scope. -/
def encodeSubscribeSpace (scope : EnvelopeScope) (channelId : Nat) : WireEnvelope :=
  finishControl .subscribeSpace .subscribeSpacePayload (.subscribeSpacePayload channelId)
    .reliableOrdered { scope with channelId }

/-- `encodeSnapshotRequest`: the channel stands in the payload and in the scope. -/
def encodeSnapshotRequest (scope : EnvelopeScope) (channelId : Nat) (afterServerTick : Option Nat) :
    WireEnvelope :=
  finishControl .snapshotRequest .snapshotRequestPayload
    (.snapshotRequestPayload channelId (afterServerTick.getD 0)) .reliableOrdered
    { scope with channelId }

/-- `encodeSpaceTransition`. -/
def encodeSpaceTransition (scope : EnvelopeScope) (fromSpaceId toSpaceId toSpaceEpoch : Nat) :
    WireEnvelope :=
  finishControl .spaceTransition .spaceTransitionPayload
    (.spaceTransitionPayload fromSpaceId toSpaceId toSpaceEpoch) .reliableOrdered scope

/-- `encodeInferenceRequested`. -/
def encodeInferenceRequested (scope : EnvelopeScope) (capability : String) (deadlineMs : Nat)
    (input : List UInt8) : WireEnvelope :=
  finishControl .inferenceRequested .inferenceRequestedPayload
    (.inferenceRequestedPayload (some capability) deadlineMs (some input)) .reliableOrdered scope

/-- `encodeReliableEvent`. -/
def encodeReliableEvent (scope : EnvelopeScope) (payload : OpaquePayload) : WireEnvelope :=
  encodeOpaque .reliableEvent .reliableOrdered scope payload

/-- `encodeEntityState`. -/
def encodeEntityState (scope : EnvelopeScope) (payload : OpaquePayload) : WireEnvelope :=
  encodeOpaque .entityState .latestValue scope payload

/-! ## The envelopes of the Rust client -/

/-- The `Hello` of `connect`, with the name and the version of the client that sends it. -/
def connectHello (clientName clientVersion : String) (maxFrameBytes maxPayloadBytes : Nat) :
    Envelope where
  protocolVersion := protocolVersion
  deliveryClass := .reliableOrdered
  message := .control (.hello 1 1 clientName clientVersion 0 maxFrameBytes maxPayloadBytes)

/-- The `Authenticate` of `connect`. -/
def connectAuthenticate (token : String) : Envelope where
  protocolVersion := protocolVersion
  deliveryClass := .reliableOrdered
  message := .control (.authenticate .development token.toUTF8.toList)

/-- `Client::join_session`, without a resume token. -/
def joinSession (namespaceId sessionId : Nat) : Envelope where
  protocolVersion := protocolVersion
  deliveryClass := .reliableOrdered
  namespaceId
  sessionId
  message := .control (.joinSession [])

/-- `Client::subscribe_space`. -/
def subscribeSpace (namespaceId sessionId spaceId spaceEpoch channelId : Nat) : Envelope where
  protocolVersion := protocolVersion
  deliveryClass := .reliableOrdered
  namespaceId
  sessionId
  spaceId
  channelId := some channelId
  spaceEpoch
  message := .control .subscribeSpace

/-- `Client::transition_entity`: the envelope has the scope that is left. -/
def transitionEntity (namespaceId sessionId sourceSpaceId sourceEpoch destinationSpaceId
    destinationEpoch entityId : Nat) : Envelope where
  protocolVersion := protocolVersion
  deliveryClass := .reliableOrdered
  namespaceId
  sessionId
  spaceId := sourceSpaceId
  entityId := some entityId
  spaceEpoch := sourceEpoch
  message := .control (.spaceTransition sourceSpaceId destinationSpaceId destinationEpoch)

/-- `Client::request_snapshot`. -/
def requestSnapshot (namespaceId sessionId spaceId spaceEpoch channelId : Nat) : Envelope where
  protocolVersion := protocolVersion
  deliveryClass := .reliableOrdered
  namespaceId
  sessionId
  spaceId
  channelId := some channelId
  spaceEpoch
  message := .control (.snapshotRequest none)

/-- `Client::publish_event`. -/
def publishEvent (namespaceId sessionId spaceId spaceEpoch channelId entityId sequence typeId : Nat)
    (payload : List UInt8) : Envelope where
  protocolVersion := protocolVersion
  deliveryClass := .reliableOrdered
  namespaceId
  sessionId
  spaceId
  channelId := some channelId
  entityId := some entityId
  spaceEpoch
  senderSequence := sequence
  message := .reliableEvent { typeId, bytes := payload }

/-- `Client::publish_state`. -/
def publishState (namespaceId sessionId spaceId spaceEpoch channelId entityId sequence typeId : Nat)
    (payload : List UInt8) : Envelope where
  protocolVersion := protocolVersion
  deliveryClass := .latestValue
  namespaceId
  sessionId
  spaceId
  channelId := some channelId
  entityId := some entityId
  spaceEpoch
  senderSequence := sequence
  message := .entityState { typeId, bytes := payload }

/-- `Client::request_inference`: the entity of the scope is that of the coordinator. -/
def requestInference (namespaceId sessionId spaceId spaceEpoch aiEntityId : Nat)
    (capability : String)
    (deadlineMs : Nat) (input : List UInt8) : Envelope where
  protocolVersion := protocolVersion
  deliveryClass := .reliableOrdered
  namespaceId
  sessionId
  spaceId
  entityId := some aiEntityId
  spaceEpoch
  message := .control (.inferenceRequested capability deadlineMs input)

/-! ## Requests -/

/-- What an application asks of its client, the same in both languages. -/
inductive Request where
  | hello (opts : HelloOptions)
  | authenticate (token : String)
  | joinSession (namespaceId sessionId : Nat)
  | subscribeSpace (namespaceId sessionId spaceId spaceEpoch channelId : Nat)
  | transitionEntity (namespaceId sessionId sourceSpaceId sourceEpoch destinationSpaceId
    destinationEpoch entityId : Nat)
  | requestSnapshot (namespaceId sessionId spaceId spaceEpoch channelId : Nat)
  | publishEvent (namespaceId sessionId spaceId spaceEpoch channelId entityId sequence typeId : Nat)
    (payload : List UInt8)
  | publishState (namespaceId sessionId spaceId spaceEpoch channelId entityId sequence typeId : Nat)
    (payload : List UInt8)
  | requestInference (namespaceId sessionId spaceId spaceEpoch aiEntityId : Nat)
    (capability : String) (deadlineMs : Nat) (input : List UInt8)

namespace Request

/-- The table that `WovenClient` writes. -/
def table : Request → WireEnvelope
  | hello opts => encodeHello opts
  | authenticate token => encodeAuthenticate token.toUTF8.toList
  | joinSession namespaceId sessionId => encodeJoinSession { namespaceId, sessionId } none
  | subscribeSpace namespaceId sessionId spaceId spaceEpoch channelId =>
    encodeSubscribeSpace { namespaceId, sessionId, spaceId, spaceEpoch } channelId
  | transitionEntity namespaceId sessionId sourceSpaceId sourceEpoch destinationSpaceId
      destinationEpoch entityId =>
    encodeSpaceTransition
      { namespaceId, sessionId, spaceId := sourceSpaceId, spaceEpoch := sourceEpoch, entityId }
      sourceSpaceId destinationSpaceId destinationEpoch
  | requestSnapshot namespaceId sessionId spaceId spaceEpoch channelId =>
    encodeSnapshotRequest { namespaceId, sessionId, spaceId, spaceEpoch } channelId none
  | publishEvent namespaceId sessionId spaceId spaceEpoch channelId entityId sequence typeId
      payload =>
    encodeReliableEvent
      { namespaceId, sessionId, spaceId, spaceEpoch, channelId, entityId,
        senderSequence := sequence }
      { typeId, bytes := payload }
  | publishState namespaceId sessionId spaceId spaceEpoch channelId entityId sequence typeId
      payload =>
    encodeEntityState
      { namespaceId, sessionId, spaceId, spaceEpoch, channelId, entityId,
        senderSequence := sequence }
      { typeId, bytes := payload }
  | requestInference namespaceId sessionId spaceId spaceEpoch aiEntityId capability deadlineMs
      input =>
    encodeInferenceRequested
      { namespaceId, sessionId, spaceId, spaceEpoch, entityId := aiEntityId } capability deadlineMs
      input

/-- The envelope that the Rust client gives to its codec, a `Hello` with the name and the version of
the other client. -/
def envelope : Request → Envelope
  | hello opts =>
    connectHello (opts.clientName.getD "woven-client-ts") (opts.clientVersion.getD "0.1.0")
      (opts.maxFrameSize.getD 65536) (opts.maxPayloadSize.getD 65536)
  | authenticate token => connectAuthenticate token
  | joinSession namespaceId sessionId => Client.joinSession namespaceId sessionId
  | subscribeSpace namespaceId sessionId spaceId spaceEpoch channelId =>
    Client.subscribeSpace namespaceId sessionId spaceId spaceEpoch channelId
  | transitionEntity namespaceId sessionId sourceSpaceId sourceEpoch destinationSpaceId
      destinationEpoch entityId =>
    Client.transitionEntity namespaceId sessionId sourceSpaceId sourceEpoch destinationSpaceId
      destinationEpoch entityId
  | requestSnapshot namespaceId sessionId spaceId spaceEpoch channelId =>
    Client.requestSnapshot namespaceId sessionId spaceId spaceEpoch channelId
  | publishEvent namespaceId sessionId spaceId spaceEpoch channelId entityId sequence typeId
      payload =>
    Client.publishEvent namespaceId sessionId spaceId spaceEpoch channelId entityId sequence typeId
      payload
  | publishState namespaceId sessionId spaceId spaceEpoch channelId entityId sequence typeId
      payload =>
    Client.publishState namespaceId sessionId spaceId spaceEpoch channelId entityId sequence typeId
      payload
  | requestInference namespaceId sessionId spaceId spaceEpoch aiEntityId capability deadlineMs
      input =>
    Client.requestInference namespaceId sessionId spaceId spaceEpoch aiEntityId capability
      deadlineMs
      input

/-- The two clients write the same table. -/
theorem table_eq (request : Request) : request.table = encodeEnvelope request.envelope := by
  cases request <;> rfl

end Request

end Signalweave.Client

namespace Signalweave

open Protocol Client

/-- What the codec makes of the frame of the TypeScript client is the envelope of the Rust client,
wherever the Rust client can send it. `builder` is the builder of the TypeScript library, and what
it adds to the bytes of a message is bounded. -/
theorem decode_typescript {library : FlatBuffers} {builder : WireEnvelope → List UInt8}
    (hbuilder : ({ library with finish := builder } : FlatBuffers).Sound) {request : Request}
    (hbounded :
      (builder request.table).length ≤ request.envelope.message.variableLen + 4096)
    {bytes : List UInt8} (h : library.encode {} request.envelope = .ok bytes) :
    library.decode {} (builder request.table) = .ok request.envelope := by
  have hvalid := (FlatBuffers.encode_eq_ok.mp h).1
  have hpayload := (CodecLimits.validateOutbound_eq_ok.mp hvalid).2.2.2
  have hframe : (builder request.table).length ≤ ({} : CodecLimits).maxFrameLen := by
    change request.envelope.message.variableLen ≤ 256 * 1024 at hpayload
    change (builder request.table).length ≤ 1024 * 1024
    omega
  rw [Request.table_eq] at hframe ⊢
  exact hbuilder.decode_finish (by decide) hvalid hframe

namespace Client.Sample

/-- An event of two bytes. -/
def publishHi : Request := .publishEvent 1 1 1 1 1 1 1 1 [104, 105]

/-- What the TypeScript client writes of it (`ts_client_wire.rs`). -/
def publishHiFrame : List UInt8 :=
  [140, 0, 0, 0, 48, 0, 0, 0, 87, 86, 78, 49, 0, 0, 0, 0, 36, 0, 84, 0, 0, 0, 83, 0, 82, 0, 68, 0,
    60, 0, 52, 0, 44, 0, 36, 0, 0, 0, 28, 0, 0, 0, 20, 0, 16, 0, 0, 0, 0, 0, 4, 0, 36, 0, 0, 0, 1,
    0, 0, 0, 0, 0, 0, 0, 0, 0, 0, 0, 68, 0, 0, 0, 1, 0, 0, 0, 0, 0, 0, 0, 1, 0, 0, 0, 0, 0, 0, 0, 1,
    0, 0, 0, 0, 0, 0, 0, 1, 0, 0, 0, 0, 0, 0, 0, 1, 0, 0, 0, 0, 0, 0, 0, 1, 0, 0, 0, 0, 0, 0, 0, 1,
    0, 0, 0, 0, 0, 0, 0, 0, 0, 0, 0, 0, 0, 1, 14, 2, 0, 0, 0, 104, 105, 0, 0]

/-- What the Rust client writes of it. -/
def publishHiRustFrame : List UInt8 :=
  [132, 0, 0, 0, 48, 0, 0, 0, 87, 86, 78, 49, 0, 0, 0, 0, 36, 0, 76, 0, 0, 0, 6, 0, 7, 0, 12, 0, 20,
    0, 28, 0, 36, 0, 44, 0, 0, 0, 52, 0, 0, 0, 60, 0, 8, 0, 0, 0, 0, 0, 68, 0, 36, 0, 0, 0, 0, 0,
    14, 1, 68, 0, 0, 0, 1, 0, 0, 0, 0, 0, 0, 0, 1, 0, 0, 0, 0, 0, 0, 0, 1, 0, 0, 0, 0, 0, 0, 0, 1,
    0, 0, 0, 0, 0, 0, 0, 1, 0, 0, 0, 0, 0, 0, 0, 1, 0, 0, 0, 0, 0, 0, 0, 1, 0, 0, 0, 0, 0, 0, 0, 1,
    0, 0, 0, 0, 0, 0, 0, 2, 0, 0, 0, 104, 105, 0, 0]

/-- A library that writes the one frame, and its counterpart in TypeScript the other. -/
noncomputable def publishHiLibrary : FlatBuffers where
  finish := (Protocol.Sample.library publishHi.table publishHiRustFrame).finish
  hasIdentifier := (Protocol.Sample.library publishHi.table publishHiFrame).hasIdentifier
  root := (Protocol.Sample.library publishHi.table publishHiFrame).root

end Client.Sample

theorem decode_typescript_publishHi :
    Sample.publishHiLibrary.decode {} Sample.publishHiFrame = .ok Sample.publishHi.envelope := by
  have hbuilder : (Protocol.Sample.library Sample.publishHi.table Sample.publishHiFrame).Sound :=
    Protocol.Sample.sound_library (by decide +kernel) (by decide +kernel) (by decide +kernel)
      (by decide +kernel)
  have hfinish : (Protocol.Sample.library Sample.publishHi.table Sample.publishHiFrame).finish
      Sample.publishHi.table = Sample.publishHiFrame := Protocol.Sample.finish_library
  have hrust : Sample.publishHiLibrary.finish Sample.publishHi.table = Sample.publishHiRustFrame :=
    @Protocol.Sample.finish_library Sample.publishHi.table Sample.publishHiRustFrame
  have hencoded : Sample.publishHiLibrary.encode {} Sample.publishHi.envelope =
      .ok Sample.publishHiRustFrame :=
    FlatBuffers.encode_eq_ok.mpr ⟨by decide +kernel, by decide +kernel, hrust.symm⟩
  have hdecoded := @decode_typescript Sample.publishHiLibrary
    (Protocol.Sample.library Sample.publishHi.table Sample.publishHiFrame).finish hbuilder
    Sample.publishHi (by rw [hfinish]; decide +kernel) _ hencoded
  rw [hfinish] at hdecoded
  exact hdecoded

end Signalweave
