import Signalweave.Core.State
import Signalweave.Protocol.Codec

/-!
# Between envelopes and the core (`woven-transport`)

What the transport makes of an envelope that a client has sent, and the envelopes that it makes of
what the core hands out.
-/

namespace Signalweave.Transport

open Protocol (ControlPayload EntityLeaveReason Envelope MessageKind MessagePayload OpaquePayload
  ProtocolErrorCode)

/-- `core_delivery`. -/
def coreDelivery : Protocol.DeliveryClass → Option DeliveryClass
  | .reliableOrdered => some .reliableOrdered
  | .reliableUnordered => some .reliableUnordered
  | .latestValue => some .latestValue
  | .unreliableSequenced => some .unreliableSequenced
  | .bestEffortEvent => some .bestEffortEvent
  | .unknown => none

/-- `protocol_delivery`. -/
def protocolDelivery : DeliveryClass → Protocol.DeliveryClass
  | .reliableOrdered => .reliableOrdered
  | .reliableUnordered => .reliableUnordered
  | .latestValue => .latestValue
  | .unreliableSequenced => .unreliableSequenced
  | .bestEffortEvent => .bestEffortEvent

theorem coreDelivery_eq_some {delivery : Protocol.DeliveryClass} {core : DeliveryClass} :
    coreDelivery delivery = some core ↔ delivery = protocolDelivery core := by
  cases delivery <;> cases core <;> simp [coreDelivery, protocolDelivery]

/-- `core_error_code`. -/
def coreErrorCode : CoreError → ProtocolErrorCode
  | .authenticationRequired => .authenticationRequired
  | .namespaceReadAccessDenied _ | .namespaceWriteAccessDenied _ | .sessionReadAccessDenied _
  | .sessionWriteAccessDenied _ | .spaceReadAccessDenied _ | .spaceWriteAccessDenied _
  | .channelWriteAccessDenied _ | .entityNotOwned _ | .authorityRejected _ => .unauthorized
  | .spaceEpochMismatch .. => .staleEpoch
  | .staleSequence .. => .sequenceRejected
  | .payloadTooLarge .. => .payloadTooLarge
  | .publishRateLimited _ => .rateLimited
  | _ => .internal

/-! ## Envelopes -/

/-- What the envelopes about an entity of a space have in common. -/
def lifecycleEnvelope (space : SpaceKey) (epoch : SpaceEpoch) (entity : EntityId)
    (payload : ControlPayload) : Envelope where
  protocolVersion := Protocol.protocolVersion
  deliveryClass := .reliableOrdered
  namespaceId := space.session.namespaceId.get
  sessionId := space.session.session.get
  spaceId := space.space.get
  entityId := some entity.get
  spaceEpoch := epoch.get
  message := .control payload

/-- `entity_entered_envelope`. -/
def entityEnteredEnvelope (space : SpaceKey) (epoch : SpaceEpoch) (entity : EntityId) : Envelope :=
  lifecycleEnvelope space epoch entity (.entityEntered (some entity.get))

/-- `entity_left_envelope`. -/
def entityLeftEnvelope (space : SpaceKey) (epoch : SpaceEpoch) (entity : EntityId)
    (reason : EntityLeaveReason) : Envelope :=
  lifecycleEnvelope space epoch entity (.entityLeft reason)

/-- Kind and type of the payload are not stored in a message: the one is derived from the class,
the other from the coalesce key. -/
def outboundEnvelope (message : OutboundMessage) : Envelope :=
  let delivery := protocolDelivery message.delivery
  let payload : OpaquePayload :=
    { typeId := message.coalesceKey.elim 1 (·.component), bytes := message.payload }
  { protocolVersion := Protocol.protocolVersion
    deliveryClass := delivery
    namespaceId := message.namespaceId.get
    sessionId := message.session.get
    spaceId := message.space.get
    channelId := some message.channel.get
    entityId := message.entity.map (·.get)
    spaceEpoch := message.spaceEpoch.get
    senderSequence := message.sequence
    message :=
      match delivery with
      | .latestValue | .unreliableSequenced => .entityState payload
      | _ => .reliableEvent payload }

/-- The envelope of `send_error`. -/
def errorEnvelope (related : MessageKind) (code : ProtocolErrorCode) (message : String) :
    Envelope :=
  .control .reliableOrdered
    (.protocolError code (if related = .unknown then .protocolError else related) message)

/-! ## Requests -/

/-- The session that an envelope names. -/
def envelopeSession (envelope : Envelope) : SessionKey :=
  ⟨⟨envelope.namespaceId⟩, ⟨envelope.sessionId⟩⟩

/-- The space that an envelope names. -/
def envelopeSpace (envelope : Envelope) : SpaceKey :=
  ⟨envelopeSession envelope, ⟨envelope.spaceId⟩⟩

/-- The publication that `handle_authenticated` makes of an envelope with this payload, of entity
state or not. -/
def payloadRequest (connection : ConnectionId) (envelope : Envelope) (payload : OpaquePayload)
    (persistence : PersistenceClass) : Option PublishRequest := do
  let delivery ← coreDelivery envelope.deliveryClass
  let entity : Option EntityId := envelope.entityId.map fun id => ⟨id⟩
  let channel ← envelope.channelId
  return {
    connection
    session := envelopeSession envelope
    space := ⟨envelope.spaceId⟩
    spaceEpoch := ⟨envelope.spaceEpoch⟩
    entity
    channel := ⟨channel⟩
    sequence := envelope.senderSequence
    delivery
    persistence
    coalesceKey :=
      if delivery.isReplaceable then
        some { channel := ⟨channel⟩, entity, component := payload.typeId }
      else none
    payload := payload.bytes }

/-- The publication that is made of an envelope, where one is. -/
def publishRequest (connection : ConnectionId) (envelope : Envelope) : Option PublishRequest :=
  match envelope.message with
  | .entityState payload => payloadRequest connection envelope payload .stateful
  | .reliableEvent payload => payloadRequest connection envelope payload .ephemeral
  | _ => none

end Signalweave.Transport
