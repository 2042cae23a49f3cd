import Mathlib.Logic.Basic

/-!
# Envelopes (`woven-protocol`, `model.rs`)

What the wire carries: one envelope around a control payload or around opaque application bytes.
Every identifier is a bare `u64` here, zero standing for an absent one where an option is not used.
-/

namespace Signalweave.Protocol

/-- `PROTOCOL_VERSION`. -/
def protocolVersion : Nat := 1

/-- What an envelope carries. -/
inductive MessageKind where
  | unknown
  | hello
  | capabilities
  | authenticate
  | authenticated
  | joinSession
  | leaveSession
  | subscribeSpace
  | unsubscribeSpace
  | subscriptionAccepted
  | subscriptionRejected
  | entityEntered
  | entityLeft
  | entityState
  | reliableEvent
  | snapshotRequest
  | snapshot
  | spaceTransition
  | ping
  | pong
  | protocolError
  | inferenceRequested
  | inferenceAccepted
  | inferenceProgress
  | inferenceStreamChunk
  | inferenceCompleted
  | inferenceFailed
  | inferenceCancelled
  | inferenceExpired
  | toolCallProposed
  | toolCallAccepted
  | toolCallRejected
  | toolCallCompleted
  deriving DecidableEq

/-- How an envelope is to be delivered. -/
inductive DeliveryClass where
  | unknown
  | reliableOrdered
  | reliableUnordered
  | latestValue
  | unreliableSequenced
  | bestEffortEvent
  deriving DecidableEq

/-- `DeliveryClass::is_unreliable`: carried by datagrams. -/
def DeliveryClass.isUnreliable : DeliveryClass → Bool
  | .unreliableSequenced | .bestEffortEvent => true
  | _ => false

/-- What the credentials of a client are. -/
inductive AuthenticationScheme where
  | unknown
  | bearer
  | development
  deriving DecidableEq

/-- Why a subscription is rejected. -/
inductive SubscriptionRejectionCode where
  | unknown
  | unauthorized
  | spaceNotFound
  | capacityExceeded
  | epochMismatch
  deriving DecidableEq

/-- Why an entity has left a space. -/
inductive EntityLeaveReason where
  | unknown
  | unsubscribed
  | disconnected
  | transitioned
  | removed
  deriving DecidableEq

/-- What kind of error a client is told of. -/
inductive ProtocolErrorCode where
  | unknown
  | malformedFrame
  | unsupportedVersion
  | unsupportedMessage
  | authenticationRequired
  | unauthorized
  | invalidScope
  | staleEpoch
  | sequenceRejected
  | payloadTooLarge
  | rateLimited
  | internal
  deriving DecidableEq

/-- Why a tool call is rejected. -/
inductive ToolCallRejectionCode where
  | unknown
  | stale
  | unauthorized
  | invalidArguments
  | policyDenied
  deriving DecidableEq

/-- The payload of a control message. -/
inductive ControlPayload where
  | hello (minProtocolVersion maxProtocolVersion : Nat) (clientName clientVersion : String)
    (capabilityBits maxFrameSize maxPayloadSize : Nat)
  | capabilities (selectedProtocolVersion : Nat) (serverName serverVersion : String)
    (capabilityBits maxFrameSize maxPayloadSize : Nat)
  | authenticate (scheme : AuthenticationScheme) (credentials : List UInt8)
  | authenticated (principalId : Nat) (assignedEntityId : Option Nat)
  | joinSession (resumeToken : List UInt8)
  | leaveSession (reason : String)
  | subscribeSpace
  | unsubscribeSpace (subscriptionId : Nat)
  | subscriptionAccepted (subscriptionId acceptedSpaceEpoch : Nat)
  | subscriptionRejected (code : SubscriptionRejectionCode) (reason : String)
  | entityEntered (ownerEntityId : Option Nat)
  | entityLeft (reason : EntityLeaveReason)
  | snapshotRequest (afterServerTick : Option Nat)
  | spaceTransition (fromSpaceId toSpaceId toSpaceEpoch : Nat)
  | ping (nonce senderTimeMicros : Nat)
  | pong (nonce senderTimeMicros responderTimeMicros : Nat)
  | protocolError (code : ProtocolErrorCode) (relatedMessageKind : MessageKind) (message : String)
  | inferenceRequested (capability : String) (deadlineMs : Nat) (input : List UInt8)
  | inferenceAccepted (queuedPosition : Nat)
  | inferenceProgress (percent : Nat)
  | inferenceStreamChunk (sequence : Nat) (chunk : List UInt8) (isFinal : Bool)
  | inferenceCompleted (result : List UInt8)
  | inferenceFailed (reason : String)
  | inferenceCancelled (reason : String)
  | inferenceExpired (reason : String)
  | toolCallProposed (toolId : String) (toolVersion : Nat) (arguments : List UInt8)
    (expectedRevision : Nat)
  | toolCallAccepted (toolId : String)
  | toolCallRejected (code : ToolCallRejectionCode) (reason : String)
  | toolCallCompleted (newRevision : Nat) (result : List UInt8)
  deriving DecidableEq

/-- `ControlPayload::message_kind`. -/
def ControlPayload.messageKind : ControlPayload → MessageKind
  | hello .. => .hello
  | capabilities .. => .capabilities
  | authenticate .. => .authenticate
  | authenticated .. => .authenticated
  | joinSession _ => .joinSession
  | leaveSession _ => .leaveSession
  | subscribeSpace => .subscribeSpace
  | unsubscribeSpace _ => .unsubscribeSpace
  | subscriptionAccepted .. => .subscriptionAccepted
  | subscriptionRejected .. => .subscriptionRejected
  | entityEntered _ => .entityEntered
  | entityLeft _ => .entityLeft
  | snapshotRequest _ => .snapshotRequest
  | spaceTransition .. => .spaceTransition
  | ping .. => .ping
  | pong .. => .pong
  | protocolError .. => .protocolError
  | inferenceRequested .. => .inferenceRequested
  | inferenceAccepted _ => .inferenceAccepted
  | inferenceProgress _ => .inferenceProgress
  | inferenceStreamChunk .. => .inferenceStreamChunk
  | inferenceCompleted _ => .inferenceCompleted
  | inferenceFailed _ => .inferenceFailed
  | inferenceCancelled _ => .inferenceCancelled
  | inferenceExpired _ => .inferenceExpired
  | toolCallProposed .. => .toolCallProposed
  | toolCallAccepted _ => .toolCallAccepted
  | toolCallRejected .. => .toolCallRejected
  | toolCallCompleted .. => .toolCallCompleted

/-- The bytes of a control payload that the payload limit counts. -/
def ControlPayload.variableLen : ControlPayload → Nat
  | hello _ _ clientName clientVersion _ _ _ => clientName.utf8ByteSize + clientVersion.utf8ByteSize
  | capabilities _ serverName serverVersion _ _ _ =>
    serverName.utf8ByteSize + serverVersion.utf8ByteSize
  | authenticate _ credentials => credentials.length
  | joinSession resumeToken => resumeToken.length
  | leaveSession reason | subscriptionRejected _ reason | protocolError _ _ reason
  | inferenceFailed reason | inferenceCancelled reason | inferenceExpired reason
  | toolCallRejected _ reason => reason.utf8ByteSize
  | inferenceRequested capability _ input => capability.utf8ByteSize + input.length
  | inferenceStreamChunk _ chunk _ => chunk.length
  | inferenceCompleted result | toolCallCompleted _ result => result.length
  | toolCallProposed toolId _ arguments _ => toolId.utf8ByteSize + arguments.length
  | toolCallAccepted toolId => toolId.utf8ByteSize
  | authenticated .. | subscribeSpace | unsubscribeSpace _ | subscriptionAccepted ..
  | entityEntered _ | entityLeft _ | snapshotRequest _ | spaceTransition .. | ping .. | pong ..
  | inferenceAccepted _ | inferenceProgress _ => 0

/-- A payload of the application, which the protocol does not read. -/
structure OpaquePayload where
  typeId : Nat
  bytes : List UInt8
  deriving DecidableEq

/-- The payload of an envelope. -/
inductive MessagePayload where
  | control (payload : ControlPayload)
  | entityState (payload : OpaquePayload)
  | reliableEvent (payload : OpaquePayload)
  | snapshot (payload : OpaquePayload)
  deriving DecidableEq

/-- `MessagePayload::message_kind`. -/
def MessagePayload.messageKind : MessagePayload → MessageKind
  | control payload => payload.messageKind
  | entityState _ => .entityState
  | reliableEvent _ => .reliableEvent
  | snapshot _ => .snapshot

/-- `MessagePayload::opaque`. -/
def MessagePayload.opaquePayload : MessagePayload → Option OpaquePayload
  | control _ => none
  | entityState payload | reliableEvent payload | snapshot payload => some payload

/-- An envelope as the program sees it. -/
structure Envelope where
  protocolVersion : Nat
  deliveryClass : DeliveryClass
  namespaceId : Nat := 0
  sessionId : Nat := 0
  spaceId : Nat := 0
  channelId : Option Nat := none
  entityId : Option Nat := none
  spaceEpoch : Nat := 0
  serverTick : Nat := 0
  senderSequence : Nat := 0
  correlationId : Option Nat := none
  message : MessagePayload
  deriving DecidableEq

namespace Envelope

/-- `Envelope::control`: a control payload without a scope. -/
def control (deliveryClass : DeliveryClass) (payload : ControlPayload) : Envelope :=
  { protocolVersion := Protocol.protocolVersion, deliveryClass, message := .control payload }

/-- `Envelope::message_kind`. -/
def messageKind (envelope : Envelope) : MessageKind := envelope.message.messageKind

/-- `Envelope::payload_type_id`. -/
def payloadTypeId (envelope : Envelope) : Option Nat :=
  envelope.message.opaquePayload.map (·.typeId)

/-- `Envelope::payload_bytes`. -/
def payloadBytes (envelope : Envelope) : List UInt8 :=
  envelope.message.opaquePayload.elim [] (·.bytes)

end Envelope

end Signalweave.Protocol
