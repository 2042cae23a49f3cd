import Signalweave.Core.Acceptance
import Signalweave.Core.Outbound
import Signalweave.Core.Reliable
import Signalweave.Transport.Bridge

/-!
# What the core relays (`woven-transport`)

The core and the protocol each have their own checks. What the core accepts is sent as the envelope
that `outbound_envelope` makes of it.
-/

open Std

namespace Signalweave

open Stateful WovenCore

variable {core core' : WovenCore} {request : PublishRequest} {now : Instant} {call : Nat}
  {clock : ReleaseClock} {plan : PublishPlan} {message : OutboundMessage}

/-! ## The identifiers of an accepted message -/

section Ids

variable {connection : ConnectionId} {key : SessionKey}
  {planned result : ExtTreeMap SequenceKey Nat}
  {authorized : AuthorizedMessage}

theorem ids_of_validateMessage {u : Unit}
    (h : core.validateMessage connection key authorized planned = .ok u) :
    validateAuthorizedMessageIds authorized = .ok () := by
  simp only [validateMessage, Except.bind_eq_ok] at h
  obtain ⟨⟨⟩, hids, -⟩ := h
  exact hids

theorem ids_of_planSequences {messages : List AuthorizedMessage}
    (h : core.planSequences connection key messages planned = .ok result) :
    ∀ authorized ∈ messages, validateAuthorizedMessageIds authorized = .ok () := by
  induction messages generalizing planned with
  | nil => simp
  | cons first rest ih =>
    simp only [planSequences, Except.bind_eq_ok] at h
    obtain ⟨⟨⟩, hvalid, hrest⟩ := h
    intro authorized hin
    rcases List.mem_cons.mp hin with rfl | hin
    · exact ids_of_validateMessage hvalid
    · exact ih hrest authorized hin

theorem ids_of_planPublish (h : core.planPublish request call = .ok plan) :
    validateSessionKey request.session = .ok () ∧
      ∀ authorized ∈ plan.messages, validateAuthorizedMessageIds authorized = .ok () := by
  simp only [planPublish, Except.bind_eq_ok, Except.ite_eq_ok, Except.throw_bind,
    Except.throw_ne_ok, Except.pure_eq_ok, and_false, false_or] at h
  obtain ⟨answer, hcheck, authorized, -, planned, hplanned, ⟨⟩, -, ⟨⟩, -, -, rfl⟩ := h
  refine ⟨?_, ids_of_planSequences hplanned⟩
  simp only [checkPublish, validatePublishRequestIds, Except.bind_eq_ok] at hcheck
  obtain ⟨⟨⟩, ⟨⟨⟩, hsession, -⟩, -⟩ := hcheck
  exact hsession

end Ids

theorem planPublish_of_acceptedPlan (h : acceptedPlan core request now call clock = some plan) :
    ∃ limiter, (core.limited request.connection limiter).planPublish request call = .ok plan := by
  unfold acceptedPlan at h
  split at h
  · rename_i limited _ hplanAt
    obtain rfl := Option.some.inj h
    obtain ⟨limiter, rfl, hplan⟩ := planAt_returns hplanAt
    exact ⟨limiter, hplan⟩
  · cases h

/-- A message that is accepted is one of a plan. -/
theorem mem_accepted {op : Op} (h : message ∈ op.accepted core) :
    ∃ (request : PublishRequest) (call : Nat) (limited : WovenCore) (plan : PublishPlan)
      (authorized : AuthorizedMessage), limited.planPublish request call = .ok plan ∧
        authorized ∈ plan.messages ∧ message = authorized.toOutbound request.session := by
  cases op with
  | publishAt request now call clock =>
    simp only [Op.accepted] at h
    cases haccepted : acceptedPlan core request now call clock with
    | none =>
      rw [haccepted] at h
      cases h
    | some plan =>
      rw [haccepted] at h
      obtain ⟨limiter, hplan⟩ := planPublish_of_acceptedPlan haccepted
      obtain ⟨authorized, hin, rfl⟩ := List.mem_map.mp h
      exact ⟨request, call, _, plan, authorized, hplan, hin, rfl⟩
  | _ => cases h

/-- Nothing that an accepted message is addressed with is zero. -/
structure OutboundMessage.Addressed (message : OutboundMessage) : Prop where
  namespaceId : message.namespaceId.get ≠ 0
  session : message.session.get ≠ 0
  space : message.space.get ≠ 0
  spaceEpoch : message.spaceEpoch.get ≠ 0
  channel : message.channel.get ≠ 0
  entity : ∀ id : EntityId, message.entity = some id → id.get ≠ 0

theorem requireEntityNonzero_eq_ok {entity : Option EntityId} {u : Unit} :
    requireEntityNonzero entity = .ok u ↔ ∀ id : EntityId, entity = some id → id.get ≠ 0 := by
  cases entity <;> simp [requireEntityNonzero]

theorem addressed_of_accepted {op : Op} (h : message ∈ op.accepted core) : message.Addressed := by
  obtain ⟨request, call, limited, plan, authorized, hplan, hin, rfl⟩ := mem_accepted h
  obtain ⟨hsession, hids⟩ := ids_of_planPublish hplan
  have hmessage := hids authorized hin
  simp only [validateSessionKey, Except.bind_eq_ok, requireNonzero_eq_ok] at hsession
  simp only [validateAuthorizedMessageIds, Except.bind_eq_ok, requireNonzero_eq_ok,
    requireEntityNonzero_eq_ok] at hmessage
  obtain ⟨-, hnamespace, hsession⟩ := hsession
  obtain ⟨-, hspace, -, hepoch, -, hchannel, -, hentity, -⟩ := hmessage
  exact ⟨hnamespace, hsession, hspace, hepoch, hchannel, hentity⟩

namespace Transport

open Protocol (CodecError CodecLimits Envelope OpaquePayload SpaceScope rejectZeroOptionalIds
  rejectZeroOptionalIds_eq_ok requireSpaceScope_eq_ok validate validateDelivery
  validateDelivery_eq_ok)

/-! ## Envelopes that can be encoded -/

/-- What the protocol asks of a message beyond what the core asks. -/
structure Encodable (message : OutboundMessage) : Prop where
  delivery : message.delivery ≠ .bestEffortEvent
  component : ∀ key ∈ message.coalesceKey, CoalesceKey.component key ≠ 0
  entity : message.delivery.isReplaceable = true → message.entity.isSome = true

theorem message_outboundEnvelope : (outboundEnvelope message).message =
    if message.delivery.isReplaceable = true then
      .entityState ⟨message.coalesceKey.elim 1 (·.component), message.payload⟩
    else .reliableEvent ⟨message.coalesceKey.elim 1 (·.component), message.payload⟩ := by
  unfold outboundEnvelope
  cases message.delivery <;> rfl

theorem delivers_outboundEnvelope : (outboundEnvelope message).messageKind.delivers
    (outboundEnvelope message).deliveryClass = true ↔ message.delivery ≠ .bestEffortEvent := by
  unfold outboundEnvelope Envelope.messageKind
  cases message.delivery <;> simp [protocolDelivery] <;> rfl

theorem typeId_ne_zero : message.coalesceKey.elim 1 (·.component) ≠ 0 ↔
    ∀ key ∈ message.coalesceKey, CoalesceKey.component key ≠ 0 := by
  cases message.coalesceKey <;> simp

theorem addressed_outboundEnvelope (h : message.Addressed) :
    (outboundEnvelope message).channelId ≠ some 0 ∧ (outboundEnvelope message).entityId ≠ some 0 ∧
      (outboundEnvelope message).correlationId ≠ some 0 ∧
        SpaceScope (outboundEnvelope message) := by
  refine ⟨?_, ?_, nofun, h.namespaceId, h.session, h.space, h.spaceEpoch⟩
  · intro hzero
    exact h.channel (Option.some.inj hzero)
  · intro hzero
    obtain ⟨id, hid, hget⟩ := Option.map_eq_some_iff.mp hzero
    exact h.entity id hid hget

/-- The entity of a message, zero where it has none. -/
theorem entityId_outboundEnvelope (h : message.Addressed) :
    (outboundEnvelope message).entityId.getD 0 ≠ 0 ↔ message.entity.isSome = true := by
  unfold outboundEnvelope
  cases hentity : message.entity with
  | none => simp
  | some id => simpa using h.entity id hentity

/-- Of the messages that the core accepts, those that the protocol does not refuse. -/
theorem accepted_encodable_iff {op : Op} (h : message ∈ op.accepted core) :
    validate (outboundEnvelope message) = .ok () ↔ Encodable message := by
  have haddressed := addressed_of_accepted h
  obtain ⟨hchannel, hentity, hcorrelation, hscope⟩ := addressed_outboundEnvelope haddressed
  have hdelivers := @delivers_outboundEnvelope message
  have hsome := entityId_outboundEnvelope haddressed
  have hchannelId : (outboundEnvelope message).channelId.getD 0 ≠ 0 := haddressed.channel
  have htype := @typeId_ne_zero message
  have hstart : ∀ rest : Except CodecError Unit, (do
      rejectZeroOptionalIds (outboundEnvelope message)
      validateDelivery (outboundEnvelope message)
      rest) = .ok () ↔ message.delivery ≠ .bestEffortEvent ∧ rest = .ok () := by
    intro rest
    simp [hchannel, hentity, hcorrelation, hdelivers]
  unfold validate
  rw [hstart]
  rw [message_outboundEnvelope]
  by_cases hreplaceable : message.delivery.isReplaceable = true
  · rw [if_pos hreplaceable]
    simp only [Except.bind_eq_ok, requireSpaceScope_eq_ok, Protocol.requireNonzero_eq_ok,
      htype, hsome,
      if_true, true_imp_iff, exists_const]
    constructor
    · rintro ⟨hdelivery, ⟨-, -, hsome⟩, hcomponent⟩
      exact ⟨hdelivery, hcomponent, fun _ => hsome⟩
    · intro hencodable
      exact ⟨hencodable.delivery, ⟨hscope, hchannelId, hencodable.entity hreplaceable⟩,
        hencodable.component⟩
  · rw [if_neg hreplaceable]
    simp only [Except.bind_eq_ok, requireSpaceScope_eq_ok, Protocol.requireNonzero_eq_ok, htype,
      if_true, exists_const]
    constructor
    · rintro ⟨hdelivery, -, hcomponent⟩
      exact ⟨hdelivery, hcomponent, fun h => absurd h hreplaceable⟩
    · intro hencodable
      exact ⟨hencodable.delivery, ⟨hscope, hchannelId, fun h => absurd h Bool.false_ne_true⟩,
        hencodable.component⟩

end Transport

namespace Sample

/-- The setup with an entity of the first connection and a channel of a class. -/
def relaying (delivery : DeliveryClass) : WovenCore :=
  Transition.run step Sample.core (setup ++ [.registerChannel { channel with delivery },
    .spawnEntity ⟨1⟩ (spaceKey 1) ⟨1⟩])

/-- A message of the first connection in that class. -/
def relayed (delivery : DeliveryClass) : OutboundMessage :=
  (AuthorizedMessage.fromRequest { publication 5 with delivery }).toOutbound session

theorem relayed_accepted : relayed .reliableOrdered ∈
    Op.accepted (relaying .reliableOrdered) (.publishAt (publication 5) 0 0 Sample.clock) := by
  decide +kernel

end Sample

namespace Transport

theorem accepted_encodable_iff_relayed :
    Protocol.validate (outboundEnvelope (Sample.relayed .reliableOrdered)) = .ok () :=
  (accepted_encodable_iff Sample.relayed_accepted).mpr
    ⟨by decide, nofun, by decide⟩

/-- A best-effort message is sent as a reliable event. -/
theorem accepted_not_encodable : ¬ ∀ (core : WovenCore) (op : Op) (message : OutboundMessage),
    Reachable core → message ∈ op.accepted core →
      Protocol.validate (outboundEnvelope message) = .ok () := by
  intro h
  have hvalid := h (Sample.relaying .bestEffortEvent)
    (.publishAt { Sample.publication 5 with delivery := .bestEffortEvent } 0 0 Sample.clock)
    (Sample.relayed .bestEffortEvent) (Sample.reachable _) (by decide +kernel)
  revert hvalid
  decide +kernel

end Transport

/-! ## What a publication puts into the queues -/

/-- All that is queued was queued at the start or is one of the messages. -/
structure Received (start : WovenCore) (messages : List OutboundMessage) (core : WovenCore) :
    Prop where
  wellFormed : ∀ c, (core.connectionAt c).outbound.WellFormed
  holds : ∀ c message, (core.connectionAt c).outbound.Holds message →
    (start.connectionAt c).outbound.Holds message ∨ message ∈ messages

section Received

variable {start : WovenCore} {messages : List OutboundMessage} {key : SessionKey}

theorem Received.of_purges (h : Received start messages core)
    (hpurges : ∀ c, ∃ p, Purges core core' c p) : Received start messages core' := by
  constructor
  · intro c
    obtain ⟨p, hp⟩ := hpurges c
    exact hp.wellFormed (h.wellFormed c)
  · intro c message hholds
    obtain ⟨p, hp⟩ := hpurges c
    exact h.holds c message ((hp.holds message).mp hholds).1

theorem Received.of_connections (h : Received start messages core)
    (hconnections : core'.connections = core.connections) : Received start messages core' := by
  have hat : ∀ c, core'.connectionAt c = core.connectionAt c := by
    intro c
    rw [connectionAt, hconnections, connectionAt]
  constructor
  · intro c
    rw [hat]
    exact h.wellFormed c
  · intro c message
    rw [hat]
    exact h.holds c message

theorem Received.leaveAll (h : Received start messages core) (connection : ConnectionId)
    (clock : ReleaseClock) : Received start messages (core.leaveAll connection clock) := by
  unfold WovenCore.leaveAll
  generalize (core.connectionAt connection).memberships.toList = keys
  induction keys generalizing core with
  | nil => exact h
  | cons key rest ih => exact ih (h.of_purges fun _ => purges_leave)

theorem Received.losePending (h : Received start messages core) (connection : ConnectionId)
    (clock : ReleaseClock) : Received start messages (core.losePending connection clock) := by
  have hop : (Op.transportLost connection clock).loses connection := rfl
  exact h.of_connections (losePending_changes hop core clock).2.1

theorem Received.lose (h : Received start messages core) (connection : ConnectionId)
    (clock : ReleaseClock) : Received start messages (core.lose connection clock) :=
  ((h.leaveAll connection clock).losePending connection clock).of_purges fun _ => purges_disconnect

/-- A push adds the message that is pushed. -/
theorem Received.push (h : Received start messages core) {recipient : ConnectionId}
    {result : QueuePush} {queue : OutboundQueue} (hin : message ∈ messages)
    (hpush : (core.connectionAt recipient).outbound.push message = .ok (result, queue)) :
    Received start messages
      (core.modifyConnection recipient fun state => { state with outbound := queue }) := by
  have hpushes := OutboundQueue.pushes_of_push (h.wellFormed recipient) hpush
  constructor
  · intro c
    rw [connectionAt_modifyConnection]
    split
    · exact hpushes.wellFormed
    · exact h.wellFormed c
  · intro c other hholds
    rw [connectionAt_modifyConnection] at hholds
    split at hholds
    · rename_i hc
      rw [hc.1]
      rcases hpushes.holds other hholds with rfl | hbefore
      · exact Or.inr hin
      · exact h.holds recipient other hbefore
    · exact h.holds c other hholds

theorem deliver_received (h : Received start messages core) (hin : message ∈ messages)
    (fan : FanOut) (recipient : ConnectionId) :
    Ends (deliver key message fan recipient) core (fun _ => Received start messages)
      fun _ _ => True := by
  unfold deliver
  rw [ends_bind, ends_get]
  cases hattempt : fan.attempts core key message recipient with
  | none => exact h
  | some connection =>
    obtain ⟨-, -, rfl, -⟩ := attempts_eq_some hattempt
    dsimp only
    cases hpush : (core.connectionAt recipient).outbound.push message with
    | error error => trivial
    | ok answer =>
      rw [ends_bind, ends_set, ends_pure]
      exact h.push hin hpush

theorem deliverAll_received (h : Received start messages core) (hin : message ∈ messages)
    (fan : FanOut) :
    Ends (deliverAll key fan message) core (fun _ => Received start messages)
      fun _ _ => True := by
  unfold deliverAll
  rw [ends_bind, ends_get]
  exact Ends.foldlM (fun fan _ recipient _ h => deliver_received h hin fan recipient) h

theorem disconnectSlow_received (h : Received start messages core) (outcome : PublishOutcome)
    (connection : ConnectionId) :
    Ends (disconnectSlow clock outcome connection) core (fun _ => Received start messages)
      fun _ _ => True := by
  unfold disconnectSlow
  rw [ends_bind, ends_get]
  split
  · rw [ends_bind]
    exact transportLost_ends (fun _ _ => trivial) fun _ _ => h.lose connection clock
  · exact h

theorem journalOne_received (h : Received start messages core) (recorded : OutboundMessage) :
    Ends (journalOne () recorded) core (fun _ => Received start messages) fun _ _ => True := by
  unfold journalOne
  rw [ends_bind, ends_get]
  cases core.journalOutbox.push { message := recorded } with
  | error error => trivial
  | ok outbox =>
    rw [ends_set]
    exact h.of_connections rfl

theorem commitPublish_received (h : Received start (plan.outbound key) core) :
    Ends (commitPublish key plan clock) core (fun _ => Received start (plan.outbound key))
      fun _ _ => True := by
  unfold commitPublish
  rw [ends_bind]
  apply (Ends.foldlM (I := fun _ : Unit => Received start (plan.outbound key))
    (fun _ _ recorded _ h => journalOne_received h recorded) h).mono
  swap
  · exact fun _ _ => id
  intro _ journaled h
  rw [ends_bind]
  have hsession : Ends (withSession key fun session => session.commit plan) journaled
      (fun _ => Received start (plan.outbound key)) fun _ _ => True := by
    simp only [withSession, ends_bind, ends_get, ends_lift, ends_set]
    exact ⟨fun _ _ => h.of_connections rfl, fun _ _ => trivial⟩
  apply hsession.mono
  swap
  · exact fun _ _ => id
  intro _ committed h
  rw [ends_bind]
  apply (Ends.foldlM (I := fun _ : FanOut => Received start (plan.outbound key))
    (fun fan _ _ hin h => deliverAll_received h hin fan) h).mono
  swap
  · exact fun _ _ => id
  intro fan fanned h
  exact Ends.foldlM (fun outcome _ connection _ h => disconnectSlow_received h outcome connection) h

end Received

/-- What an accepted publication puts into the queues are the messages of its plan. -/
theorem received_of_returns {outcome : PublishOutcome} (hsound : core.Sound)
    (h : Returns (publishAt request now call clock) core outcome core') :
    ∃ limiter plan, (core.limited request.connection limiter).planPublish request call = .ok plan ∧
      Received core (plan.outbound request.session) core' := by
  rw [publishAt_eq, returns_bind] at h
  obtain ⟨plan, limited, hplanAt, hcommit⟩ := h
  obtain ⟨limiter, rfl, hplan⟩ := planAt_returns hplanAt
  refine ⟨limiter, plan, hplan, (commitPublish_received ?_).returns hcommit⟩
  constructor
  · intro c
    rw [outbound_limited]
    exact hsound.wellFormed c
  · intro c message
    rw [outbound_limited]
    exact Or.inl

theorem relayOwned_evaluate (call : Nat) (context : AuthorityContext) (proposed : ProposedMessage) :
    relayOwned.evaluate call context proposed = .accept ∨
      ∃ reason, relayOwned.evaluate call context proposed = .reject reason := by
  simp only [relayOwned]
  split_ifs
  · exact Or.inr ⟨_, rfl⟩
  · exact Or.inr ⟨_, rfl⟩
  · exact Or.inr ⟨_, rfl⟩
  · exact Or.inr ⟨_, rfl⟩
  · exact Or.inl rfl

/-- A relay-owned channel sends on what it was given. -/
theorem messages_of_relayOwned {channel : ChannelDefinition}
    (h : core.planPublish request call = .ok plan)
    (hchannel : core.channels[request.channel]? = some channel)
    (hauthority : channel.authority = relayOwned) : plan.messages = [.fromRequest request] := by
  simp only [planPublish, Except.bind_eq_ok, Except.ite_eq_ok, Except.throw_bind,
    Except.throw_ne_ok, Except.pure_eq_ok, and_false, false_or] at h
  obtain ⟨⟨principal, found⟩, hcheck, authorized, hauthorized, planned, -, ⟨⟩, -, ⟨⟩, -, -,
    rfl⟩ := h
  obtain ⟨-, -, -, hfound, -⟩ := checkPublish_eq_ok hcheck
  obtain rfl := Option.some.inj (hchannel.symm.trans hfound)
  rw [hauthority] at hauthorized
  rcases relayOwned_evaluate call (core.authorityContext request principal)
    (proposedMessage request) with haccept | ⟨reason, hreject⟩
  · rw [haccept] at hauthorized
    obtain rfl := Except.ok.inj hauthorized
    rfl
  · rw [hreject] at hauthorized
    cases hauthorized

namespace Transport

open Protocol (CodecLimits Envelope OpaquePayload)

/-! ## Envelopes that are relayed -/

/-- The relayed envelope says what the sent one says. -/
structure Faithful (sent relayed : Envelope) : Prop where
  messageKind : relayed.messageKind = sent.messageKind
  deliveryClass : relayed.deliveryClass = sent.deliveryClass
  namespaceId : relayed.namespaceId = sent.namespaceId
  sessionId : relayed.sessionId = sent.sessionId
  spaceId : relayed.spaceId = sent.spaceId
  spaceEpoch : relayed.spaceEpoch = sent.spaceEpoch
  channelId : relayed.channelId = sent.channelId
  entityId : relayed.entityId = sent.entityId
  senderSequence : relayed.senderSequence = sent.senderSequence
  payloadTypeId : relayed.payloadTypeId = sent.payloadTypeId
  payloadBytes : relayed.payloadBytes = sent.payloadBytes

variable {limits : CodecLimits} {envelope : Envelope} {connection : ConnectionId}

theorem payloadRequest_eq_some {payload : OpaquePayload} {persistence : PersistenceClass}
    (h : payloadRequest connection envelope payload persistence = some request) :
    ∃ delivery channel, envelope.deliveryClass = protocolDelivery delivery ∧
      envelope.channelId = some channel ∧
      request = {
        connection
        session := envelopeSession envelope
        space := ⟨envelope.spaceId⟩
        spaceEpoch := ⟨envelope.spaceEpoch⟩
        entity := envelope.entityId.map fun id => ⟨id⟩
        channel := ⟨channel⟩
        sequence := envelope.senderSequence
        delivery
        persistence
        coalesceKey :=
          if delivery.isReplaceable then
            some ⟨⟨channel⟩, envelope.entityId.map fun id => ⟨id⟩, payload.typeId⟩
          else none
        payload := payload.bytes } := by
  simp only [payloadRequest, Option.bind_eq_bind, Option.bind_eq_some_iff, Option.pure_def,
    Option.some.injEq] at h
  obtain ⟨delivery, hdelivery, channel, hchannel, rfl⟩ := h
  exact ⟨delivery, channel, coreDelivery_eq_some.mp hdelivery, hchannel, rfl⟩

theorem delivers_of_accepts (h : limits.Accepts envelope) :
    envelope.messageKind.delivers envelope.deliveryClass = true := by
  have hmeaning := h.meaning
  simp only [Protocol.validate, Except.bind_eq_ok, Protocol.validateDelivery_eq_ok] at hmeaning
  obtain ⟨-, -, -, hdelivers, -⟩ := hmeaning
  exact hdelivers

/-- Kind and class belong together. -/
theorem isReplaceable_eq {delivery : DeliveryClass} {payload : OpaquePayload}
    (h : limits.Accepts envelope) (hdelivery : envelope.deliveryClass = protocolDelivery delivery) :
    (envelope.message = .entityState payload → delivery.isReplaceable = true) ∧
      (envelope.message = .reliableEvent payload → delivery.isReplaceable = false) := by
  have hdelivers := delivers_of_accepts h
  rw [hdelivery] at hdelivers
  constructor
  · intro hmessage
    rw [Envelope.messageKind, hmessage] at hdelivers
    cases delivery <;> first | rfl | cases hdelivers
  · intro hmessage
    rw [Envelope.messageKind, hmessage] at hdelivers
    cases delivery <;> first | rfl | cases hdelivers

/-- The scope, the class and the sequence always stay; what is left is the payload. -/
theorem faithful_iff_payload {delivery : DeliveryClass} {channel : Nat}
    {persistence : PersistenceClass} {key : Option CoalesceKey} {bytes : List UInt8}
    (hdelivery : envelope.deliveryClass = protocolDelivery delivery)
    (hchannel : envelope.channelId = some channel) :
    let relayed := outboundEnvelope ((AuthorizedMessage.mk ⟨envelope.spaceId⟩ ⟨envelope.spaceEpoch⟩
      (envelope.entityId.map fun id => ⟨id⟩) ⟨channel⟩ envelope.senderSequence delivery persistence
        key bytes).toOutbound (envelopeSession envelope))
    Faithful envelope relayed ↔ relayed.messageKind = envelope.messageKind ∧
      relayed.payloadTypeId = envelope.payloadTypeId ∧
        relayed.payloadBytes = envelope.payloadBytes := by
  intro relayed
  constructor
  · intro h
    exact ⟨h.messageKind, h.payloadTypeId, h.payloadBytes⟩
  · rintro ⟨hkind, htype, hbytes⟩
    have hentity : relayed.entityId = envelope.entityId := by
      show (envelope.entityId.map fun id => (⟨id⟩ : EntityId)).map (·.get) = envelope.entityId
      cases envelope.entityId <;> rfl
    exact ⟨hkind, hdelivery.symm, rfl, rfl, rfl, rfl, hchannel.symm, hentity, rfl, htype, hbytes⟩

/-- What becomes of an envelope that is published and sent on. -/
theorem faithful_iff (h : limits.Accepts envelope)
    (hrequest : publishRequest connection envelope = some request) :
    Faithful envelope
        (outboundEnvelope ((AuthorizedMessage.fromRequest request).toOutbound request.session)) ↔
      envelope.messageKind = .entityState ∨ envelope.payloadTypeId = some 1 := by
  unfold publishRequest at hrequest
  cases hmessage : envelope.message with
  | control payload =>
    rw [hmessage] at hrequest
    cases hrequest
  | snapshot payload =>
    rw [hmessage] at hrequest
    cases hrequest
  | entityState payload =>
    rw [hmessage] at hrequest
    obtain ⟨delivery, channel, hdelivery, hchannel, rfl⟩ := payloadRequest_eq_some hrequest
    have hreplaceable := (isReplaceable_eq h hdelivery).1 hmessage
    refine (faithful_iff_payload hdelivery hchannel).trans ?_
    unfold Envelope.messageKind Envelope.payloadTypeId Envelope.payloadBytes
    rw [message_outboundEnvelope, if_pos hreplaceable, hmessage]
    simp [AuthorizedMessage.toOutbound, hreplaceable, Protocol.MessagePayload.messageKind,
      Protocol.MessagePayload.opaquePayload]
  | reliableEvent payload =>
    rw [hmessage] at hrequest
    obtain ⟨delivery, channel, hdelivery, hchannel, rfl⟩ := payloadRequest_eq_some hrequest
    have hkept := (isReplaceable_eq h hdelivery).2 hmessage
    refine (faithful_iff_payload hdelivery hchannel).trans ?_
    unfold Envelope.messageKind Envelope.payloadTypeId Envelope.payloadBytes
    rw [message_outboundEnvelope, if_neg (Bool.eq_false_iff.mp hkept), hmessage]
    simp [AuthorizedMessage.toOutbound, hkept, Protocol.MessagePayload.messageKind,
      Protocol.MessagePayload.opaquePayload, eq_comm]

/-- An envelope that is published on a relay-owned channel is sent on as it came exactly if it
carries entity state or its payload has the type that is made up for it. -/
theorem relayed_faithful_iff {channel : ChannelDefinition} {outcome : PublishOutcome}
    {c : ConnectionId} (hreach : Reachable core) (haccepts : limits.Accepts envelope)
    (hrequest : publishRequest connection envelope = some request)
    (hchannel : core.channels[request.channel]? = some channel)
    (hauthority : channel.authority = relayOwned)
    (hpublish : Returns (publishAt request now call clock) core outcome core')
    (hqueued : (core'.connectionAt c).outbound.Holds message)
    (hnew : ¬ (core.connectionAt c).outbound.Holds message) :
    Faithful envelope (outboundEnvelope message) ↔
      envelope.messageKind = .entityState ∨ envelope.payloadTypeId = some 1 := by
  obtain ⟨limiter, plan, hplan, hreceived⟩ := received_of_returns hreach.sound hpublish
  have hmessages := messages_of_relayOwned hplan hchannel hauthority
  have hin := (hreceived.holds c message hqueued).resolve_left hnew
  rw [PublishPlan.outbound, hmessages, List.map_singleton, List.mem_singleton] at hin
  rw [hin]
  exact faithful_iff haccepts hrequest

end Transport

namespace Sample

/-- The event that becomes the publication of the first connection. -/
def event (typeId : Nat) : Protocol.Envelope :=
  { protocolVersion := 1, deliveryClass := .reliableOrdered, namespaceId := 1, sessionId := 1
    spaceId := 1, channelId := some 1, entityId := some 1, spaceEpoch := 1, senderSequence := 5
    message := .reliableEvent ⟨typeId, [7]⟩ }

theorem event_accepted {typeId : Nat} (htype : typeId ≠ 0)
    (hmeaning : Protocol.validate (event typeId) = .ok ()) :
    ({} : Protocol.CodecLimits).Accepts (event typeId) := by
  refine ⟨rfl, nofun, nofun, ?_, hmeaning⟩
  intro payload hpayload
  obtain rfl := Option.some.inj hpayload
  exact ⟨htype, Nat.le_of_ble_eq_true rfl⟩

/-- The state after the publication. -/
def eventRelayed : WovenCore :=
  after (publishAt (publication 5) 0 0 Sample.clock) (relaying .reliableOrdered)

theorem event_returns : ∃ outcome, Returns (publishAt (publication 5) 0 0 Sample.clock)
    (relaying .reliableOrdered) outcome eventRelayed := by
  rcases returns_or_fails (publishAt (publication 5) 0 0 Sample.clock)
    (relaying .reliableOrdered) with hreturns | ⟨e, hfails⟩
  · exact hreturns
  · have hends : ((publishAt (publication 5) 0 0 Sample.clock).run'
        (relaying .reliableOrdered)).isSome = true := by decide +kernel
    rw [EStateM.run', hfails] at hends
    cases hends

theorem event_queued : (eventRelayed.connectionAt ⟨1⟩).outbound.Holds (relayed .reliableOrdered) :=
  Or.inl (by decide +kernel)

theorem event_new :
    ¬ ((relaying .reliableOrdered).connectionAt ⟨1⟩).outbound.Holds (relayed .reliableOrdered) :=
  OutboundQueue.not_holds_of_rounds ((reachable _).sound.wellFormed _) (by decide +kernel)

end Sample

namespace Transport

open Protocol (CodecLimits Envelope)

theorem relayed_faithful_iff_event :
    Faithful (Sample.event 1) (outboundEnvelope (Sample.relayed .reliableOrdered)) := by
  obtain ⟨outcome, hreturns⟩ := Sample.event_returns
  exact (relayed_faithful_iff (Sample.reachable _) (Sample.event_accepted (by decide)
      (show Protocol.validate (Sample.event 1) = .ok () by decide))
    (show publishRequest ⟨1⟩ (Sample.event 1) = some (Sample.publication 5) from rfl)
    (show _ = some Sample.channel by rfl) rfl hreturns Sample.event_queued Sample.event_new).mpr
      (Or.inr rfl)

/-- An event of another type arrives as one of type one. -/
theorem relayed_not_faithful : ¬ ∀ (core core' : WovenCore) (limits : CodecLimits)
    (envelope : Envelope) (connection c : ConnectionId) (request : PublishRequest)
    (channel : ChannelDefinition) (now : Instant) (call : Nat) (clock : ReleaseClock)
    (outcome : PublishOutcome) (message : OutboundMessage), Reachable core →
      limits.Accepts envelope → publishRequest connection envelope = some request →
      core.channels[request.channel]? = some channel → channel.authority = relayOwned →
      Returns (publishAt request now call clock) core outcome core' →
      (core'.connectionAt c).outbound.Holds message →
      ¬ (core.connectionAt c).outbound.Holds message →
        Faithful envelope (outboundEnvelope message) := by
  intro h
  obtain ⟨outcome, hreturns⟩ := Sample.event_returns
  have hfaithful := h _ _ {} (Sample.event 2) ⟨1⟩ ⟨1⟩ (Sample.publication 5) Sample.channel 0 0
    Sample.clock outcome _ (Sample.reachable _) (Sample.event_accepted (by decide)
      (by decide)) rfl
    (by rfl) rfl hreturns Sample.event_queued Sample.event_new
  have htype := hfaithful.payloadTypeId
  revert htype
  decide

end Transport

end Signalweave
