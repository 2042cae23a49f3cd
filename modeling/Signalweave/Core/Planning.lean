import Signalweave.Core.SessionIndexes

/-!
# What a plan guarantees

Every authorized message of a plan has passed `validate_message` in the state the plan was made
in, whatever the authority answered, and the planned sequence keys are those of these messages
and of the request.
-/

open Std

namespace Signalweave

namespace WovenCore

variable {core : WovenCore} {connection : ConnectionId} {key : SessionKey}
  {message : AuthorizedMessage} {planned : ExtTreeMap SequenceKey Nat}

/-- What `validate_message` has checked of a message. -/
structure Valid (core : WovenCore) (connection : ConnectionId) (key : SessionKey)
    (message : AuthorizedMessage) (planned : ExtTreeMap SequenceKey Nat) : Prop where
  channel : ∃ channel, core.channels[message.channel]? = some channel ∧
    channel.delivery = message.delivery ∧ channel.persistence = message.persistence ∧
      message.payload.length ≤ min core.config.maxPayloadBytes channel.maxPayloadBytes
  coalesce : validateCoalesceKey message = .ok ()
  session : key ∈ core.sessions
  scope : (core.sessionAt key).InScope message.space message.spaceEpoch message.entity
  fresh : ∀ last, (core.sessionAt key).sequences[sequenceKey connection message]? = some last →
    last < message.sequence
  unplanned : ∀ last, planned[sequenceKey connection message]? = some last →
    last < message.sequence

theorem validateChannelPolicy_eq_ok {channel : ChannelDefinition} {delivery : DeliveryClass}
    {persistence : PersistenceClass} {u : Unit} :
    validateChannelPolicy channel delivery persistence = .ok u ↔
      channel.delivery = delivery ∧ channel.persistence = persistence := by
  unfold validateChannelPolicy
  split <;> simp_all

theorem lastSequence_lt {stored planned : Option Nat} {n : Nat} :
    (∀ last, lastSequence stored planned = some last → last < n) ↔
      (∀ last, stored = some last → last < n) ∧ ∀ last, planned = some last → last < n := by
  cases stored <;> cases planned <;> simp [lastSequence, List.max?]

theorem checkSequence_eq_ok {session : SessionState} {u : Unit} :
    checkSequence session connection message planned = .ok u ↔
      (∀ last, session.sequences[sequenceKey connection message]? = some last →
        last < message.sequence) ∧
      ∀ last, planned[sequenceKey connection message]? = some last → last < message.sequence := by
  rw [← lastSequence_lt]
  simp only [checkSequence]
  split
  · rename_i last hlast
    simp [hlast]
  · rename_i hnone
    simp [hnone]

theorem checkMessageEntity_eq_ok {session : SessionState} {u : Unit} :
    checkMessageEntity session message = .ok u ↔
      ∀ id, message.entity = some id → ∃ record, session.entities[id]? = some record ∧
        record.space = message.space ∧ record.spaceEpoch = message.spaceEpoch := by
  unfold checkMessageEntity
  cases message.entity <;> simp

theorem validateMessage_eq_ok {u : Unit}
    (h : core.validateMessage connection key message planned = .ok u) :
    core.Valid connection key message planned := by
  simp only [validateMessage, Except.bind_eq_ok, Option.okOr_eq_ok, validateChannelPolicy_eq_ok,
    checkMessageEntity_eq_ok, checkSequence_eq_ok, Except.ite_eq_ok, Except.throw_bind,
    Except.throw_ne_ok, and_false, false_or] at h
  obtain ⟨-, -, channel, hchannel, -, ⟨hdelivery, hpersistence⟩, hpayload, ⟨⟩, hcoalesce,
    session, hsession, descriptor, hdescriptor, hepoch, -, hentity, hstored, hplanned⟩ := h
  have hat := sessionAt_of_some hsession
  refine ⟨⟨channel, hchannel, hdelivery, hpersistence, by omega⟩, hcoalesce,
    OrderedMap.mem_of_getElem? hsession, ?_, ?_, hplanned⟩
  · rw [hat]
    refine ⟨⟨descriptor, hdescriptor, by simpa using hepoch⟩, ?_⟩
    intro id hid
    obtain ⟨record, hrecord, hspace, -⟩ := hentity id hid
    exact ⟨record, hrecord, hspace⟩
  · rw [hat]
    exact hstored

/-! ## The loop over the authorized messages -/

/-- The loop only adds the keys of the messages it has walked over. -/
theorem mem_planSequences {messages : List AuthorizedMessage}
    {result : ExtTreeMap SequenceKey Nat}
    (h : core.planSequences connection key messages planned = .ok result) (k : SequenceKey) :
    k ∈ result ↔ k ∈ planned ∨ ∃ message ∈ messages, k = sequenceKey connection message := by
  induction messages generalizing planned with
  | nil =>
    obtain rfl : planned = result := by simpa [planSequences] using h
    simp
  | cons message rest ih =>
    simp only [planSequences, Except.bind_eq_ok] at h
    obtain ⟨-, -, hrest⟩ := h
    rw [ih hrest, OrderedMap.mem_insert]
    simp only [List.mem_cons, exists_eq_or_imp]
    tauto

/-- Every message the loop has walked over is valid against the plan at that point. -/
theorem valid_of_planSequences {messages : List AuthorizedMessage}
    {result : ExtTreeMap SequenceKey Nat}
    (h : core.planSequences connection key messages planned = .ok result) :
    ∀ message ∈ messages, ∃ before, core.Valid connection key message before := by
  induction messages generalizing planned with
  | nil => simp
  | cons message rest ih =>
    simp only [planSequences, Except.bind_eq_ok] at h
    obtain ⟨⟨⟩, hvalid, hrest⟩ := h
    intro other hother
    rcases List.mem_cons.mp hother with rfl | hother
    · exact ⟨planned, validateMessage_eq_ok hvalid⟩
    · exact ih hrest other hother

/-! ## The whole plan -/

/-- What the checks of a publication establish, whatever the authority answered. -/
structure Planned (core : WovenCore) (request : PublishRequest) (call : Nat) (plan : PublishPlan) :
    Prop where
  principal : ∃ principal, core.authenticatedPrincipal request.connection = .ok principal
  member : request.session ∈ (core.connectionAt request.connection).memberships
  subscribed : ⟨request.session, request.space⟩ ∈
    (core.connectionAt request.connection).subscriptions
  session : request.session ∈ core.sessions
  proposed : core.Valid request.connection request.session (.fromRequest request) ∅
  messages : ∀ message ∈ plan.messages, ∃ before,
    core.Valid request.connection request.session message before
  keys : ∀ k, k ∈ plan.sequences → ∃ message before, k = sequenceKey request.connection message ∧
    core.Valid request.connection request.session message before
  journal : (plan.messages.filter fun message => message.persistence == .durable).length ≤
    core.journalOutbox.remainingCapacity
  sequenceRoom : core.validateSequenceCapacity request.session plan.sequences = .ok ()
  stateRoom : core.validateStateCapacity request.session plan.messages = .ok ()

theorem checkPublish_eq_ok {request : PublishRequest}
    {answer : AuthenticatedPrincipal × ChannelDefinition}
    (h : core.checkPublish request = .ok answer) :
    core.authenticatedPrincipal request.connection = .ok answer.1 ∧
      request.session ∈ (core.connectionAt request.connection).memberships ∧
      ⟨request.session, request.space⟩ ∈
        (core.connectionAt request.connection).subscriptions ∧
      core.channels[request.channel]? = some answer.2 ∧
      core.Valid request.connection request.session (.fromRequest request) ∅ := by
  simp only [checkPublish, Except.bind_eq_ok, Except.pure_eq_ok, Option.okOr_eq_ok] at h
  obtain ⟨-, -, principal, hprincipal, -, -, -, -, -, -, -, -, ⟨⟩, hmember, ⟨⟩, hsubscribed,
    channel, hchannel, -, -, -, -, ⟨⟩, hvalid, rfl⟩ := h
  obtain ⟨state, hstate, hmember⟩ := requireMembership_eq_ok.mp hmember
  obtain ⟨state', hstate', hsubscribed⟩ := requireSubscription_eq_ok.mp hsubscribed
  refine ⟨hprincipal, ?_, ?_, hchannel, validateMessage_eq_ok hvalid⟩
  · rwa [connectionAt_of_some hstate]
  · rwa [connectionAt_of_some hstate']

theorem mem_authorizedPlan {config : CoreConfig} {outcome : AuthorityOutcome} {plan : PublishPlan}
    (h : authorizedPlan config connection message outcome = .ok plan) {k : SequenceKey}
    (hk : k ∈ plan.sequences) : k = sequenceKey connection message := by
  cases outcome with
  | accept =>
    obtain rfl := Except.ok.inj h
    simp at hk
  | reject reason => simp [authorizedPlan] at h
  | transform transformed =>
    obtain rfl := Except.ok.inj h
    simp at hk
  | emit emissions =>
    simp only [authorizedPlan, Except.ite_eq_ok, reduceCtorEq, and_false, false_or] at h
    obtain rfl := Except.ok.inj h.2
    rcases OrderedMap.mem_insert.mp hk with rfl | hk
    · rfl
    · simp at hk

theorem planPublish_eq_ok {request : PublishRequest} {call : Nat} {plan : PublishPlan}
    (h : core.planPublish request call = .ok plan) : core.Planned request call plan := by
  simp only [planPublish, Except.bind_eq_ok, Except.ite_eq_ok, Except.throw_bind,
    Except.throw_ne_ok, Except.pure_eq_ok, and_false, false_or] at h
  obtain ⟨⟨principal, channel⟩, hcheck, authorized, hauthorized, planned, hplanned, ⟨⟩,
    hsequences, ⟨⟩, hstate, hjournal, rfl⟩ := h
  obtain ⟨hprincipal, hmember, hsubscribed, -, hproposed⟩ := checkPublish_eq_ok hcheck
  refine ⟨⟨_, hprincipal⟩, hmember, hsubscribed, hproposed.session, hproposed,
    valid_of_planSequences hplanned, ?_, by simpa using hjournal, hsequences, hstate⟩
  intro k hk
  rcases (mem_planSequences hplanned k).mp hk with hstart | ⟨message, hmessage, rfl⟩
  · -- Only an emission plans a key before the loop, and it is the key of the request.
    refine ⟨.fromRequest request, ∅, ?_, hproposed⟩
    exact mem_authorizedPlan hauthorized hstart
  · obtain ⟨before, hvalid⟩ := valid_of_planSequences hplanned message hmessage
    exact ⟨message, before, rfl, hvalid⟩

end WovenCore

end Signalweave
