import Signalweave.Core.ConsistencySteps

/-!
# What a queue holds and may hold

A message is fresh for a connection while the connection may read it: it is subscribed to the
space of the message, the space still has the epoch of the message, and the entity of the message
is still in it. Every change but a delivery and a drain discards exactly the messages that it
makes stale.
-/

open Std

namespace Signalweave

/-- The space a message was published to. -/
def OutboundMessage.spaceKey (message : OutboundMessage) : SpaceKey :=
  ⟨message.sessionKey, message.space⟩

theorem OutboundMessage.inSession_iff {message : OutboundMessage} {key : SessionKey} :
    message.inSession key = true ↔ message.sessionKey = key := by
  cases key
  simp [OutboundMessage.inSession, OutboundMessage.sessionKey]

theorem OutboundMessage.inSpace_iff {message : OutboundMessage} {spaceKey : SpaceKey} :
    message.inSpace spaceKey = true ↔ message.spaceKey = spaceKey := by
  cases spaceKey
  simp [OutboundMessage.inSpace, OutboundMessage.spaceKey, OutboundMessage.inSession_iff]

theorem OutboundMessage.removedBy_iff {message : OutboundMessage} {key : SessionKey}
    {removal : Removal} :
    message.removedBy key removal = true ↔ message.sessionKey = key ∧
      SessionState.keptBy removal message.space message.entity = false := by
  rw [← OutboundMessage.inSession_iff]
  cases hentity : message.entity <;>
    simp [OutboundMessage.removedBy, SessionState.keptBy, hentity, ← Bool.not_eq_true]
  tauto

theorem OutboundQueue.purge_start {config : OutboundQueueConfig} {p : OutboundMessage → Bool} :
    ({ config } : OutboundQueue).purge p = { config } := by
  unfold OutboundQueue.purge
  congr

/-! ## Scopes that end -/

namespace SessionState

variable {session : SessionState} {space : SpaceId} {epoch : SpaceEpoch} {entity : Option EntityId}

theorem not_inScope_dropRemoved {removal : Removal} (h : keptBy removal space entity = false) :
    ¬ (session.dropRemoved removal).InScope space epoch entity := by
  rintro ⟨⟨descriptor, hdescriptor, -⟩, hentity⟩
  rw [← Bool.not_eq_true, keptBy_iff] at h
  apply h
  constructor
  · intro hspace
    rw [dropRemoved_spaces, if_pos hspace] at hdescriptor
    cases hdescriptor
  · intro id hid hremoved
    obtain ⟨record, hrecord, -⟩ := hentity id hid
    exact (mem_dropRemoved_entities.mp hrecord).2 hremoved

theorem not_inScope_transition {request : EntityTransitionRequest}
    (hmoves : request.sourceSpace ≠ request.destinationSpace)
    (h : request.leaves space epoch entity = true) :
    ¬ (session.transition request).InScope space epoch entity := by
  obtain ⟨rfl, rfl, rfl⟩ := EntityTransitionRequest.leaves_iff.mp h
  rintro ⟨-, hentity⟩
  obtain ⟨record, hrecord, hlocated⟩ := hentity _ rfl
  rw [transition_eq, OrderedMap.getElem?_modify, if_pos rfl] at hrecord
  obtain ⟨before, -, rfl⟩ := Option.map_eq_some_iff.mp hrecord
  exact hmoves hlocated.symm

theorem InScope.advanceEpoch {other : SpaceId} {proposed : SpaceEpoch}
    (h : session.InScope space epoch entity) (hne : space ≠ other) :
    (session.advanceEpoch other proposed).InScope space epoch entity := by
  obtain ⟨⟨descriptor, hdescriptor, hepoch⟩, hentity⟩ := h
  refine ⟨⟨descriptor, ?_, hepoch⟩, hentity⟩
  change (session.spaces.modify other _)[space]? = some descriptor
  rw [OrderedMap.getElem?_modify, if_neg hne, hdescriptor]

/-- A scope of the old epoch does not survive the advance. -/
theorem not_inScope_advanceEpoch {proposed : SpaceEpoch} {descriptor : SpaceDescriptor}
    (hfound : session.spaces[space]? = some descriptor) (hlater : descriptor.epoch < proposed)
    (h : session.InScope space epoch entity) :
    ¬ (session.advanceEpoch space proposed).InScope space epoch entity := by
  rintro ⟨⟨after, hafter, rfl⟩, -⟩
  obtain ⟨⟨before, hbefore, hepoch⟩, -⟩ := h
  change (session.spaces.modify space _)[space]? = some after at hafter
  rw [OrderedMap.getElem?_modify, if_pos rfl, hfound] at hafter
  obtain rfl := Option.some.inj (hfound.symm.trans hbefore)
  obtain rfl := Option.some.inj hafter
  rw [hepoch] at hlater
  exact Nat.lt_irrefl _ hlater

theorem InScope.installSpace {descriptor : SpaceDescriptor}
    (h : session.InScope space epoch entity) (hfresh : descriptor.id ∉ session.spaces) :
    (session.installSpace descriptor).InScope space epoch entity :=
  ⟨h.1.installSpace hfresh, h.2⟩

/-- A scope survives when the records keep their places. -/
theorem InScope.of_entities {session' : SessionState} (h : session.InScope space epoch entity)
    (hspaces : session'.spaces = session.spaces)
    (hentities : ∀ (id : EntityId) (record : EntityRecord), session.entities[id]? = some record →
      ∃ record', session'.entities[id]? = some record' ∧ record'.space = record.space) :
    session'.InScope space epoch entity := by
  refine ⟨?_, fun id hid => ?_⟩
  · unfold Installed
    rw [hspaces]
    exact h.1
  · obtain ⟨record, hrecord, hlocated⟩ := h.2 id hid
    obtain ⟨record', hrecord', hsame⟩ := hentities id record hrecord
    exact ⟨record', hrecord', hsame.trans hlocated⟩

end SessionState

namespace WovenCore

/-- The connection may still read the message, and the message is of the present. -/
structure Fresh (core : WovenCore) (connection : ConnectionId) (message : OutboundMessage) :
    Prop where
  subscribed : message.spaceKey ∈ (core.connectionAt connection).subscriptions
  allowed : ∃ principal, (core.connectionAt connection).authenticated = some principal ∧
    canReceive principal message.sessionKey message.space message.channel = true
  scope : (core.sessionAt message.sessionKey).InScope message.space message.spaceEpoch
    message.entity

variable {core core' : WovenCore} {c : ConnectionId} {p : OutboundMessage → Bool}
  {message : OutboundMessage}

theorem Fresh.imp (h : core.Fresh c message)
    (hsubscriptions : message.spaceKey ∈ (core.connectionAt c).subscriptions →
      message.spaceKey ∈ (core'.connectionAt c).subscriptions)
    (hauthenticated :
      (core'.connectionAt c).authenticated = (core.connectionAt c).authenticated)
    (hscope : (core.sessionAt message.sessionKey).InScope message.space message.spaceEpoch
      message.entity → (core'.sessionAt message.sessionKey).InScope message.space
        message.spaceEpoch message.entity) : core'.Fresh c message := by
  obtain ⟨principal, hprincipal, hallowed⟩ := h.allowed
  exact ⟨hsubscriptions h.subscribed, ⟨principal, hauthenticated.trans hprincipal, hallowed⟩,
    hscope h.scope⟩

/-- Nothing is fresh for a connection that does not exist. -/
theorem Fresh.mem_connections (h : core.Fresh c message) : c ∈ core.connections :=
  mem_connections_of_subscription h.subscribed

/-- What a change does to the queue of a connection when it pushes nothing: of the fresh messages
it discards those that it makes stale, and no others. -/
structure Purges (core core' : WovenCore) (c : ConnectionId) (p : OutboundMessage → Bool) :
    Prop where
  wellFormed : (core.connectionAt c).outbound.WellFormed →
    (core'.connectionAt c).outbound.WellFormed
  holds : ∀ message, (core'.connectionAt c).outbound.Holds message ↔
    (core.connectionAt c).outbound.Holds message ∧ p message = false
  critical : (core'.connectionAt c).outbound.critical =
    (core.connectionAt c).outbound.critical.filter fun message => !p message
  kept : ∀ message, core.Fresh c message → p message = false → core'.Fresh c message
  gone : ∀ message, core.Fresh c message → p message = true → ¬ core'.Fresh c message

theorem Purges.of_same
    (hqueue : (core'.connectionAt c).outbound = (core.connectionAt c).outbound)
    (hkept : ∀ message, core.Fresh c message → core'.Fresh c message) :
    Purges core core' c fun _ => false where
  wellFormed h := hqueue ▸ h
  holds message := by simp [hqueue]
  critical := by simp [hqueue]
  kept message h _ := hkept message h
  gone := by simp

theorem Purges.of_purge
    (hqueue : (core'.connectionAt c).outbound = (core.connectionAt c).outbound.purge p)
    (hkept : ∀ message, core.Fresh c message → p message = false → core'.Fresh c message)
    (hgone : ∀ message, core.Fresh c message → p message = true → ¬ core'.Fresh c message) :
    Purges core core' c p where
  wellFormed h := hqueue ▸ h.purge
  holds message := by rw [hqueue, OutboundQueue.holds_purge]
  critical := by rw [hqueue, OutboundQueue.purge_critical]
  kept := hkept
  gone := hgone

/-- Two changes in a row, where the second brings nothing back. -/
theorem Purges.trans {core'' : WovenCore} {q : OutboundMessage → Bool} (h : Purges core core' c p)
    (h' : Purges core' core'' c q)
    (hback : ∀ message, core.Fresh c message → core''.Fresh c message → core'.Fresh c message) :
    Purges core core'' c fun message => p message || q message where
  wellFormed hw := h'.wellFormed (h.wellFormed hw)
  holds message := by
    rw [h'.holds, h.holds, Bool.or_eq_false_iff, and_assoc]
  critical := by
    rw [h'.critical, h.critical, List.filter_filter]
    congr 1
    funext message
    rw [Bool.not_or, Bool.and_comm]
  kept message hfresh hpq := by
    obtain ⟨hp, hq⟩ := Bool.or_eq_false_iff.mp hpq
    exact h'.kept message (h.kept message hfresh hp) hq
  gone message hfresh hpq hafter := by
    have hbetween := hback message hfresh hafter
    rcases (Bool.or_eq_true _ _).mp hpq with hp | hq
    · exact h.gone message hfresh hp hbetween
    · exact h'.gone message hbetween hq hafter

/-- A change that discards nothing, before another one. -/
theorem Purges.before {core'' : WovenCore} {q : OutboundMessage → Bool}
    (h : Purges core core' c fun _ => false) (h' : Purges core' core'' c q) :
    Purges core core'' c q := by
  simpa using h.trans h' fun message hfresh _ => h.kept message hfresh rfl

/-- Only the tables of sessions and connections matter to a queue. -/
theorem Purges.of_tables (hs : core'.sessions = core.sessions)
    (hc : core'.connections = core.connections) : Purges core core' c fun _ => false := by
  have hsame : core'.connectionAt c = core.connectionAt c := by
    rw [connectionAt, connectionAt, hc]
  apply Purges.of_same (by rw [hsame])
  intro message h
  apply h.imp (by rw [hsame]; exact id) (by rw [hsame])
  rw [sessionAt, sessionAt, hs]
  exact id

theorem outbound_mapConnections {g : ConnectionId → ConnectionState → ConnectionState}
    (hg : ∀ c state, (g c state).outbound = state.outbound.purge p) :
    ((core.mapConnections g).connectionAt c).outbound =
      (core.connectionAt c).outbound.purge p := by
  rw [connectionAt_mapConnections]
  split
  · exact hg _ _
  · rename_i hdead
    rw [connectionAt_of_notMem hdead, OutboundQueue.purge_start]

end WovenCore

end Signalweave
