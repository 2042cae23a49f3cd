import Signalweave.Core.Indexes

/-!
# What reaches a connection, and what a failed publication leaves

Nothing stale and nothing unreadable is ever queued, and a publication that fails has written
nothing but the rate limiter.
-/

open Std

namespace Signalweave

open Stateful WovenCore

/-! ## Queues -/

/-- The connection is subscribed to the space of the message and may read it, the space has the
epoch of the message, and the entity of the message is in it. -/
structure Readable (core : WovenCore) (state : ConnectionState) (message : OutboundMessage) :
    Prop where
  subscribed : ⟨message.sessionKey, message.space⟩ ∈ state.subscriptions
  allowed : ∃ principal, state.authenticated = some principal ∧
    canReceive principal message.sessionKey message.space message.channel = true
  current : ∃ session descriptor, core.sessions[message.sessionKey]? = some session ∧
    session.spaces[message.space]? = some descriptor ∧ descriptor.epoch = message.spaceEpoch ∧
    ∀ id, message.entity = some id →
      ∃ record, session.entities[id]? = some record ∧ record.space = message.space

variable {core : WovenCore}

theorem WovenCore.Fresh.readable {connection : ConnectionId} {message : OutboundMessage}
    (h : core.Fresh connection message) :
    Readable core (core.connectionAt connection) message := by
  refine ⟨h.subscribed, h.allowed, ?_⟩
  obtain ⟨⟨descriptor, hdescriptor, hepoch⟩, hentity⟩ := h.scope
  exact ⟨_, descriptor, sessions_getElem? (mem_sessions_of_inScope h.scope), hdescriptor, hepoch,
    hentity⟩

/-- Whatever a drain hands out was queued. -/
theorem drainOutbound_returns {connection : ConnectionId} {messages : List OutboundMessage}
    {core' : WovenCore} (h : Returns (drainOutbound connection) core messages core') :
    ∃ state, core.connections[connection]? = some state ∧ messages = state.outbound.drain.1 ∧
      core' = core.modifyConnection connection fun state =>
        { state with outbound := state.outbound.drain.2 } := by
  simp [drainOutbound] at h
  obtain ⟨-, state, hstate, rfl, hmessages⟩ := h
  exact ⟨state, hstate, hmessages.symm, rfl⟩

/-- In every reachable state each queued message is one its connection may read now, and so is
everything a drain hands out. -/
theorem outbound_readable (h : Reachable core) {connection : ConnectionId}
    {state : ConnectionState} (hstate : core.connections[connection]? = some state) :
    (∀ message, state.outbound.Holds message → Readable core state message) ∧
      ∀ messages core', Returns (drainOutbound connection) core messages core' →
        ∀ message ∈ messages, Readable core state message := by
  obtain rfl := connectionAt_of_some hstate
  have hqueued : ∀ message, (core.connectionAt connection).outbound.Holds message →
      Readable core (core.connectionAt connection) message :=
    fun message hholds => (h.sound.fresh connection message hholds).readable
  refine ⟨hqueued, fun messages core' hreturns message hmessage => ?_⟩
  obtain ⟨state, hfound, rfl, -⟩ := drainOutbound_returns hreturns
  obtain rfl := connectionAt_of_some hfound
  exact hqueued message ((OutboundQueue.drain_drains (h.sound.wellFormed connection)).held _
    hmessage)

namespace Sample

/-- A reliable channel on which owners publish for their entities. -/
def channel : ChannelDefinition := .relayOwned ⟨1⟩ .reliableOrdered .ephemeral 64

/-- The first connection publishes for the first entity in the first space. -/
def publication (sequence : Nat) : PublishRequest :=
  { connection := ⟨1⟩, session, space := ⟨1⟩, spaceEpoch := ⟨1⟩, entity := some ⟨1⟩,
    channel := ⟨1⟩, sequence, delivery := .reliableOrdered, persistence := .ephemeral,
    coalesceKey := none, payload := [7] }

/-- Every release happens at time zero. -/
def clock : ReleaseClock := fun _ _ _ => 0

/-- The setup, one entity in the first space and one publication. -/
def published : List Op :=
  setup ++ [.registerChannel channel, .spawnEntity ⟨1⟩ (spaceKey 1) ⟨1⟩,
    .publishAt (publication 5) 0 0 clock]

end Sample

theorem outbound_readable_published :
    ∃ state, (Transition.run step Sample.core Sample.published).connections[(⟨1⟩ : ConnectionId)]? =
      some state ∧ state.outbound.critical.length = 1 ∧
      ∀ message, state.outbound.Holds message →
        Readable (Transition.run step Sample.core Sample.published) state message := by
  have hlive : (⟨1⟩ : ConnectionId) ∈
      (Transition.run step Sample.core Sample.published).connections := by decide +kernel
  exact ⟨_, connections_getElem? hlive, by decide +kernel,
    (outbound_readable (Sample.reachable _) (connections_getElem? hlive)).1⟩

/-! ## Failed publications -/

/-- A publication that fails leaves the core as it was, but for the rate limiter of its
connection; and once the plan is made no write of it fails. -/
theorem publishAt_atomic (h : Reachable core) (request : PublishRequest) (now : Instant)
    (call : Nat) (clock : ReleaseClock) :
    (∀ e core', Fails (publishAt request now call clock) core e core' →
      core' = core ∨ ∃ limiter, core' = core.modifyConnection request.connection fun state =>
        { state with rateLimiter := limiter }) ∧
    ∀ limiter plan, (core.limited request.connection limiter).planPublish request call = .ok plan →
      ∃ outcome core', Returns (commitPublish request.session plan clock)
        (core.limited request.connection limiter) outcome core' := by
  constructor
  · intro e core' hfails
    have hends : Ends (publishAt request now call clock) core (fun _ _ => True)
        fun _ core' => core' = core ∨ ∃ limiter, core' = core.limited request.connection limiter :=
      publishAt_ends h.sound (fun _ => .inl rfl) (fun _ limiter => .inr ⟨limiter, rfl⟩)
        fun _ _ _ _ _ _ _ _ => trivial
    exact hends.fails hfails
  · intro limiter plan hplan
    have hlimit : Change (.publishAt request now call clock) core
        (core.limited request.connection limiter) := .limit request now call clock limiter
    have hends : Ends (commitPublish request.session plan clock)
        (core.limited request.connection limiter) (fun _ _ => True) fun _ _ => False :=
      commitPublish_ends now (hlimit.sound h.sound) hplan fun _ _ _ _ _ _ => trivial
    rcases returns_or_fails (commitPublish request.session plan clock)
        (core.limited request.connection limiter) with ⟨outcome, hreturns⟩ | ⟨e, hfails⟩
    · exact ⟨outcome, _, hreturns⟩
    · exact (hends.fails hfails).elim

theorem publishAt_atomic_stale :
    let core := Transition.run step Sample.core Sample.published
    Fails (publishAt (Sample.publication 5) 0 0 Sample.clock) core (.staleSequence 5 5)
        (after (publishAt (Sample.publication 5) 0 0 Sample.clock) core) ∧
      (after (publishAt (Sample.publication 5) 0 0 Sample.clock) core = core ∨
        ∃ limiter, after (publishAt (Sample.publication 5) 0 0 Sample.clock) core =
          core.modifyConnection ⟨1⟩ fun state => { state with rateLimiter := limiter }) := by
  intro core
  have hfails : Fails (publishAt (Sample.publication 5) 0 0 Sample.clock) core (.staleSequence 5 5)
      (after (publishAt (Sample.publication 5) 0 0 Sample.clock) core) := by
    rfl
  exact ⟨hfails, (publishAt_atomic (Sample.reachable _) (Sample.publication 5) 0 0 Sample.clock).1
    _ _ hfails⟩

end Signalweave
