import Signalweave.Core.Soundness

/-!
# The indexes agree in every reachable state
-/

open Std

namespace Signalweave

open WovenCore

/-! ## A small deployment

A core with one session of a few spaces, whose connections may read and write everything. Runs
on it are what the results are tried on.
-/

namespace Sample

/-- The session of the samples. -/
def session : SessionKey := ⟨⟨1⟩, ⟨1⟩⟩

/-- A space of the session. -/
def spaceKey (n : Nat) : SpaceKey := ⟨session, ⟨n⟩⟩

/-- Grants for the session, two of its spaces and one channel. -/
def grants : AuthorizationGrants where
  namespaces := .ofList [((⟨1⟩ : NamespaceId), AccessGrant.readWrite)]
  sessions := .ofList [(session, AccessGrant.readWrite)]
  spaces := .ofList [(spaceKey 1, AccessGrant.readWrite), (spaceKey 2, AccessGrant.readWrite)]
  channels := .ofList [((⟨session, ⟨1⟩⟩ : ChannelScope), AccessGrant.readWrite)]

/-- Everybody gets in, with the length of the token as principal. -/
def authenticator : Authenticator where
  authenticate credentials := .ok { principalId := ⟨credentials.token.length⟩, grants }

/-- A core with the default limits, in which every token is let in. -/
def core : WovenCore where
  authenticator
  config := {}
  journalOutbox := { capacity := 1024 }

theorem initial : Initial core := ⟨authenticator, {}, rfl⟩

theorem reachable (ops : List Op) : Reachable (Transition.run step core ops) :=
  ⟨core, ops, initial, rfl⟩

/-- A top-level space of the session. -/
def space (n : Nat) : SpaceDescriptor :=
  { id := ⟨n⟩, localFrame := .logical, parent := none, epoch := ⟨1⟩, routing := .broadcastAll }

/-- The session is provisioned with two spaces and the first connection subscribes to both. -/
def setup : List Op :=
  [ .provisionSession session, .installSpace session (space 1), .installSpace session (space 2),
    .transportConnected, .authenticate ⟨1⟩ ⟨"a"⟩, .joinSession ⟨1⟩ session,
    .subscribe ⟨1⟩ (spaceKey 1), .subscribe ⟨1⟩ (spaceKey 2) ]

end Sample

/-! ## The indexes -/

/-- What the tables of the core say of each other, entry by entry. -/
structure IndexesAgree (core : WovenCore) : Prop where
  members : ∀ (c : ConnectionId) (key : SessionKey),
    (∃ session, core.sessions[key]? = some session ∧ c ∈ session.members) ↔
      ∃ state, core.connections[c]? = some state ∧ key ∈ state.memberships
  subscribers : ∀ (c : ConnectionId) (key : SessionKey) (space : SpaceId),
    (∃ session subscribers, core.sessions[key]? = some session ∧
      session.subscribers[space]? = some subscribers ∧ c ∈ subscribers) ↔
      ∃ state, core.connections[c]? = some state ∧ ⟨key, space⟩ ∈ state.subscriptions
  subscriberKeys : ∀ (key : SessionKey) (session : SessionState),
    core.sessions[key]? = some session →
      ∀ space, space ∈ session.subscribers ↔ space ∈ session.spaces
  subscriptionMember : ∀ (c : ConnectionId) (state : ConnectionState),
    core.connections[c]? = some state →
      ∀ spaceKey, spaceKey ∈ state.subscriptions → spaceKey.session ∈ state.memberships
  entities : ∀ (key : SessionKey) (session : SessionState) (id : EntityId) (record : EntityRecord),
    core.sessions[key]? = some session → session.entities[id]? = some record →
      (∃ state, core.connections[record.ownerConnection]? = some state ∧
        key ∈ state.memberships ∧ record.ownerConnection ∈ session.members) ∧
      ∃ descriptor, session.spaces[record.space]? = some descriptor ∧
        descriptor.epoch = record.spaceEpoch
  owned : ∀ (c : ConnectionId) (state : ConnectionState), core.connections[c]? = some state →
    state.ownedEntities = core.ownedCount c
  bytes : ∀ (key : SessionKey) (session : SessionState), core.sessions[key]? = some session →
    session.stateBytes = session.storedBytes
  stateKeys : ∀ (key : SessionKey) (session : SessionState) (k : StateKey),
    core.sessions[key]? = some session → k ∈ session.state →
      (∃ descriptor, session.spaces[k.space]? = some descriptor ∧
        descriptor.epoch = k.spaceEpoch) ∧
      ∀ id, k.entity = some id →
        ∃ record, session.entities[id]? = some record ∧ record.space = k.space
  sequenceKeys : ∀ (key : SessionKey) (session : SessionState) (k : SequenceKey),
    core.sessions[key]? = some session → k ∈ session.sequences →
      (∃ descriptor, session.spaces[k.space]? = some descriptor ∧
        descriptor.epoch = k.spaceEpoch) ∧
      ∀ id, k.entity = some id →
        ∃ record, session.entities[id]? = some record ∧ record.space = k.space

variable {core : WovenCore}

theorem exists_session_iff {key : SessionKey} {p : SessionState → Prop} (hempty : ¬ p {}) :
    (∃ session, core.sessions[key]? = some session ∧ p session) ↔ p (core.sessionAt key) := by
  constructor
  · rintro ⟨session, hsession, hp⟩
    rwa [sessionAt_of_some hsession]
  · intro hp
    by_cases hkey : key ∈ core.sessions
    · exact ⟨_, sessions_getElem? hkey, hp⟩
    · rw [sessionAt_of_notMem hkey] at hp
      exact absurd hp hempty

theorem exists_connection_iff {c : ConnectionId} {p : ConnectionState → Prop}
    (hempty : ¬ p { outbound := { config := {} } }) :
    (∃ state, core.connections[c]? = some state ∧ p state) ↔ p (core.connectionAt c) := by
  constructor
  · rintro ⟨state, hstate, hp⟩
    rwa [connectionAt_of_some hstate]
  · intro hp
    by_cases hlive : c ∈ core.connections
    · exact ⟨_, connections_getElem? hlive, hp⟩
    · rw [connectionAt_of_notMem hlive] at hp
      exact absurd hp hempty

theorem mem_subscribersOf_iff {session : SessionState} {space : SpaceId} {c : ConnectionId} :
    c ∈ session.subscribersOf space ↔
      ∃ subscribers, session.subscribers[space]? = some subscribers ∧ c ∈ subscribers := by
  unfold SessionState.subscribersOf
  cases session.subscribers[space]? with
  | none => simp
  | some subscribers => simp

theorem WovenCore.Consistent.indexesAgree (h : core.Consistent) : IndexesAgree core := by
  refine ⟨?_, ?_, ?_, ?_, ?_, ?_, ?_, ?_, ?_⟩
  · intro c key
    rw [exists_session_iff (by simp), exists_connection_iff (by simp)]
    exact h.membership c key
  · intro c key space
    have hsession : (∃ session, core.sessions[key]? = some session ∧
        c ∈ session.subscribersOf space) ↔ c ∈ (core.sessionAt key).subscribersOf space :=
      exists_session_iff (by simp [SessionState.subscribersOf])
    rw [exists_connection_iff (by simp), ← h.subscription, ← hsession]
    simp only [mem_subscribersOf_iff, exists_and_left]
  · intro key session hsession space
    obtain rfl := sessionAt_of_some hsession
    exact (h.session key).subscriberSpaces space
  · intro c state hstate spaceKey hin
    obtain rfl := connectionAt_of_some hstate
    exact h.subscriptionMember c spaceKey hin
  · intro key session id record hsession hrecord
    obtain rfl := sessionAt_of_some hsession
    have hmember := (h.session key).owners id record hrecord
    have hkey := (h.membership record.ownerConnection key).mp hmember
    exact ⟨⟨_, connections_getElem? (mem_connections_of_membership hkey), hkey, hmember⟩,
      (h.session key).located id record hrecord⟩
  · intro c state hstate
    obtain rfl := connectionAt_of_some hstate
    exact h.owned c
  · intro key session hsession
    obtain rfl := sessionAt_of_some hsession
    exact (h.session key).bytes
  · intro key session k hsession hk
    obtain rfl := sessionAt_of_some hsession
    exact (h.session key).stateKeys k hk
  · intro key session k hsession hk
    obtain rfl := sessionAt_of_some hsession
    exact (h.session key).sequenceKeys k hk

/-- Whatever operations are made, in whatever order and with whatever outcome, the redundant
indexes agree. -/
theorem indexes_agree (h : Reachable core) : IndexesAgree core := h.sound.consistent.indexesAgree

theorem indexes_agree_after_spawn :
    let core := Transition.run step Sample.core
      (Sample.setup ++ [.spawnEntity ⟨1⟩ (Sample.spaceKey 1) ⟨1⟩])
    (⟨1⟩ : EntityId) ∈ (core.sessionAt Sample.session).entities ∧ IndexesAgree core :=
  ⟨by decide +kernel, indexes_agree (Sample.reachable _)⟩

end Signalweave
