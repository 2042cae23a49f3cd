import Signalweave.Core.SessionIndexes

/-!
# The indexes of the core

Sessions and connections each record who belongs where. Every change keeps the two sides in
agreement, each session consistent and each owner's counter exact.
-/

open Std

namespace Signalweave

namespace WovenCore

/-- The redundant indexes of the core agree. -/
structure Consistent (core : WovenCore) : Prop where
  session : ∀ key, (core.sessionAt key).Consistent
  membership : ∀ connection key, connection ∈ (core.sessionAt key).members ↔
    key ∈ (core.connectionAt connection).memberships
  subscription : ∀ connection key space, connection ∈ (core.sessionAt key).subscribersOf space ↔
    ⟨key, space⟩ ∈ (core.connectionAt connection).subscriptions
  subscriptionMember : ∀ connection spaceKey,
    spaceKey ∈ (core.connectionAt connection).subscriptions →
      spaceKey.session ∈ (core.connectionAt connection).memberships
  owned : ∀ connection,
    (core.connectionAt connection).ownedEntities = core.ownedCount connection
  connectionIds : ∀ connection, connection ∈ core.connections →
    0 < connection.get ∧ connection.get < core.nextConnectionId
  nextConnection : 0 < core.nextConnectionId
  entityIds : ∀ key id, id ∈ (core.sessionAt key).entities →
    0 < id.get ∧ id.get < core.nextEntityId
  nextEntity : 0 < core.nextEntityId

variable {core core' : WovenCore}

/-! ## Counting owned entities -/

theorem share_ownedBy {key : SessionKey} {connection : ConnectionId} :
    OrderedMap.share (fun _ session => SessionState.ownedBy session connection) core.sessions key =
      (core.sessionAt key).ownedBy connection := by
  unfold OrderedMap.share sessionAt
  cases core.sessions[key]? with
  | none => simp [SessionState.ownedBy]
  | some session => rfl

/-- Where the sessions other than one are untouched, the count moves by what that one gained or
lost. -/
theorem ownedCount_update (core core' : WovenCore) (key : SessionKey)
    (h : ∀ k, k ≠ key → core'.sessions[k]? = core.sessions[k]?) (connection : ConnectionId) :
    core'.ownedCount connection + (core.sessionAt key).ownedBy connection =
      core.ownedCount connection + (core'.sessionAt key).ownedBy connection := by
  rw [← share_ownedBy, ← share_ownedBy]
  exact OrderedMap.total_update h

theorem sessions_modifySession_of_ne {key k : SessionKey} {f : SessionState → SessionState}
    (h : k ≠ key) : (core.modifySession key f).sessions[k]? = core.sessions[k]? := by
  rw [modifySession, OrderedMap.getElem?_modify, if_neg h]

theorem ownedBy_of_lookup {session session' : SessionState} {connection : ConnectionId}
    (h : ∀ id : EntityId, (session'.entities[id]?).map EntityRecord.ownerConnection =
      (session.entities[id]?).map EntityRecord.ownerConnection) :
    session'.ownedBy connection = session.ownedBy connection := by
  apply OrderedMap.total_congr
  · intro id
    have hid := congrArg Option.isSome (h id)
    rw [Option.isSome_map, Option.isSome_map] at hid
    rw [ExtTreeMap.mem_iff_isSome_getElem?, ExtTreeMap.mem_iff_isSome_getElem?, hid]
  · intro id
    have hid := h id
    unfold OrderedMap.share
    cases h₁ : session'.entities[id]? <;> cases h₂ : session.entities[id]? <;> simp_all

theorem ownedBy_eq_zero {session : SessionState} {connection : ConnectionId}
    (h : ∀ (id : EntityId) (record : EntityRecord), session.entities[id]? = some record →
      record.ownerConnection ≠ connection) : session.ownedBy connection = 0 :=
  OrderedMap.total_eq_zero fun id record hid => if_neg (h id record hid)

/-! ## Changes to one side only -/

/-- The connections, read through what the indexes ask of them. -/
structure SameConnections (core core' : WovenCore) : Prop where
  memberships : ∀ connection, (core'.connectionAt connection).memberships =
    (core.connectionAt connection).memberships
  subscriptions : ∀ connection, (core'.connectionAt connection).subscriptions =
    (core.connectionAt connection).subscriptions
  ownedEntities : ∀ connection, (core'.connectionAt connection).ownedEntities =
    (core.connectionAt connection).ownedEntities
  live : ∀ connection, connection ∈ core'.connections ↔ connection ∈ core.connections
  nextConnectionId : core'.nextConnectionId = core.nextConnectionId

/-- The sessions, read through what the indexes ask of them. -/
structure SameSessions (core core' : WovenCore) : Prop where
  members : ∀ key, (core'.sessionAt key).members = (core.sessionAt key).members
  subscribers : ∀ key space,
    (core'.sessionAt key).subscribersOf space = (core.sessionAt key).subscribersOf space
  ownedCount : ∀ connection, core'.ownedCount connection = core.ownedCount connection
  entities : ∀ key id, id ∈ (core'.sessionAt key).entities → id ∈ (core.sessionAt key).entities
  nextEntityId : core'.nextEntityId = core.nextEntityId

theorem Consistent.frame (h : core.Consistent) (hsession : ∀ key, (core'.sessionAt key).Consistent)
    (hs : SameSessions core core') (hc : SameConnections core core') : core'.Consistent where
  session := hsession
  membership connection key := by
    rw [hs.members, hc.memberships]
    exact h.membership connection key
  subscription connection key space := by
    rw [hs.subscribers, hc.subscriptions]
    exact h.subscription connection key space
  subscriptionMember connection spaceKey := by
    rw [hc.memberships, hc.subscriptions]
    exact h.subscriptionMember connection spaceKey
  owned connection := by
    rw [hc.ownedEntities, hs.ownedCount]
    exact h.owned connection
  connectionIds connection hlive := by
    rw [hc.nextConnectionId]
    exact h.connectionIds connection ((hc.live connection).mp hlive)
  nextConnection := by
    rw [hc.nextConnectionId]
    exact h.nextConnection
  entityIds key id hid := by
    rw [hs.nextEntityId]
    exact h.entityIds key id (hs.entities key id hid)
  nextEntity := by
    rw [hs.nextEntityId]
    exact h.nextEntity

/-- Only the tables of sessions and connections and the two counters matter. -/
theorem Consistent.congr (h : core.Consistent) (hs : core'.sessions = core.sessions)
    (hc : core'.connections = core.connections)
    (hconnection : core'.nextConnectionId = core.nextConnectionId)
    (hentity : core'.nextEntityId = core.nextEntityId) : core'.Consistent := by
  have hsessionAt : ∀ key, core'.sessionAt key = core.sessionAt key := by
    intro key
    rw [sessionAt, sessionAt, hs]
  have hconnectionAt : ∀ connection, core'.connectionAt connection =
      core.connectionAt connection := by
    intro connection
    rw [connectionAt, connectionAt, hc]
  apply h.frame
  · exact fun key => hsessionAt key ▸ h.session key
  · constructor <;> simp [hsessionAt, ownedCount, hs, hentity]
  · constructor <;> simp [hconnectionAt, hc, hconnection]

theorem Consistent.modifySession {key : SessionKey} {f : SessionState → SessionState}
    (h : core.Consistent) (hlocal : key ∈ core.sessions → (f (core.sessionAt key)).Consistent)
    (hmembers : (f (core.sessionAt key)).members = (core.sessionAt key).members)
    (hsubscribers : ∀ space,
      (f (core.sessionAt key)).subscribersOf space = (core.sessionAt key).subscribersOf space)
    (howners : ∀ id : EntityId,
      ((f (core.sessionAt key)).entities[id]?).map EntityRecord.ownerConnection =
        ((core.sessionAt key).entities[id]?).map EntityRecord.ownerConnection) :
    (core.modifySession key f).Consistent := by
  have hsplit : ∀ k, (core.modifySession key f).sessionAt k = core.sessionAt k ∨
      k = key ∧ key ∈ core.sessions ∧
        (core.modifySession key f).sessionAt k = f (core.sessionAt key) := by
    intro k
    rw [sessionAt_modifySession]
    split
    · rename_i hk
      exact .inr ⟨hk.1, hk.2, by rw [hk.1]⟩
    · exact .inl rfl
  apply h.frame
  · intro k
    rcases hsplit k with heq | ⟨-, hmem, heq⟩
    · exact heq ▸ h.session k
    · exact heq ▸ hlocal hmem
  · refine ⟨?_, ?_, ?_, ?_, rfl⟩
    · intro k
      rcases hsplit k with heq | ⟨rfl, -, heq⟩ <;> rw [heq]
      exact hmembers
    · intro k space
      rcases hsplit k with heq | ⟨rfl, -, heq⟩ <;> rw [heq]
      exact hsubscribers space
    · intro connection
      have hupdate := ownedCount_update core (core.modifySession key f) key
        (fun k hk => sessions_modifySession_of_ne hk) connection
      have howned : ((core.modifySession key f).sessionAt key).ownedBy connection =
          (core.sessionAt key).ownedBy connection := by
        rcases hsplit key with heq | ⟨-, -, heq⟩ <;> rw [heq]
        exact ownedBy_of_lookup howners
      omega
    · intro k id hid
      rcases hsplit k with heq | ⟨rfl, -, heq⟩ <;> rw [heq] at hid
      · exact hid
      · have hmap := congrArg Option.isSome (howners id)
        simp only [Option.isSome_map] at hmap
        rw [ExtTreeMap.mem_iff_isSome_getElem?] at hid ⊢
        rw [← hmap, hid]
  · exact ⟨fun _ => rfl, fun _ => rfl, fun _ => rfl, fun _ => Iff.rfl, rfl⟩

theorem Consistent.mapConnections {g : ConnectionId → ConnectionState → ConnectionState}
    (h : core.Consistent) (hmemberships : ∀ c state, (g c state).memberships = state.memberships)
    (hsubscriptions : ∀ c state, (g c state).subscriptions = state.subscriptions)
    (howned : ∀ c state, (g c state).ownedEntities = state.ownedEntities) :
    (core.mapConnections g).Consistent := by
  refine h.frame (fun key => h.session key) ?_ ?_
  · exact ⟨fun _ => rfl, fun _ _ => rfl, fun _ => rfl, fun _ _ hid => hid, rfl⟩
  · refine ⟨?_, ?_, ?_, fun _ => mem_connections_mapConnections, rfl⟩ <;>
      (intro connection; rw [connectionAt_mapConnections]; split)
    all_goals simp [hmemberships, hsubscriptions, howned]

theorem Consistent.modifyConnection {connection : ConnectionId}
    {g : ConnectionState → ConnectionState} (h : core.Consistent)
    (hmemberships : ∀ state, (g state).memberships = state.memberships)
    (hsubscriptions : ∀ state, (g state).subscriptions = state.subscriptions)
    (howned : ∀ state, (g state).ownedEntities = state.ownedEntities) :
    (core.modifyConnection connection g).Consistent := by
  refine h.frame (fun key => h.session key) ?_ ?_
  · exact ⟨fun _ => rfl, fun _ _ => rfl, fun _ => rfl, fun _ _ hid => hid, rfl⟩
  · refine ⟨?_, ?_, ?_, fun _ => mem_connections_modifyConnection, rfl⟩ <;>
      (intro other; rw [connectionAt_modifyConnection]; split)
    all_goals simp [hmemberships, hsubscriptions, howned]

end WovenCore

end Signalweave
