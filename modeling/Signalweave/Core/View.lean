import Signalweave.Core.Run
import Signalweave.QueueProps

/-!
# Reading the state

A session or a connection that does not exist reads as an empty one, so that what two indexes
say of each other needs no case for a missing entry. What an update does is stated through these
readings.
-/

open Std

namespace Signalweave

/-! ## Lookups of the two tables -/

namespace WovenCore

/-- The session filed under a key, an empty one where there is none. -/
def sessionAt (core : WovenCore) (key : SessionKey) : SessionState := (core.sessions[key]?).getD {}

/-- The connection with an id, one that has nothing where there is none. -/
def connectionAt (core : WovenCore) (connection : ConnectionId) : ConnectionState :=
  (core.connections[connection]?).getD { outbound := { config := {} } }

theorem sessionAt_of_some {core : WovenCore} {key : SessionKey} {session : SessionState}
    (h : core.sessions[key]? = some session) : core.sessionAt key = session := by
  rw [sessionAt, h, Option.getD_some]

theorem connectionAt_of_some {core : WovenCore} {connection : ConnectionId}
    {state : ConnectionState} (h : core.connections[connection]? = some state) :
    core.connectionAt connection = state := by
  rw [connectionAt, h, Option.getD_some]

theorem sessions_getElem? {core : WovenCore} {key : SessionKey} (h : key ∈ core.sessions) :
    core.sessions[key]? = some (core.sessionAt key) := by
  obtain ⟨session, hs⟩ := OrderedMap.exists_of_mem h
  rw [hs, sessionAt_of_some hs]

theorem connections_getElem? {core : WovenCore} {connection : ConnectionId}
    (h : connection ∈ core.connections) :
    core.connections[connection]? = some (core.connectionAt connection) := by
  obtain ⟨state, hs⟩ := OrderedMap.exists_of_mem h
  rw [hs, connectionAt_of_some hs]

theorem sessionAt_of_notMem {core : WovenCore} {key : SessionKey} (h : key ∉ core.sessions) :
    core.sessionAt key = {} := by
  simp [sessionAt, ExtTreeMap.getElem?_eq_none h]

theorem connectionAt_of_notMem {core : WovenCore} {connection : ConnectionId}
    (h : connection ∉ core.connections) :
    core.connectionAt connection = { outbound := { config := {} } } := by
  simp [connectionAt, ExtTreeMap.getElem?_eq_none h]

/-- A member of anything is a live connection. -/
theorem mem_connections_of_membership {core : WovenCore} {connection : ConnectionId}
    {key : SessionKey} (h : key ∈ (core.connectionAt connection).memberships) :
    connection ∈ core.connections := by
  by_contra hmem
  simp [connectionAt_of_notMem hmem] at h

theorem mem_connections_of_subscription {core : WovenCore} {connection : ConnectionId}
    {spaceKey : SpaceKey} (h : spaceKey ∈ (core.connectionAt connection).subscriptions) :
    connection ∈ core.connections := by
  by_contra hmem
  simp [connectionAt_of_notMem hmem] at h

/-! ## What the updates do to the readings -/

section Updates

variable {core : WovenCore} {key k : SessionKey} {connection c : ConnectionId}

@[simp] theorem sessionAt_modifySession {f : SessionState → SessionState} :
    (core.modifySession key f).sessionAt k =
      if k = key ∧ key ∈ core.sessions then f (core.sessionAt k) else core.sessionAt k := by
  by_cases hk : k = key
  · subst hk
    by_cases hmem : k ∈ core.sessions
    · simp [sessionAt, modifySession, hmem]
    · simp [sessionAt, modifySession, hmem]
  · simp [sessionAt, modifySession, ExtTreeMap.getElem?_modify, hk, Ne.symm hk]

@[simp] theorem connectionAt_modifySession {f : SessionState → SessionState} :
    (core.modifySession key f).connectionAt c = core.connectionAt c := rfl

@[simp] theorem sessionAt_modifyConnection {g : ConnectionState → ConnectionState} :
    (core.modifyConnection connection g).sessionAt k = core.sessionAt k := rfl

@[simp] theorem connectionAt_modifyConnection {g : ConnectionState → ConnectionState} :
    (core.modifyConnection connection g).connectionAt c =
      if c = connection ∧ connection ∈ core.connections then g (core.connectionAt c)
      else core.connectionAt c := by
  by_cases hc : c = connection
  · subst hc
    by_cases hmem : c ∈ core.connections
    · simp [connectionAt, modifyConnection, hmem]
    · simp [connectionAt, modifyConnection, hmem]
  · simp [connectionAt, modifyConnection, ExtTreeMap.getElem?_modify, hc, Ne.symm hc]

@[simp] theorem sessionAt_mapConnections {g : ConnectionId → ConnectionState → ConnectionState} :
    (core.mapConnections g).sessionAt k = core.sessionAt k := rfl

@[simp] theorem connectionAt_mapConnections
    {g : ConnectionId → ConnectionState → ConnectionState} :
    (core.mapConnections g).connectionAt c =
      if c ∈ core.connections then g c (core.connectionAt c) else core.connectionAt c := by
  by_cases hmem : c ∈ core.connections
  · simp [connectionAt, mapConnections, hmem]
  · simp [connectionAt, mapConnections, hmem]

@[simp] theorem mem_sessions_modifySession {f : SessionState → SessionState} :
    k ∈ (core.modifySession key f).sessions ↔ k ∈ core.sessions :=
  ExtTreeMap.mem_modify

@[simp] theorem mem_connections_modifyConnection {g : ConnectionState → ConnectionState} :
    c ∈ (core.modifyConnection connection g).connections ↔ c ∈ core.connections :=
  ExtTreeMap.mem_modify

@[simp] theorem mem_connections_mapConnections
    {g : ConnectionId → ConnectionState → ConnectionState} :
    c ∈ (core.mapConnections g).connections ↔ c ∈ core.connections := by
  simp [mapConnections]

@[simp] theorem connections_modifySession {f : SessionState → SessionState} :
    (core.modifySession key f).connections = core.connections := rfl

@[simp] theorem sessions_modifyConnection {g : ConnectionState → ConnectionState} :
    (core.modifyConnection connection g).sessions = core.sessions := rfl

@[simp] theorem sessions_mapConnections {g : ConnectionId → ConnectionState → ConnectionState} :
    (core.mapConnections g).sessions = core.sessions := rfl

end Updates

end WovenCore

/-! ## What the indexes are about -/

namespace SessionState

/-- The space is installed and at this epoch. -/
def Installed (session : SessionState) (space : SpaceId) (epoch : SpaceEpoch) : Prop :=
  ∃ descriptor, session.spaces[space]? = some descriptor ∧ descriptor.epoch = epoch

/-- The space is installed at this epoch, and the entity, where one is named, is in it. -/
def InScope (session : SessionState) (space : SpaceId) (epoch : SpaceEpoch)
    (entity : Option EntityId) : Prop :=
  session.Installed space epoch ∧
    ∀ id, entity = some id → ∃ record, session.entities[id]? = some record ∧ record.space = space

/-- The subscribers of a space. -/
def subscribersOf (session : SessionState) (space : SpaceId) : ExtTreeSet ConnectionId :=
  (session.subscribers[space]?).getD ∅

/-- The number of entities of the session that a connection owns. -/
def ownedBy (session : SessionState) (connection : ConnectionId) : Nat :=
  OrderedMap.total (fun _ record => if record.ownerConnection = connection then 1 else 0)
    session.entities

end SessionState

/-- The number of entities that a connection owns over all sessions. -/
def WovenCore.ownedCount (core : WovenCore) (connection : ConnectionId) : Nat :=
  OrderedMap.total (fun _ session => session.ownedBy connection) core.sessions

end Signalweave
