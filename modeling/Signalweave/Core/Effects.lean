import Signalweave.Core.Falling
import Signalweave.Core.Isolation
import Signalweave.Core.Reliable

/-!
# What an operation takes away

Most operations leave every connection, every subscription and every entity in place. For the
others it is said what they take away, and which checks they have made before.
-/

open Std

namespace Signalweave

open Stateful WovenCore

/-! ## Operations that take nothing away -/

namespace WovenCore

/-- Nothing has gone that was there. -/
structure Keeps (core core' : WovenCore) : Prop where
  live : ∀ c, c ∈ core.connections → c ∈ core'.connections
  subscriptions : ∀ c spaceKey, spaceKey ∈ (core.connectionAt c).subscriptions →
    spaceKey ∈ (core'.connectionAt c).subscriptions
  entities : ∀ key id, id ∈ (core.sessionAt key).entities → id ∈ (core'.sessionAt key).entities

theorem Keeps.refl (core : WovenCore) : core.Keeps core :=
  ⟨fun _ h => h, fun _ _ h => h, fun _ _ h => h⟩

theorem Keeps.trans {core core' core'' : WovenCore} (h : core.Keeps core')
    (h' : core'.Keeps core'') : core.Keeps core'' where
  live c hlive := h'.live c (h.live c hlive)
  subscriptions c spaceKey hin := h'.subscriptions c spaceKey (h.subscriptions c spaceKey hin)
  entities key id hin := h'.entities key id (h.entities key id hin)

/-- The connections stay as they are but for what does not matter here. -/
theorem keeps_of_sessions {core core' : WovenCore}
    (hconnections : core'.connections = core.connections)
    (hentities : ∀ key id,
      id ∈ (core.sessionAt key).entities → id ∈ (core'.sessionAt key).entities) :
    core.Keeps core' := by
  refine ⟨?_, ?_, hentities⟩
  · intro c hlive
    rwa [hconnections]
  · intro c spaceKey hin
    rwa [connectionAt, hconnections, ← connectionAt]

theorem keeps_modifySession {core : WovenCore} {key : SessionKey} {f : SessionState → SessionState}
    (hentities : ∀ id,
      id ∈ (core.sessionAt key).entities → id ∈ (f (core.sessionAt key)).entities) :
    core.Keeps (core.modifySession key f) := by
  refine keeps_of_sessions rfl ?_
  intro k id hin
  rw [sessionAt_modifySession]
  split
  · rename_i hk
    rw [hk.1] at hin ⊢
    exact hentities id hin
  · exact hin

theorem keeps_modifyConnection {core : WovenCore} {connection : ConnectionId}
    {g : ConnectionState → ConnectionState}
    (hsubscriptions : ∀ state spaceKey, spaceKey ∈ state.subscriptions →
      spaceKey ∈ (g state).subscriptions) : core.Keeps (core.modifyConnection connection g) := by
  refine ⟨?_, ?_, fun _ _ hin => hin⟩
  · exact fun c hlive => mem_connections_modifyConnection.mpr hlive
  · intro c spaceKey hin
    rw [connectionAt_modifyConnection]
    split
    · exact hsubscriptions _ _ hin
    · exact hin

theorem keeps_mapConnections {core : WovenCore}
    {g : ConnectionId → ConnectionState → ConnectionState}
    (hsubscriptions : ∀ c state, (g c state).subscriptions = state.subscriptions) :
    core.Keeps (core.mapConnections g) := by
  refine ⟨?_, ?_, fun _ _ hin => hin⟩
  · exact fun c hlive => mem_connections_mapConnections.mpr hlive
  · intro c spaceKey hin
    rw [connectionAt_mapConnections]
    split
    · rwa [hsubscriptions]
    · exact hin

theorem keeps_subscribe {core : WovenCore} {connection : ConnectionId} {spaceKey : SpaceKey} :
    core.Keeps (core.subscribe connection spaceKey) := by
  refine Keeps.trans ?_ (keeps_modifySession fun _ hin => hin)
  exact keeps_modifyConnection fun _ _ hin => OrderedSet.mem_insert.mpr (Or.inr hin)

theorem keeps_spawn {core : WovenCore} {connection : ConnectionId} {spaceKey : SpaceKey}
    {epoch : SpaceEpoch} {principal : AuthenticatedPrincipal} :
    core.Keeps (core.spawn connection spaceKey epoch principal) := by
  refine Keeps.trans ?_ (keeps_modifyConnection fun _ _ hin => hin)
  refine Keeps.trans ?_ (keeps_modifySession fun _ hin => OrderedMap.mem_insert.mpr (Or.inr hin))
  exact keeps_of_sessions rfl fun _ _ hin => hin

end WovenCore

/-- The operation takes nothing away. -/
def Op.quiet : Op → Prop
  | .leaveSession .. | .unsubscribe .. | .removeEntity .. | .advanceSpaceEpoch .. | .publishAt ..
  | .transportLost .. => False
  | _ => True

theorem Change.keeps {op : Op} {core core' : WovenCore} (h : Change op core core')
    (hcore : core.Consistent) (hop : op.quiet) : core.Keeps core' := by
  cases h with
  | registerChannel => exact keeps_of_sessions rfl fun _ _ hin => hin
  | provisionSession key fresh =>
    refine keeps_of_sessions rfl ?_
    intro k id hin
    have hne : k ≠ key := by
      rintro rfl
      rw [sessionAt_of_notMem fresh] at hin
      simp at hin
    rw [sessionAt, OrderedMap.getElem?_insert, if_neg hne, ← sessionAt]
    exact hin
  | configureAdmission => exact keeps_of_sessions rfl fun _ _ hin => hin
  | applyCapacity => exact keeps_of_sessions rfl fun _ _ hin => hin
  | requestAdmission => exact keeps_of_sessions rfl fun _ _ hin => hin
  | bindLease => exact keeps_of_sessions rfl fun _ _ hin => hin
  | join connection key =>
    refine Keeps.trans ?_ (keeps_modifySession fun _ hin => hin)
    exact keeps_modifyConnection fun _ _ hin => hin
  | installSpace => exact keeps_modifySession fun _ hin => hin
  | removeEntities key initial asked => cases op <;> first | exact hop.elim | exact asked.elim
  | purgeSpace => exact hop.elim
  | advanceEpoch => exact hop.elim
  | takeConnectionId => exact keeps_of_sessions rfl fun _ _ hin => hin
  | connect outbound =>
    refine ⟨?_, ?_, fun _ _ hin => hin⟩
    · exact fun c hlive => OrderedMap.mem_insert.mpr (Or.inr hlive)
    · intro c spaceKey hin
      have hlive := mem_connections_of_subscription hin
      have hne : c ≠ ⟨core.nextConnectionId⟩ := by
        rintro rfl
        exact absurd (hcore.connectionIds _ hlive).2 (Nat.lt_irrefl _)
      rw [connectionAt, OrderedMap.getElem?_insert, if_neg hne, ← connectionAt]
      exact hin
  | authenticate => exact keeps_modifyConnection fun _ _ hin => hin
  | leave connection key reason now asked =>
    cases op <;> first | exact hop.elim | exact asked.elim
  | subscribe => exact keeps_subscribe
  | unsubscribe => exact hop.elim
  | spawn => exact keeps_spawn
  | move connection key entity position cell =>
    refine keeps_modifySession ?_
    intro id hin
    rw [SessionState.moveToCell_eq]
    exact ExtTreeMap.mem_modify.mpr hin
  | transition request =>
    refine Keeps.trans (keeps_modifySession ?_) (keeps_mapConnections fun _ _ => rfl)
    intro id hin
    rw [SessionState.transition_eq]
    exact ExtTreeMap.mem_modify.mpr hin
  | limit => exact hop.elim
  | commit => exact hop.elim
  | deliver => exact hop.elim
  | drain => exact keeps_modifyConnection fun _ _ hin => hin
  | popJournal => exact keeps_of_sessions rfl fun _ _ hin => hin
  | releasePending connection key now asked =>
    cases op <;> first | exact hop.elim | exact asked.elim
  | disconnect connection asked => cases op <;> first | exact hop.elim | exact asked.elim

theorem Changes.keeps {op : Op} {core core' : WovenCore} (h : Changes op core core')
    (hsound : core.Sound) (hop : op.quiet) : core.Keeps core' := by
  induction h with
  | refl => exact Keeps.refl core
  | tail hchanges hlast ih =>
    exact ih.trans (hlast.keeps (Changes.sound hchanges hsound).consistent hop)

/-! ## Operations that take something away -/

section Operations

variable {core core' : WovenCore} {connection c : ConnectionId} {key k : SessionKey}
  {spaceKey : SpaceKey} {entity id : EntityId} {now : Instant}

/-- Some connections and some subscriptions have gone, and no others. -/
structure Withdraws (core core' : WovenCore) (lost : ConnectionId → Prop)
    (withdrawn : ConnectionId → SpaceKey → Prop) : Prop where
  live : ∀ c, c ∈ core'.connections ↔ c ∈ core.connections ∧ ¬ lost c
  subscriptions : ∀ c spaceKey, spaceKey ∈ (core'.connectionAt c).subscriptions ↔
    spaceKey ∈ (core.connectionAt c).subscriptions ∧ ¬ withdrawn c spaceKey

/-- What `leave_session` asks for. -/
structure LeaveAllowed (core : WovenCore) (connection : ConnectionId) (key : SessionKey) :
    Prop where
  id : connection.get ≠ 0
  session : validateSessionKey key = .ok ()
  member : key ∈ (core.connectionAt connection).memberships

theorem leaveSession_ends : Ends (leaveSession connection key now) core
    (fun summary core' => LeaveAllowed core connection key ∧
      core' = core.leave connection key .intentional now ∧
      summary = ((core.releaseSessionAdmission connection key .intentional
        now).detachConnectionFromSession connection key).1)
    fun _ core' => ¬ LeaveAllowed core connection key ∧ core' = core := by
  by_cases hallowed : LeaveAllowed core connection key
  · have hlive := mem_connections_of_membership hallowed.member
    have hrequired : core.requireMembership connection key = .ok () :=
      requireMembership_eq_ok.mpr ⟨_, connections_getElem? hlive, hallowed.member⟩
    have hvalid : validateConnectionId connection = .ok () :=
      validateConnectionId_eq_ok.mpr hallowed.id
    simp [leaveSession, hvalid, hallowed.session, hrequired, hallowed]
    rfl
  · simp [leaveSession, requireMembership_eq_ok, hallowed]
    intro hid _ hsession state hstate hmember
    obtain rfl := connectionAt_of_some hstate
    exact hallowed ⟨hid, hsession, hmember⟩

theorem withdraws_leave (h : core.Consistent)
    (hmember : key ∈ (core.connectionAt connection).memberships) {reason : ReleaseReason} :
    Withdraws core (core.leave connection key reason now) (fun _ => False) fun c spaceKey =>
      spaceKey.session = key ∧ (c = connection ∨ core.SpaceFalls connection spaceKey) := by
  refine ⟨?_, ?_⟩
  · intro c
    rw [mem_connections_leave]
    simp
  · intro c spaceKey
    rw [mem_subscriptions_leave h hmember]
    tauto

/-- What `remove_entity` asks for. -/
structure RemovalAllowed (core : WovenCore) (connection : ConnectionId) (key : SessionKey)
    (entity : EntityId) : Prop where
  id : connection.get ≠ 0
  session : validateSessionKey key = .ok ()
  entityId : entity.get ≠ 0
  authenticated : ∃ principal, core.authenticatedPrincipal connection = .ok principal
  member : key ∈ (core.connectionAt connection).memberships
  owned : ∃ record, (core.sessionAt key).entities[entity]? = some record ∧
    record.ownerConnection = connection

/-- An entity of a session that does not exist is not found either. -/
theorem entities_bind : ((core.sessions[key]?).bind fun session => session.entities[id]?) =
    (core.sessionAt key).entities[id]? := by
  unfold sessionAt
  cases core.sessions[key]? with
  | none => simp
  | some session => rfl

theorem removeEntity_ends : Ends (removeEntity connection key entity) core
    (fun summary core' => RemovalAllowed core connection key entity ∧
      core' = core.dropRemoved key (core.removalOf key (ExtTreeSet.ofList [entity])) ∧
      summary = core.removalSummary key (core.removalOf key (ExtTreeSet.ofList [entity])))
    fun _ core' => ¬ RemovalAllowed core connection key entity ∧ core' = core := by
  by_cases hallowed : RemovalAllowed core connection key entity
  · have hallowed' := hallowed
    obtain ⟨hid, hsession, hentity, ⟨principal, hprincipal⟩, hmember, record, hrecord, howner⟩ :=
      hallowed'
    have hlive := mem_connections_of_membership hmember
    have hrequired : core.requireMembership connection key = .ok () :=
      requireMembership_eq_ok.mpr ⟨_, connections_getElem? hlive, hmember⟩
    have hvalid : validateConnectionId connection = .ok () := validateConnectionId_eq_ok.mpr hid
    simp [removeEntity, hvalid, hsession, hentity, hprincipal, hrequired, entities_bind, hrecord,
      howner, removeEntitiesAndAnchoredSpaces, requireNonzero, hallowed, - Option.bind_eq_none_iff]
    exact OrderedMap.mem_of_getElem? hrecord
  · simp [removeEntity, requireMembership_eq_ok, hallowed, entities_bind, - Option.bind_eq_none_iff]
    intro hid _ hsession hentity principal hprincipal state hstate hmember record hrecord howner
    obtain rfl := connectionAt_of_some hstate
    exact hallowed ⟨hid, hsession, hentity, ⟨principal, hprincipal⟩, hmember, record, hrecord,
      howner⟩

theorem withdraws_dropRemoved (h : core.Consistent) (hkey : key ∈ core.sessions)
    (initial : ExtTreeSet EntityId) :
    Withdraws core (core.dropRemoved key (core.removalOf key initial)) (fun _ => False)
      fun _ spaceKey => spaceKey.session = key ∧
        DoomedSpace (core.sessionAt key) initial spaceKey.space := by
  refine ⟨?_, ?_⟩
  · intro c
    rw [mem_connections_dropRemoved]
    simp
  · intro c spaceKey
    rw [mem_subscriptions_dropRemoved, ← mem_removalOf_spaces h hkey]
    tauto

/-- What an unsubscription takes away, and what it leaves. -/
theorem unsubscribe_ends : Ends (unsubscribe connection spaceKey) core
    (fun summary core' => summary.removedEntities = [] ∧
      (∀ key, (core'.sessionAt key).entities = (core.sessionAt key).entities) ∧
      Withdraws core core' (fun _ => False) fun c s => c = connection ∧ s = spaceKey)
    fun _ core' => core' = core := by
  simp [unsubscribe]
  intro hid _ hspace principal hprincipal state hstate
  obtain rfl := connectionAt_of_some hstate
  have hlive := OrderedMap.mem_of_getElem? hstate
  constructor
  · intro hin
    refine ⟨?_, ?_, ?_⟩
    · intro key
      split
      · rename_i hk
        rw [hk.1]
      · rfl
    · intro c
      simp
    · intro c s
      rw [connectionAt_modifyConnection, connectionAt_modifySession]
      split
      · rename_i hc
        refine OrderedSet.mem_erase.trans ?_
        simp [hc.1, and_comm]
      · rename_i hc
        have hne : c ≠ connection := fun heq => hc ⟨heq, hlive⟩
        simp [hne]
  · intro hnot
    refine ⟨by simp, ?_⟩
    intro c s
    constructor
    · intro hin
      refine ⟨hin, ?_⟩
      rintro ⟨rfl, rfl⟩
      exact hnot hin
    · exact And.left

theorem WovenCore.Loses.withdraws {removed : List RemovedEntity}
    (h : Loses core core' connection removed) :
    Withdraws core core' (· = connection) fun c spaceKey =>
      c = connection ∨ core.SpaceFalls connection spaceKey := by
  refine ⟨h.live, ?_⟩
  intro c spaceKey
  rw [h.subscriptions]
  tauto

/-! ## Subscribing and spawning -/

/-- What `subscribe` asks for. -/
structure SubscribeAllowed (core : WovenCore) (connection : ConnectionId) (spaceKey : SpaceKey) :
    Prop where
  id : connection.get ≠ 0
  space : validateSpaceKey spaceKey = .ok ()
  reads : ∃ principal, core.authenticatedPrincipal connection = .ok principal ∧
    principal.grants.canReadNamespace spaceKey.session.namespaceId = true ∧
      principal.grants.canReadSession spaceKey.session = true ∧
        principal.grants.canReadSpace spaceKey = true
  member : spaceKey.session ∈ (core.connectionAt connection).memberships
  room : spaceKey ∉ (core.connectionAt connection).subscriptions →
    (core.connectionAt connection).subscriptions.size ≠ core.config.maxSubscriptionsPerConnection ∧
      spaceKey.space ∈ (core.sessionAt spaceKey.session).spaces

theorem subscribe_ends (h : core.Consistent) : Ends (subscribe connection spaceKey) core
    (fun _ core' => SubscribeAllowed core connection spaceKey ∧ core' =
      if spaceKey ∈ (core.connectionAt connection).subscriptions then core
      else core.subscribe connection spaceKey)
    fun _ core' => ¬ SubscribeAllowed core connection spaceKey ∧ core' = core := by
  by_cases hallowed : SubscribeAllowed core connection spaceKey
  · have hallowed' := hallowed
    obtain ⟨hid, hspace, ⟨principal, hprincipal, hnamespace, hsession, hreads⟩, hmember, hroom⟩ :=
      hallowed'
    have hlive := mem_connections_of_membership hmember
    have hrequired : core.requireMembership connection spaceKey.session = .ok () :=
      requireMembership_eq_ok.mpr ⟨_, connections_getElem? hlive, hmember⟩
    have hvalid : validateConnectionId connection = .ok () := validateConnectionId_eq_ok.mpr hid
    have hkey := h.mem_sessions hmember
    simp [subscribe, hvalid, hspace, hprincipal, requireNamespaceRead, requireSessionRead,
      requireSpaceRead, requireGrant, hnamespace, hsession, hreads, hrequired,
      connections_getElem? hlive, sessions_getElem? hkey, hallowed, withConnection]
    refine ⟨⟨fun hin hnot => absurd hin hnot, fun hnot => ?_⟩, hlive⟩
    obtain ⟨hroom, hinstalled⟩ := hroom hnot
    have hsubscribers :=
      ((h.session spaceKey.session).subscriberSpaces spaceKey.space).mpr hinstalled
    rw [if_neg hnot]
    exact ⟨hroom, fun _ => ⟨⟨fun _ => ⟨⟨⟨fun _ => rfl, hsubscribers⟩, hkey⟩, hlive⟩, hinstalled⟩,
      hkey⟩⟩
  · simp [subscribe, requireMembership_eq_ok, withConnection, requireNamespaceRead,
      requireSessionRead, requireSpaceRead, hallowed]
    intro hid _ hspace principal hprincipal hnamespace hsession hreads state hstate hmember state'
      hstate'
    obtain rfl : state = state' := by simpa [hstate] using hstate'
    obtain rfl := connectionAt_of_some hstate
    have hroom : ¬ (spaceKey ∉ (core.connectionAt connection).subscriptions →
        (core.connectionAt connection).subscriptions.size ≠
            core.config.maxSubscriptionsPerConnection ∧
          spaceKey.space ∈ (core.sessionAt spaceKey.session).spaces) := fun hroom =>
      hallowed ⟨hid, hspace, ⟨principal, hprincipal, hnamespace, hsession, hreads⟩, hmember, hroom⟩
    obtain ⟨hnot, hfull⟩ := Classical.not_imp.mp hroom
    refine ⟨hnot, fun _ hfree session hfound hinstalled => ?_⟩
    obtain rfl := sessionAt_of_some hfound
    exact absurd ⟨hfree, hinstalled⟩ hfull

/-- What `spawn_entity` asks for beyond a membership and a subscription. -/
structure SpawnAllowed (core : WovenCore) (connection : ConnectionId) (spaceKey : SpaceKey)
    (epoch : SpaceEpoch) : Prop where
  writes : ∃ principal, core.authenticatedPrincipal connection = .ok principal ∧
    principal.grants.canWriteNamespace spaceKey.session.namespaceId = true ∧
      principal.grants.canWriteSession spaceKey.session = true ∧
        principal.grants.canWriteSpace spaceKey = true
  nonzero : epoch.get ≠ 0
  installed : (core.sessionAt spaceKey.session).Installed spaceKey.space epoch
  roomOwned :
    (core.connectionAt connection).ownedEntities ≠ core.config.maxOwnedEntitiesPerConnection
  room : (core.sessionAt spaceKey.session).entities.size ≠ core.config.maxEntitiesPerSession
  fresh : core.nextEntityId + 1 < 2 ^ 64

instance {epoch : SpaceEpoch} :
    Decidable (SpawnAllowed core connection spaceKey epoch) :=
  decidable_of_iff
    ((core.authenticatedPrincipal connection).toOption.any (fun principal =>
        principal.grants.canWriteNamespace spaceKey.session.namespaceId &&
          principal.grants.canWriteSession spaceKey.session &&
            principal.grants.canWriteSpace spaceKey) = true ∧
      epoch.get ≠ 0 ∧
      ((core.sessionAt spaceKey.session).spaces[spaceKey.space]?.any fun descriptor =>
        descriptor.epoch == epoch) = true ∧
      (core.connectionAt connection).ownedEntities ≠ core.config.maxOwnedEntitiesPerConnection ∧
      (core.sessionAt spaceKey.session).entities.size ≠ core.config.maxEntitiesPerSession ∧
      core.nextEntityId + 1 < 2 ^ 64)
    (by
      constructor
      · rintro ⟨hwrites, hepoch, hinstalled, hroomOwned, hroom, hfresh⟩
        obtain ⟨principal, hprincipal, hgrants⟩ := (Option.any_eq_true _ _).mp hwrites
        obtain ⟨descriptor, hdescriptor, hcurrent⟩ := (Option.any_eq_true _ _).mp hinstalled
        simp only [Bool.and_eq_true] at hgrants
        refine ⟨⟨principal, ?_, hgrants.1.1, hgrants.1.2, hgrants.2⟩, hepoch,
          ⟨descriptor, hdescriptor, eq_of_beq hcurrent⟩, hroomOwned, hroom, hfresh⟩
        cases hshown : core.authenticatedPrincipal connection with
        | ok shown =>
          rw [hshown] at hprincipal
          exact congrArg _ (Option.some.inj hprincipal)
        | error e =>
          rw [hshown] at hprincipal
          cases hprincipal
      · rintro ⟨⟨principal, hprincipal, hnamespace, hsession, hspace⟩, hepoch,
          ⟨descriptor, hdescriptor, hcurrent⟩, hroomOwned, hroom, hfresh⟩
        refine ⟨?_, hepoch, ?_, hroomOwned, hroom, hfresh⟩
        · rw [hprincipal]
          simp [Except.toOption, hnamespace, hsession, hspace]
        · rw [hdescriptor]
          simp [hcurrent])

theorem spawnEntity_ends {epoch : SpaceEpoch} (h : core.Consistent) (hid : connection.get ≠ 0)
    (hspace : validateSpaceKey spaceKey = .ok ())
    (hsubscribed : spaceKey ∈ (core.connectionAt connection).subscriptions) :
    Ends (spawnEntity connection spaceKey epoch) core
      (fun entity core' => SpawnAllowed core connection spaceKey epoch ∧
        entity = ⟨core.nextEntityId⟩ ∧
          ∃ principal, core' = core.spawn connection spaceKey epoch principal)
      fun _ core' => ¬ SpawnAllowed core connection spaceKey epoch ∧ core' = core := by
  have hmember := h.subscriptionMember _ _ hsubscribed
  have hlive := mem_connections_of_membership hmember
  have hkey := h.mem_sessions hmember
  have hvalid : validateConnectionId connection = .ok () := validateConnectionId_eq_ok.mpr hid
  have hjoined : core.requireMembership connection spaceKey.session = .ok () :=
    requireMembership_eq_ok.mpr ⟨_, connections_getElem? hlive, hmember⟩
  have hrequired : core.requireSubscription connection spaceKey = .ok () :=
    requireSubscription_eq_ok.mpr ⟨_, connections_getElem? hlive, hsubscribed⟩
  by_cases hallowed : SpawnAllowed core connection spaceKey epoch
  · have hallowed' := hallowed
    obtain ⟨⟨principal, hprincipal, hnamespace, hsession, hwrites⟩, hepoch,
      ⟨descriptor, hdescriptor,
      hcurrent⟩, hroomOwned, hroom, hfresh⟩ := hallowed'
    have hnext : checkedSucc core.nextEntityId = some (core.nextEntityId + 1) := if_pos hfresh
    have hinstalled := OrderedMap.mem_of_getElem? hdescriptor
    simp [spawnEntity, hvalid, hspace, hprincipal, requireNamespaceWrite, requireSessionWrite,
      requireSpaceWrite, requireGrant, hnamespace, hsession, hwrites, hjoined, hrequired,
      connections_getElem? hlive, sessions_getElem? hkey, hallowed, withConnection, withSession,
      requireNonzero, hepoch, hdescriptor, hcurrent, hroomOwned, hroom, hnext]
    exact ⟨⟨⟨⟨⟨⟨principal, rfl⟩, hlive⟩, hkey⟩, hinstalled⟩, hkey⟩, hlive⟩
  · simp [spawnEntity, hvalid, hspace, hjoined, hrequired, requireNamespaceWrite,
      requireSessionWrite, requireSpaceWrite, hallowed, withConnection, withSession]
    intro hepoch principal hprincipal hnamespace hsession hwrites state hstate hroomOwned session
      hfound descriptor hdescriptor hcurrent hroom next hnext
    obtain rfl := connectionAt_of_some hstate
    obtain rfl := sessionAt_of_some hfound
    have hfresh : core.nextEntityId + 1 < 2 ^ 64 := by
      simp [checkedSucc] at hnext
      omega
    exact absurd ⟨⟨principal, hprincipal, hnamespace, hsession, hwrites⟩, hepoch,
      ⟨descriptor, hdescriptor, hcurrent⟩, hroomOwned, hroom, hfresh⟩ hallowed

theorem entities_spawn {epoch : SpaceEpoch} {principal : AuthenticatedPrincipal}
    (hkey : spaceKey.session ∈ core.sessions) :
    ((core.spawn connection spaceKey epoch principal).sessionAt key).entities[id]? =
      if key = spaceKey.session ∧ id = ⟨core.nextEntityId⟩ then
        some (EntityRecord.mk ⟨core.nextEntityId⟩ connection principal.principalId spaceKey.space
          epoch none)
      else (core.sessionAt key).entities[id]? := by
  rw [sessionAt_spawn hkey]
  by_cases hk : key = spaceKey.session
  · rw [if_pos hk, OrderedMap.getElem?_insert]
    simp only [hk, true_and]
  · rw [if_neg hk, if_neg fun h => hk h.1]

/-- What a transition answers. -/
theorem transitionEntity_answers {request : EntityTransitionRequest} :
    Ends (transitionEntity request) core
      (fun transition _ => transition =
        EntityTransition.mk request.entity request.session request.sourceSpace request.sourceEpoch
          request.destinationSpace request.destinationEpoch) fun _ _ => True := by
  simp [transitionEntity, withSession, withEntity, - Option.bind_eq_none_iff]
end Operations

/-! ## Slow consumers -/

section Slow

variable {core core' start : WovenCore} {request : PublishRequest} {now : Instant} {call : Nat}
  {clock : ReleaseClock} {plan : PublishPlan} {c : ConnectionId}

/-- The critical messages of an accepted publication are more than the queue of the connection has
room for. -/
def Overwhelmed (core : WovenCore) (request : PublishRequest) (now : Instant) (call : Nat)
    (c : ConnectionId) : Prop :=
  ∃ plan limited, planAt request now call core = .ok plan limited ∧
    (core.connectionAt c).outbound.config.criticalCapacity <
      (core.connectionAt c).outbound.critical.length +
        ((plan.outbound request.session).filter (core.owes request.session c)).length

/-- No queue holds more critical messages than it may. -/
theorem QueueChange.critical_le {op : Op} {queue queue' : OutboundQueue}
    (h : QueueChange op queue queue') (hw : queue.WellFormed)
    (hle : queue.critical.length ≤ queue.config.criticalCapacity) :
    queue'.critical.length ≤ queue'.config.criticalCapacity := by
  cases h with
  | same => exact hle
  | purge p asked => exact Nat.le_trans (List.length_filter_le _ _) hle
  | push message result queue' asked pushed =>
    have hpushes := OutboundQueue.pushes_of_push hw pushed
    have hexhausted := hpushes.exhausted
    rw [hpushes.critical, hpushes.config]
    split
    · rename_i hqueued
      rw [List.length_append, List.length_singleton]
      have hroom : queue.critical.length ≠ queue.config.criticalCapacity := fun hfull =>
        hqueued.2 (hexhausted.mpr ⟨hqueued.1, hfull⟩)
      omega
    · exact hle
  | drain asked =>
    have hempty := (OutboundQueue.drain_drains hw).empty
    unfold OutboundQueue.rounds at hempty
    omega
  | start config asked => exact Nat.zero_le _

theorem Reachable.critical_le (h : Reachable core) (c : ConnectionId) :
    (core.connectionAt c).outbound.critical.length ≤
      (core.connectionAt c).outbound.config.criticalCapacity := by
  refine h.induction (P := fun core => ∀ c, (core.connectionAt c).outbound.critical.length ≤
    (core.connectionAt c).outbound.config.criticalCapacity) ?_ ?_ c
  · intro core hempty c
    rw [hempty.connectionAt]
    exact Nat.zero_le _
  · intro op core core' hsound hchange hle c
    exact (hchange.outbound c).critical_le (hsound.wellFormed c) (hle c)

theorem Changes.critical_le {op : Op} (h : Changes op core core') (hsound : core.Sound)
    (hle : ∀ c, (core.connectionAt c).outbound.critical.length ≤
      (core.connectionAt c).outbound.config.criticalCapacity) (c : ConnectionId) :
    (core'.connectionAt c).outbound.critical.length ≤
      (core'.connectionAt c).outbound.config.criticalCapacity := by
  induction h generalizing c with
  | refl => exact hle c
  | tail hchanges hlast ih =>
    exact (hlast.outbound c).critical_le ((Changes.sound hchanges hsound).wellFormed c) (ih c)

/-- What falls is a matter of the spaces and the entities. -/
theorem doomedSpace_congr {session session' : SessionState} {initial : ExtTreeSet EntityId}
    {space : SpaceId} (hspaces : session'.spaces = session.spaces)
    (hentities : session'.entities = session.entities) (h : DoomedSpace session initial space) :
    DoomedSpace session' initial space := by
  induction h with
  | anchor found nested gone => exact .anchor (by rwa [hspaces]) nested gone
  | anchorSpace found nested located _ ih =>
    exact .anchorSpace (by rwa [hspaces]) nested (by rwa [hentities]) ih
  | parentSpace found nested _ ih => exact .parentSpace (by rwa [hspaces]) nested ih

section Congruence

variable {connection : ConnectionId} {spaceKey : SpaceKey} {key : SessionKey} {id : EntityId}
  (h : core.Consistent) (h' : core'.Consistent)
  (hentities : ∀ key, (core'.sessionAt key).entities = (core.sessionAt key).entities)
include h h' hentities

theorem ownedIn_congr : core'.ownedIn connection key = core.ownedIn connection key := by
  apply ExtTreeSet.ext_mem
  intro id
  rw [mem_ownedIn h, mem_ownedIn h', hentities]

variable (hspaces : ∀ key, (core'.sessionAt key).spaces = (core.sessionAt key).spaces)
include hspaces

theorem spaceFalls_congr : core'.SpaceFalls connection spaceKey ↔
    core.SpaceFalls connection spaceKey := by
  rw [SpaceFalls, ownedIn_congr h h' hentities]
  exact ⟨doomedSpace_congr (hspaces _).symm (hentities _).symm,
    doomedSpace_congr (hspaces _) (hentities _)⟩

theorem entityFalls_congr : core'.EntityFalls connection key id ↔
    core.EntityFalls connection key id := by
  rw [EntityFalls, ownedIn_congr h h' hentities]
  refine or_congr_right (exists_congr fun record => ?_)
  rw [hentities]
  exact and_congr_right fun _ => ⟨doomedSpace_congr (hspaces _).symm (hentities _).symm,
    doomedSpace_congr (hspaces _) (hentities _)⟩

end Congruence

/-- An accepted publication loses the connections that it overwhelms. -/
theorem publishAt_losesAll (h : Reachable core) {outcome : PublishOutcome}
    (hreturns : Returns (publishAt request now call clock) core outcome core') :
    ∃ lost, (∀ c, c ∈ lost ↔ Overwhelmed core request now call c) ∧ LosesAll core core' lost := by
  have hsound := h.sound
  rw [publishAt_eq, returns_bind] at hreturns
  obtain ⟨plan, limited, hplanAt, hcommit⟩ := hreturns
  obtain ⟨limiter, rfl, hplan⟩ := planAt_returns hplanAt
  have hlimit : Change (.publishAt request now call clock) core
      (core.limited request.connection limiter) := .limit request now call clock limiter
  have hcommitted := (Change.commit request now call clock plan hplan).sound (hlimit.sound hsound)
  refine Ends.returns (commitPublish_ends now (Q := fun _ core' => ∃ lost,
    (∀ c, c ∈ lost ↔ Overwhelmed core request now call c) ∧ LosesAll core core' lost)
    (hlimit.sound hsound) hplan ?_) hcommit
  intro fan fanned outcome hfanned hfound _
  have hfannedSound := hfanned.changes.sound hcommitted
  have hqueue : ∀ c, (((core.limited request.connection limiter).commitPlan request.session
      plan).connectionAt c).outbound = (core.connectionAt c).outbound := fun _ => outbound_limited
  have hconnection : ∀ c,
      (fanned.connectionAt c).subscriptions = (core.connectionAt c).subscriptions := by
    intro c
    rw [hfanned.connections]
    show ((core.limited request.connection limiter).connectionAt c).subscriptions = _
    rw [limited, connectionAt_modifyConnection]
    split <;> rfl
  have hlive : ∀ c, c ∈ fanned.connections ↔ c ∈ core.connections := fun c =>
    (hfanned.live c).trans mem_connections_modifyConnection
  have htables : ∀ key, (fanned.sessionAt key).spaces = (core.sessionAt key).spaces ∧
      (fanned.sessionAt key).entities = (core.sessionAt key).entities := by
    intro key
    rw [hfanned.sessionAt, commitPlan, sessionAt_modifySession]
    split
    · rw [SessionState.commit_eq]
      exact ⟨rfl, rfl⟩
    · exact ⟨rfl, rfl⟩
  refine ⟨fan.disconnected.toList, ?_, ?_⟩
  · intro c
    rw [ExtTreeSet.mem_toList]
    constructor
    · intro hslow
      have hless := hfound c hslow
      dsimp only at hless
      rw [hqueue, owes_commitPlan] at hless
      exact ⟨plan, _, hplanAt, hless⟩
    · rintro ⟨plan', limited', hplanAt', hless⟩
      by_contra hquick
      obtain rfl : plan = plan' := by
        have hsame := hplanAt.symm.trans hplanAt'
        injection hsame
      have hle := hfanned.changes.critical_le hcommitted
        (fun c => by rw [hqueue]; exact h.critical_le c) c
      rw [hfanned.critical c hquick, (config_of_took (hfanned.queues c)
        (hcommitted.wellFormed c)).2, hqueue, owes_commitPlan, List.length_append] at hle
      omega
  · have hall := losesAll_loseAll hfannedSound clock fan.disconnected.toList
    refine ⟨?_, ?_, ?_⟩
    · intro c
      rw [hall.live, hlive]
    · intro c spaceKey
      rw [hall.subscriptions, hconnection]
      simp only [spaceFalls_congr hsound.consistent hfannedSound.consistent
        (fun key => (htables key).2) fun key => (htables key).1]
    · intro key id record
      rw [hall.entities, (htables key).2]
      simp only [entityFalls_congr hsound.consistent hfannedSound.consistent
        (fun key => (htables key).2) fun key => (htables key).1]

/-- A publication that makes a plan is not refused: one that is refused overwhelms nobody. -/
theorem not_overwhelmed_of_fails (h : core.Sound) {e : CoreError}
    (hfails : Fails (publishAt request now call clock) core e core') :
    ¬ Overwhelmed core request now call c := by
  rintro ⟨plan, limited, hplanAt, -⟩
  have hplanned : Returns (planAt request now call) core plan limited := hplanAt
  rw [publishAt_eq, fails_bind] at hfails
  rcases hfails with hfails | ⟨plan', limited', hplanAt', hfails⟩
  · exact hplanned.not_fails hfails
  · obtain ⟨limiter, rfl, hplan⟩ := planAt_returns hplanAt'
    have hlimit : Change (.publishAt request now call clock) core
        (core.limited request.connection limiter) := .limit request now call clock limiter
    exact (commitPublish_ends now (Q := fun _ _ => True) (hlimit.sound h) hplan
      fun _ _ _ _ _ _ => trivial).fails hfails

/-- A refused publication takes nothing away. -/
theorem publishAt_keeps (h : core.Sound) {e : CoreError}
    (hfails : Fails (publishAt request now call clock) core e core') : core.Keeps core' := by
  rcases publishAt_refused h hfails with rfl | ⟨limiter, rfl⟩
  · exact Keeps.refl _
  · exact keeps_modifyConnection fun _ _ hin => hin

theorem WovenCore.LosesAll.withdraws {lost : List ConnectionId} {slow : ConnectionId → Prop}
    (h : LosesAll core core' lost) (hlost : ∀ c, c ∈ lost ↔ slow c) :
    Withdraws core core' slow fun c spaceKey =>
      slow c ∨ ∃ connection, slow connection ∧ core.SpaceFalls connection spaceKey := by
  refine ⟨?_, ?_⟩
  · intro c
    rw [h.live, hlost]
  · intro c spaceKey
    rw [h.subscriptions]
    simp only [hlost]
    refine and_congr_right fun _ => ?_
    push Not
    rfl

end Slow

end Signalweave
