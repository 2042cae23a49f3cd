import Signalweave.Core.Permits

/-!
# What each change does to the leases

Most changes leave the controllers and the tables of leases alone. A request may issue a lease, a
join binds it, and a departure or a loss gives it back.
-/

open Std

namespace Signalweave

open Stateful WovenCore AdmissionController

/-- The operation configures the admission of a session. -/
def Op.configures : Op → SessionKey → Prop
  | .configureSessionAdmission k _ _ _, key => k = key
  | _, _ => False

/-- The controllers, the leases and the connections that hold them are as they were. -/
structure SameHolders (core core' : WovenCore) : Prop where
  admissions : core'.admissions = core.admissions
  pending : core'.pendingAdmissions = core.pendingAdmissions
  bound : core'.admissionLeases = core.admissionLeases
  authenticated : ∀ c, (core'.connectionAt c).authenticated = (core.connectionAt c).authenticated
  memberships : ∀ c, (core'.connectionAt c).memberships = (core.connectionAt c).memberships

/-- What a change of a core with leases in their places does to them. -/
structure PermitStep (op : Op) (core core' : WovenCore) : Prop where
  effect : PermitEffect op core core'
  configured : ∀ key ∈ core'.admissions, key ∈ core.admissions ∨ op.configures key
  bound : ∀ c key, (c, key) ∈ core'.admissionLeases →
    (c, key) ∈ core.admissionLeases ∨ op.binds c key
  seats : ∀ c key, (c, key) ∈ core'.admissionLeases →
    key ∈ (core.connectionAt c).memberships → key ∈ (core'.connectionAt c).memberships
  covers : ∀ c key, key ∈ (core'.connectionAt c).memberships →
    (key ∈ (core.connectionAt c).memberships ∧
      ((c, key) ∈ core.admissionLeases → (c, key) ∈ core'.admissionLeases)) ∨
    op.joins c key ∧ (key ∈ core.admissions → (c, key) ∈ core'.admissionLeases)

variable {op : Op} {core core' core'' : WovenCore} {connection c : ConnectionId}
  {key k : SessionKey} {slot : LeaseSlot} {lease : AdmissionLease}

/-! ## Changes that leave leases alone -/

namespace SameHolders

theorem trans (h : SameHolders core core') (h' : SameHolders core' core'') :
    SameHolders core core'' :=
  ⟨h'.admissions.trans h.admissions, h'.pending.trans h.pending, h'.bound.trans h.bound,
    fun c => (h'.authenticated c).trans (h.authenticated c),
    fun c => (h'.memberships c).trans (h.memberships c)⟩

theorem of_connections (hconnections : core'.connections = core.connections)
    (hadmissions : core'.admissions = core.admissions)
    (hpending : core'.pendingAdmissions = core.pendingAdmissions)
    (hbound : core'.admissionLeases = core.admissionLeases) : SameHolders core core' := by
  refine ⟨hadmissions, hpending, hbound, ?_, ?_⟩
  · intro c
    rw [connectionAt, hconnections, connectionAt]
  · intro c
    rw [connectionAt, hconnections, connectionAt]

theorem modifySession {f : SessionState → SessionState} :
    SameHolders core (core.modifySession key f) := of_connections rfl rfl rfl rfl

theorem modifyConnection {g : ConnectionState → ConnectionState}
    (hauthenticated : ∀ state, (g state).authenticated = state.authenticated)
    (hmemberships : ∀ state, (g state).memberships = state.memberships) :
    SameHolders core (core.modifyConnection connection g) := by
  refine ⟨rfl, rfl, rfl, ?_, ?_⟩
  · intro c
    rw [connectionAt_modifyConnection]
    split
    · exact hauthenticated _
    · rfl
  · intro c
    rw [connectionAt_modifyConnection]
    split
    · exact hmemberships _
    · rfl

theorem mapConnections {g : ConnectionId → ConnectionState → ConnectionState}
    (hauthenticated : ∀ c state, (g c state).authenticated = state.authenticated)
    (hmemberships : ∀ c state, (g c state).memberships = state.memberships) :
    SameHolders core (core.mapConnections g) := by
  refine ⟨rfl, rfl, rfl, fun c => authenticated_mapConnections hauthenticated, ?_⟩
  intro c
  rw [connectionAt_mapConnections]
  split
  · exact hmemberships _ _
  · rfl

theorem dropRemoved {removal : Removal} : SameHolders core (core.dropRemoved key removal) :=
  modifySession.trans (mapConnections (fun _ _ => rfl) fun _ _ => rfl)

theorem permitStep (h : SameHolders core core') : PermitStep op core core' := by
  refine ⟨.keep ?_ ?_ ?_, ?_, ?_, ?_, ?_⟩
  · intro k
    rw [h.admissions]
  · intro slot
    rw [leaseAt, h.pending, h.bound, leaseAt]
  · exact fun slot _ => h.authenticated slot.connection
  · intro k hk
    rw [h.admissions] at hk
    exact Or.inl hk
  · intro c k hk
    rw [h.bound] at hk
    exact Or.inl hk
  · intro c k _ hk
    rwa [h.memberships]
  · intro c k hk
    rw [h.memberships] at hk
    rw [h.bound]
    exact Or.inl ⟨hk, id⟩

end SameHolders

/-! ## Leases that are issued, bound and given back -/

theorem mem_admissionLeases_iff :
    (c, key) ∈ core.admissionLeases ↔ core.leaseAt ⟨.bound, c, key⟩ ≠ none := by
  rw [ExtTreeMap.mem_iff_isSome_getElem?, leaseAt, Option.isSome_iff_ne_none]

/-- The answer to an admitted request is the pending lease of its connection. -/
theorem leaseAt_requestAdmission {after : AdmissionController} :
    (core.requestAdmission connection key (.admitted lease, after)).leaseAt slot =
      if slot = ⟨.pending, connection, key⟩ then some lease else core.leaseAt slot := by
  obtain ⟨place, c, k⟩ := slot
  cases place with
  | pending =>
    show (core.pendingAdmissions.insert (connection, key) lease)[(c, k)]? = _
    rw [OrderedMap.getElem?_insert]
    simp [leaseAt]
  | bound => rfl

theorem requestAdmission_permitStep {idempotencyKey : IdempotencyKey} {now : Instant}
    {principal : AuthenticatedPrincipal} {controller : AdmissionController} (h : core.Permits)
    (hauthenticated : (core.connectionAt connection).authenticated = some principal)
    (hfound : core.admissions[key]? = some controller) :
    PermitStep (.requestSessionAdmissionAt connection key idempotencyKey now) core
      (core.requestAdmission connection key (controller.requestJoinAt
        { principal := principal.principalId, idempotencyKey := some idempotencyKey } now)) := by
  obtain ⟨hsession, horderly⟩ := h.controller key controller hfound
  have hmetadata : (controller.requestJoinAt
      { principal := principal.principalId, idempotencyKey := some idempotencyKey }
      now).2.metadata = controller.metadata := apply_metadata controller (.requestJoin _ now)
  have hanswers := @requestJoinAt_leaseAnswer controller now principal.principalId idempotencyKey
  have hserves := (@requestJoinAt_serves controller now
    { principal := principal.principalId, idempotencyKey := some idempotencyKey } horderly).orderly
  generalize controller.requestJoinAt
    { principal := principal.principalId, idempotencyKey := some idempotencyKey } now = answer
    at hmetadata hanswers hserves ⊢
  have haddressed : answer.2.metadata.session = key := by rw [hmetadata, hsession]
  refine ⟨?_, ?_, fun _ _ hin => Or.inl hin, fun _ _ _ hin => hin, fun _ _ hin => Or.inl ⟨hin, id⟩⟩
  · cases hanswers with
    | admitted lease record after id session own holder active =>
      refine .issue connection key ⟨rfl, rfl⟩ lease record controller after principal
        hauthenticated hfound ?_ (session.trans hsession) own holder haddressed hserves active
        (fun _ => OrderedMap.getElem?_insert) (fun _ => leaseAt_requestAdmission) fun _ => rfl
      intro hin
      exact Nat.lt_irrefl _ (id ▸ horderly.leased.active _ hin)
    | refused decision after refusal active =>
      refine .tune key after haddressed hserves ?_ (fun _ => OrderedMap.getElem?_insert) ?_
        fun _ => rfl
      · intro id
        rw [active, hfound]
        rfl
      · intro slot
        have hpending : (core.requestAdmission connection key (decision, after)).pendingAdmissions =
            core.pendingAdmissions := by
          unfold WovenCore.requestAdmission
          cases decision with
          | admitted lease => exact absurd rfl (refusal lease)
          | _ => rfl
        rw [leaseAt, hpending]
        rfl
  · intro k hk
    rcases OrderedMap.mem_insert.mp hk with rfl | hin
    · exact Or.inl (OrderedMap.mem_of_getElem? hfound)
    · exact Or.inl hin

theorem bindLease_permitStep
    (hpending : core.pendingAdmissions[(connection, key)]? = some lease) :
    PermitStep (.joinSessionWithAdmission connection key lease) core
      (core.bindLease connection key lease) := by
  have hinsert : ∀ c k, (c, k) ∈ (core.bindLease connection key lease).admissionLeases ↔
      (c, k) = (connection, key) ∨ (c, k) ∈ core.admissionLeases :=
    fun _ _ => OrderedMap.mem_insert
  refine ⟨.bind connection key lease hpending (fun _ => rfl) ?_ fun _ => rfl,
    fun _ hin => Or.inl hin, ?_, fun _ _ _ hin => hin, ?_⟩
  · rintro ⟨place, c, k⟩
    cases place with
    | pending =>
      show (core.pendingAdmissions.erase (connection, key))[(c, k)]? = _
      rw [OrderedMap.getElem?_erase]
      simp [leaseAt]
    | bound =>
      show (core.admissionLeases.insert (connection, key) lease)[(c, k)]? = _
      rw [OrderedMap.getElem?_insert]
      simp [leaseAt]
  · intro c k hin
    rcases (hinsert c k).mp hin with heq | hin
    · obtain ⟨rfl, rfl⟩ := Prod.mk.inj heq
      exact Or.inr ⟨rfl, rfl⟩
    · exact Or.inl hin
  · exact fun c k hin => Or.inl ⟨hin, fun hbound => (hinsert c k).mpr (Or.inr hbound)⟩

/-- A lease that is given back goes from its table and from its controller. -/
theorem PermitEffect.of_release {reason : ReleaseReason} {now : Instant} (h : core.Permits)
    (hheld : core.leaseAt slot = some lease)
    (hadmissions : core'.admissions = core.admissions.modify slot.key fun controller =>
      controller.releaseAt lease reason now)
    (hleases : ∀ other, core'.leaseAt other = if other = slot then none else core.leaseAt other)
    (hknown : ∀ c, (core'.connectionAt c).authenticated = (core.connectionAt c).authenticated) :
    PermitEffect op core core' := by
  obtain ⟨-, ⟨controller, hfound, hactive⟩, -⟩ := h.recorded slot lease hheld
  obtain ⟨hsession, horderly⟩ := h.controller slot.key controller hfound
  have hmetadata : (controller.releaseAt lease reason now).metadata = controller.metadata :=
    apply_metadata controller (.release lease reason now)
  refine .release slot lease hheld controller (controller.releaseAt lease reason now) hfound ?_
    (releaseAt_serves lease reason horderly).orderly (active_releaseAt hactive reason) ?_ hleases
    hknown
  · rw [hmetadata, hsession]
  · intro k
    rw [hadmissions, OrderedMap.getElem?_modify]
    split
    · rename_i hk
      rw [hk, hfound]
      rfl
    · rfl

theorem releasePending_permitStep {now : Instant} (h : core.Permits) :
    PermitStep op core (core.releasePendingAdmission connection key now) := by
  have hframe := releasePendingAdmission_eq core connection key now
  cases hheld : core.pendingAdmissions[(connection, key)]? with
  | none =>
    have hsame : core.releasePendingAdmission connection key now = core := by
      rw [releasePendingAdmission, hheld]
    rw [hsame]
    exact (SameHolders.of_connections rfl rfl rfl rfl).permitStep
  | some lease =>
    have hreleased : core.releasePendingAdmission connection key now =
        { core with
          pendingAdmissions := core.pendingAdmissions.erase (connection, key) }.releaseLease
          key lease .intentional now := by
      rw [releasePendingAdmission, hheld]
    rw [hreleased]
    have hslot : core.leaseAt ⟨.pending, connection, key⟩ = some lease := hheld
    refine ⟨.of_release h hslot rfl ?_ fun _ => rfl, ?_, fun _ _ hin => Or.inl hin,
      fun _ _ _ hin => hin, fun _ _ hin => Or.inl ⟨hin, id⟩⟩
    · rintro ⟨place, c, k⟩
      cases place with
      | pending =>
        show (core.pendingAdmissions.erase (connection, key))[(c, k)]? = _
        rw [OrderedMap.getElem?_erase]
        simp [leaseAt]
      | bound => rfl
    · exact fun k hk => Or.inl (ExtTreeMap.mem_modify.mp hk)

theorem authenticated_leave {reason : ReleaseReason} {now : Instant} :
    ((core.leave connection key reason now).connectionAt c).authenticated =
      (core.connectionAt c).authenticated := by
  obtain ⟨removal, hleave⟩ := leave_eq core connection key reason now
  have hdropped : (((core.releaseSessionAdmission connection key reason now).dropRemoved key
      removal).connectionAt c).authenticated = (core.connectionAt c).authenticated := by
    rw [SameHolders.dropRemoved.authenticated, connectionAt, connections_releaseSessionAdmission,
      connectionAt]
  rw [hleave, dropMembership, connectionAt_modifyConnection, connectionAt_modifySession]
  split
  · exact hdropped
  · exact hdropped

theorem leave_permitStep {reason : ReleaseReason} {now : Instant} (h : core.Permits) :
    PermitStep op core (core.leave connection key reason now) := by
  have hadmissions : (core.leave connection key reason now).admissions =
      (core.releaseSessionAdmission connection key reason now).admissions := rfl
  have hbound : (core.leave connection key reason now).admissionLeases =
      (core.releaseSessionAdmission connection key reason now).admissionLeases := rfl
  have hpending : (core.leave connection key reason now).pendingAdmissions =
      core.pendingAdmissions := by
    show (core.releaseSessionAdmission connection key reason now).pendingAdmissions = _
    rw [releaseSessionAdmission_eq]
  have hgone : ∀ slot, (core.leave connection key reason now).leaseAt slot =
      if slot = ⟨.bound, connection, key⟩ then none else core.leaseAt slot := by
    rintro ⟨place, c, k⟩
    cases place with
    | pending =>
      rw [leaseAt, hpending]
      simp [leaseAt]
    | bound =>
      rw [leaseAt, hbound, releaseSessionAdmission]
      cases hheld : core.admissionLeases[(connection, key)]? with
      | none =>
        by_cases hslot : (c, k) = (connection, key)
        · obtain ⟨rfl, rfl⟩ := Prod.mk.inj hslot
          simp [hheld]
        · have hne : ¬ (c = connection ∧ k = key) := fun heq => hslot (Prod.ext heq.1 heq.2)
          simp [leaseAt, hne]
      | some lease =>
        show (core.admissionLeases.erase (connection, key))[(c, k)]? = _
        rw [OrderedMap.getElem?_erase]
        simp [leaseAt]
  have hstays : ∀ c k, (c, k) ∈ (core.leave connection key reason now).admissionLeases ↔
      (c = connection → k ≠ key) ∧ (c, k) ∈ core.admissionLeases := by
    intro c k
    rw [mem_admissionLeases_iff, hgone, mem_admissionLeases_iff]
    simp
  refine ⟨?_, ?_, ?_, ?_, ?_⟩
  · cases hheld : core.admissionLeases[(connection, key)]? with
    | none =>
      refine .keep ?_ ?_ fun _ _ => authenticated_leave
      · intro k
        rw [hadmissions, releaseSessionAdmission, hheld]
      · intro slot
        rw [hgone]
        split
        · rename_i hslot
          rw [hslot, leaseAt, hheld]
        · rfl
    | some lease =>
      have hslot : core.leaseAt ⟨.bound, connection, key⟩ = some lease := hheld
      have hreleased : (core.leave connection key reason now).admissions =
          core.admissions.modify key fun controller => controller.releaseAt lease reason now := by
        rw [hadmissions, releaseSessionAdmission, hheld]
        rfl
      exact .of_release h hslot hreleased hgone fun _ => authenticated_leave
  · intro k hk
    rw [hadmissions, releaseSessionAdmission] at hk
    split at hk
    · exact Or.inl hk
    · exact Or.inl (ExtTreeMap.mem_modify.mp hk)
  · exact fun c k hin => Or.inl ((hstays c k).mp hin).2
  · exact fun c k hin hmember => memberships_leave.mpr ⟨hmember, ((hstays c k).mp hin).1⟩
  · intro c k hmember
    obtain ⟨hbefore, hother⟩ := memberships_leave.mp hmember
    exact Or.inl ⟨hbefore, fun hin => (hstays c k).mpr ⟨hother, hin⟩⟩

theorem join_permitStep (hasked : op.joins connection key)
    (hbound : key ∈ core.admissions → (connection, key) ∈ core.admissionLeases) :
    PermitStep op core (core.join connection key) := by
  have hauthenticated : ∀ c, ((core.join connection key).connectionAt c).authenticated =
      (core.connectionAt c).authenticated := by
    intro c
    rw [WovenCore.join, connectionAt_modifySession, connectionAt_modifyConnection]
    split
    · rfl
    · rfl
  have hmemberships : ∀ c k, k ∈ ((core.join connection key).connectionAt c).memberships →
      (c = connection ∧ k = key) ∨ k ∈ (core.connectionAt c).memberships := by
    intro c k hk
    rw [WovenCore.join, connectionAt_modifySession, connectionAt_modifyConnection] at hk
    split at hk
    · rename_i hc
      rcases OrderedSet.mem_insert.mp hk with rfl | hin
      · exact Or.inl ⟨hc.1, rfl⟩
      · exact Or.inr hin
    · exact Or.inr hk
  refine ⟨.keep (fun _ => rfl) (fun _ => rfl) fun slot _ => hauthenticated slot.connection,
    fun _ hin => Or.inl hin, fun _ _ hin => Or.inl hin, ?_, ?_⟩
  · intro c k _ hk
    rw [WovenCore.join, connectionAt_modifySession, connectionAt_modifyConnection]
    split
    · exact OrderedSet.mem_insert.mpr (Or.inr hk)
    · exact hk
  · intro c k hk
    rcases hmemberships c k hk with ⟨rfl, rfl⟩ | hin
    · exact Or.inr ⟨hasked, hbound⟩
    · exact Or.inl ⟨hin, id⟩

/-! ## Controllers that are configured or given another capacity -/

theorem configureAdmission_permitStep {metadata : AdmissionMetadata} {policy : QueuePolicy}
    {capacity : CapacityUpdate} (hown : metadata.session = key) (hfresh : key ∉ core.admissions) :
    PermitStep (.configureSessionAdmission key metadata policy capacity) core
      { core with
        admissions :=
          core.admissions.insert key (.new metadata policy capacity { metadata }) } := by
  refine ⟨.tune key (.new metadata policy capacity { metadata }) hown (new_orderly _ _ _ _) ?_
    (fun _ => OrderedMap.getElem?_insert) (fun _ => rfl) fun _ => rfl, ?_,
    fun _ _ hin => Or.inl hin, fun _ _ _ hin => hin, fun _ _ hin => Or.inl ⟨hin, id⟩⟩
  · intro id
    rw [ExtTreeMap.getElem?_eq_none hfresh]
    rfl
  · intro k hk
    rcases OrderedMap.mem_insert.mp hk with rfl | hin
    · exact Or.inr rfl
    · exact Or.inl hin

theorem applyCapacity_permitStep {update : CapacityUpdate} {now : Instant}
    {controller : AdmissionController} (h : core.Permits)
    (hfound : core.admissions[key]? = some controller) :
    PermitStep (.applySessionCapacityAt key update now) core
      { core with
        admissions := core.admissions.insert key (controller.applyCapacityAt update now).2 } := by
  obtain ⟨hsession, horderly⟩ := h.controller key controller hfound
  have hmetadata : (controller.applyCapacityAt update now).2.metadata = controller.metadata :=
    apply_metadata controller (.applyCapacity update now)
  have heffect : LeaseEffect controller none none (controller.applyCapacityAt update now).2 :=
    apply_leaseEffect controller (.applyCapacity update now)
  have hactive : (controller.applyCapacityAt update now).2.active = controller.active := by
    cases heffect with
    | idle after active nextLease shrinks => exact active
  refine ⟨.tune key _ ?_ (applyCapacityAt_serves update horderly).orderly ?_
    (fun _ => OrderedMap.getElem?_insert) (fun _ => rfl) fun _ => rfl, ?_,
    fun _ _ hin => Or.inl hin, fun _ _ _ hin => hin, fun _ _ hin => Or.inl ⟨hin, id⟩⟩
  · rw [hmetadata, hsession]
  · intro id
    rw [hactive, hfound]
    rfl
  · intro k hk
    rcases OrderedMap.mem_insert.mp hk with rfl | hin
    · exact Or.inl (OrderedMap.mem_of_getElem? hfound)
    · exact Or.inl hin

/-! ## Connections -/

theorem not_binds_of_loses (h : op.loses connection) : ¬ op.binds c key := by
  cases op <;> first | exact id | exact h.elim

theorem authenticate_permitStep {credentials : Credentials} {state : ConnectionState}
    {principal : AuthenticatedPrincipal} (h : core.Permits)
    (hfound : core.connections[connection]? = some state) (hfresh : state.authenticated = none) :
    PermitStep (.authenticate connection credentials) core
      (core.modifyConnection connection fun state =>
        { state with authenticated := some principal }) := by
  have hmemberships : ∀ c, ((core.modifyConnection connection fun state =>
      { state with authenticated := some principal }).connectionAt c).memberships =
        (core.connectionAt c).memberships := by
    intro c
    rw [connectionAt_modifyConnection]
    split
    · rfl
    · rfl
  refine ⟨.keep (fun _ => rfl) (fun _ => rfl) ?_, fun _ hin => Or.inl hin,
    fun _ _ hin => Or.inl hin, ?_, ?_⟩
  · intro slot hslot
    obtain ⟨lease, hheld⟩ := Option.ne_none_iff_exists'.mp hslot
    obtain ⟨-, -, holder, hholder, -⟩ := h.recorded slot lease hheld
    rw [connectionAt_modifyConnection, if_neg]
    rintro ⟨hc, -⟩
    rw [hc, connectionAt_of_some hfound, hfresh] at hholder
    cases hholder
  · intro c k _ hk
    rwa [hmemberships]
  · intro c k hk
    rw [hmemberships] at hk
    exact Or.inl ⟨hk, id⟩

theorem connect_permitStep {outbound : OutboundQueue} (h : core.Consistent) :
    PermitStep op core
      { core with
        nextConnectionId := core.nextConnectionId + 1
        connections := core.connections.insert ⟨core.nextConnectionId⟩ { outbound } } := by
  have hfresh : (⟨core.nextConnectionId⟩ : ConnectionId) ∉ core.connections :=
    fun hin => Nat.lt_irrefl _ (h.connectionIds _ hin).2
  have hat : ∀ {α : Type} (read : ConnectionState → α) (c : ConnectionId),
      read { outbound } = read { outbound := { config := {} } } →
      read ((core.connections.insert ⟨core.nextConnectionId⟩ { outbound })[c]?.getD
        { outbound := { config := {} } }) = read (core.connectionAt c) := by
    intro α read c hblank
    rw [OrderedMap.getElem?_insert]
    split
    · rename_i hc
      rw [hc, connectionAt_of_notMem hfresh]
      exact hblank
    · rfl
  apply SameHolders.permitStep
  exact ⟨rfl, rfl, rfl, fun c => hat ConnectionState.authenticated c rfl,
    fun c => hat ConnectionState.memberships c rfl⟩

theorem disconnect_permitStep (hasked : op.loses connection)
    (hleft : ∀ key, key ∉ (core.connectionAt connection).memberships)
    (hunbound : ∀ key, (connection, key) ∉ core.pendingAdmissions) (hseated : Seated op core) :
    PermitStep op core { core with connections := core.connections.erase connection } := by
  have hother : ∀ c, c ≠ connection → ((core.connections.erase connection)[c]?.getD
      { outbound := { config := {} } }) = core.connectionAt c := by
    intro c hc
    rw [OrderedMap.getElem?_erase, if_neg hc]
    rfl
  have hgone : ((core.connections.erase connection)[connection]?.getD
      { outbound := { config := {} } }) = { outbound := { config := {} } } := by
    rw [OrderedMap.getElem?_erase, if_pos rfl]
    rfl
  refine ⟨.keep (fun _ => rfl) (fun _ => rfl) ?_, fun _ hin => Or.inl hin,
    fun _ _ hin => Or.inl hin, ?_, ?_⟩
  · rintro ⟨place, c, k⟩ hslot
    refine congrArg ConnectionState.authenticated (hother c ?_)
    rintro rfl
    cases place with
    | pending =>
      obtain ⟨lease, hheld⟩ := Option.ne_none_iff_exists'.mp hslot
      exact hunbound k (OrderedMap.mem_of_getElem? hheld)
    | bound =>
      rcases hseated c k (mem_admissionLeases_iff.mpr hslot) with hmember | hbinds
      · exact hleft k hmember
      · exact not_binds_of_loses hasked hbinds
  · intro c k _ hmember
    have hne : c ≠ connection := by
      rintro rfl
      exact hleft k hmember
    show k ∈ ConnectionState.memberships _
    rw [WovenCore.connectionAt, hother c hne]
    exact hmember
  · intro c k hmember
    have hne : c ≠ connection := by
      rintro rfl
      change k ∈ ConnectionState.memberships _ at hmember
      rw [WovenCore.connectionAt, hgone] at hmember
      simp at hmember
    change k ∈ ConnectionState.memberships _ at hmember
    rw [WovenCore.connectionAt, hother c hne] at hmember
    exact Or.inl ⟨hmember, id⟩

/-- Every change leaves the leases in their places, or moves one of them. -/
theorem Change.permitStep (h : Change op core core') (hsound : core.Sound) (hpermits : core.Permits)
    (hseated : Seated op core) : PermitStep op core core' := by
  cases h with
  | configureAdmission key metadata policy capacity provisioned own fresh =>
    exact configureAdmission_permitStep own fresh
  | applyCapacity key update now controller found => exact applyCapacity_permitStep hpermits found
  | requestAdmission connection key idempotencyKey now principal controller authenticated found =>
    obtain ⟨state, hstate, hprincipal⟩ := authenticatedPrincipal_eq_ok.mp authenticated
    rw [← connectionAt_of_some hstate] at hprincipal
    exact requestAdmission_permitStep hpermits hprincipal found
  | bindLease connection key lease principal controller authenticated own unbound pending =>
    exact bindLease_permitStep pending
  | join connection key asked principal authenticated readsNamespace readsSession provisioned
      bound =>
    exact join_permitStep asked bound
  | leave connection key reason now asked member => exact leave_permitStep hpermits
  | releasePending connection key now asked => exact releasePending_permitStep hpermits
  | authenticate connection credentials state principal found fresh =>
    exact authenticate_permitStep hpermits found fresh
  | connect outbound queue room => exact connect_permitStep hsound.consistent
  | disconnect connection asked left unbound =>
    exact disconnect_permitStep asked left unbound hseated
  | removeEntities key initial asked => exact SameHolders.dropRemoved.permitStep
  | purgeSpace key space proposed gone =>
    apply SameHolders.permitStep
    exact .mapConnections (fun _ _ => rfl) fun _ _ => rfl
  | advanceEpoch key space proposed descriptor found later empty =>
    apply SameHolders.permitStep
    refine SameHolders.trans ?_ .modifySession
    exact .mapConnections (fun _ _ => rfl) fun _ _ => rfl
  | transition request checked moves =>
    apply SameHolders.permitStep
    exact .trans .modifySession (.mapConnections (fun _ _ => rfl) fun _ _ => rfl)
  | subscribe connection spaceKey member installed room =>
    apply SameHolders.permitStep
    refine SameHolders.trans ?_ .modifySession
    exact .modifyConnection (fun _ => rfl) fun _ => rfl
  | unsubscribe connection spaceKey subscribed =>
    apply SameHolders.permitStep
    exact .trans .modifySession (.modifyConnection (fun _ => rfl) fun _ => rfl)
  | spawn connection spaceKey epoch principal member provisioned installed roomOwned room =>
    apply SameHolders.permitStep
    refine SameHolders.trans ?_ (.modifyConnection ?_ ?_)
    · exact .of_connections rfl rfl rfl rfl
    · exact fun _ => rfl
    · exact fun _ => rfl
  | limit request now call clock limiter =>
    apply SameHolders.permitStep
    exact .modifyConnection (fun _ => rfl) fun _ => rfl
  | deliver request now call clock message recipient principal result queue subscribed
      authenticated allowed scope pushed =>
    apply SameHolders.permitStep
    exact .modifyConnection (fun _ => rfl) fun _ => rfl
  | drain connection =>
    apply SameHolders.permitStep
    exact .modifyConnection (fun _ => rfl) fun _ => rfl
  | _ =>
    apply SameHolders.permitStep
    exact .of_connections rfl rfl rfl rfl

end Signalweave
