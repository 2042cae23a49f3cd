import Signalweave.Core.Isolation
import Signalweave.AdmissionGrants

/-!
# Leases in the core

The core keeps the leases of its connections in two tables, of the pending and of the bound ones.
A lease in a table is an active one of the controller of its session, belongs to the principal of
its connection, and is in no other place.
-/

open Std

namespace Signalweave

open Stateful WovenCore AdmissionController

/-- Whether a lease waits to be joined with or belongs to a membership. -/
inductive LeasePlace where
  | pending
  | bound
  deriving DecidableEq

/-- A place for a lease of a connection. -/
structure LeaseSlot where
  place : LeasePlace
  connection : ConnectionId
  key : SessionKey
  deriving DecidableEq

namespace WovenCore

/-- The lease in a slot. -/
def leaseAt (core : WovenCore) (slot : LeaseSlot) : Option AdmissionLease :=
  match slot.place with
  | .pending => core.pendingAdmissions[(slot.connection, slot.key)]?
  | .bound => core.admissionLeases[(slot.connection, slot.key)]?

/-- The leases in the tables are active leases, each of its own connection. -/
structure Permits (core : WovenCore) : Prop where
  controller : ∀ (key : SessionKey) (controller : AdmissionController),
    core.admissions[key]? = some controller →
      controller.metadata.session = key ∧ controller.Orderly
  recorded : ∀ (slot : LeaseSlot) (lease : AdmissionLease), core.leaseAt slot = some lease →
    lease.session = slot.key ∧
    (∃ controller, core.admissions[slot.key]? = some controller ∧
      controller.hasActiveLease lease = true) ∧
    ∃ principal, (core.connectionAt slot.connection).authenticated = some principal ∧
      lease.principal = principal.principalId
  distinct : ∀ (slot other : LeaseSlot) (lease lease' : AdmissionLease),
    core.leaseAt slot = some lease → core.leaseAt other = some lease' →
      slot.key = other.key → lease.id = lease'.id → slot = other

end WovenCore

/-- The operation asks for the admission of a connection. -/
def Op.asks : Op → ConnectionId → SessionKey → Prop
  | .requestSessionAdmissionAt c k _ _, connection, key => c = connection ∧ k = key
  | _, _, _ => False

/-- The operation binds a lease to a connection. -/
def Op.binds : Op → ConnectionId → SessionKey → Prop
  | .joinSessionWithAdmission c k _, connection, key => c = connection ∧ k = key
  | _, _, _ => False

/-- A bound lease belongs to a member, or the connection is about to become one. -/
def Seated (op : Op) (core : WovenCore) : Prop :=
  ∀ connection key, (connection, key) ∈ core.admissionLeases →
    key ∈ (core.connectionAt connection).memberships ∨ op.binds connection key

/-- What a change does to controllers and leases. -/
inductive PermitEffect (op : Op) (core core' : WovenCore) : Prop
  | keep (admissions : ∀ k : SessionKey, core'.admissions[k]? = core.admissions[k]?)
      (leases : ∀ slot, core'.leaseAt slot = core.leaseAt slot)
      (known : ∀ slot, core.leaseAt slot ≠ none →
        (core'.connectionAt slot.connection).authenticated =
          (core.connectionAt slot.connection).authenticated)
  | tune (key : SessionKey) (after : AdmissionController) (session : after.metadata.session = key)
      (orderly : after.Orderly)
      (active : ∀ id : Nat, after.active[id]? =
        (core.admissions[key]?).bind fun controller => controller.active[id]?)
      (admissions : ∀ k : SessionKey,
        core'.admissions[k]? = if k = key then some after else core.admissions[k]?)
      (leases : ∀ slot, core'.leaseAt slot = core.leaseAt slot)
      (known : ∀ c, (core'.connectionAt c).authenticated = (core.connectionAt c).authenticated)
  | issue (connection : ConnectionId) (key : SessionKey) (asked : op.asks connection key)
      (lease : AdmissionLease) (record : ActiveLease) (controller after : AdmissionController)
      (principal : AuthenticatedPrincipal)
      (authenticated : (core.connectionAt connection).authenticated = some principal)
      (found : core.admissions[key]? = some controller) (fresh : lease.id ∉ controller.active)
      (session : lease.session = key) (own : lease.principal = principal.principalId)
      (holder : record.principal = lease.principal) (addressed : after.metadata.session = key)
      (orderly : after.Orderly) (active : after.active = controller.active.insert lease.id record)
      (admissions : ∀ k : SessionKey,
        core'.admissions[k]? = if k = key then some after else core.admissions[k]?)
      (leases : ∀ slot, core'.leaseAt slot =
        if slot = ⟨.pending, connection, key⟩ then some lease else core.leaseAt slot)
      (known : ∀ c, (core'.connectionAt c).authenticated = (core.connectionAt c).authenticated)
  | bind (connection : ConnectionId) (key : SessionKey) (lease : AdmissionLease)
      (pending : core.leaseAt ⟨.pending, connection, key⟩ = some lease)
      (admissions : ∀ k : SessionKey, core'.admissions[k]? = core.admissions[k]?)
      (leases : ∀ slot, core'.leaseAt slot =
        if slot = ⟨.pending, connection, key⟩ then none
        else if slot = ⟨.bound, connection, key⟩ then some lease else core.leaseAt slot)
      (known : ∀ c, (core'.connectionAt c).authenticated = (core.connectionAt c).authenticated)
  | release (slot : LeaseSlot) (lease : AdmissionLease) (held : core.leaseAt slot = some lease)
      (controller after : AdmissionController)
      (found : core.admissions[slot.key]? = some controller)
      (addressed : after.metadata.session = slot.key) (orderly : after.Orderly)
      (active : after.active = controller.active.erase lease.id)
      (admissions : ∀ k : SessionKey,
        core'.admissions[k]? = if k = slot.key then some after else core.admissions[k]?)
      (leases : ∀ other, core'.leaseAt other = if other = slot then none else core.leaseAt other)
      (known : ∀ c, (core'.connectionAt c).authenticated = (core.connectionAt c).authenticated)

variable {op : Op} {core core' : WovenCore}

theorem hasActiveLease_iff {controller : AdmissionController} {lease : AdmissionLease} :
    controller.hasActiveLease lease = true ↔ lease.session = controller.metadata.session ∧
      ∃ record, controller.active[lease.id]? = some record ∧
        record.principal = lease.principal := by
  rw [hasActiveLease, Bool.and_eq_true, Option.any_eq_true]
  simp

/-- A lease in a table is found among the active leases of its session. -/
theorem WovenCore.Permits.found (h : core.Permits) {slot : LeaseSlot} {lease : AdmissionLease}
    {controller : AdmissionController} (hheld : core.leaseAt slot = some lease)
    (hcontroller : core.admissions[slot.key]? = some controller) :
    ∃ record, controller.active[lease.id]? = some record ∧ record.principal = lease.principal := by
  obtain ⟨-, ⟨owner, howner, hactive⟩, -⟩ := h.recorded slot lease hheld
  obtain rfl := Option.some.inj (howner.symm.trans hcontroller)
  exact (hasActiveLease_iff.mp hactive).2

section

variable {key : SessionKey} {after : AdmissionController}

/-- Replacing the controller of one session keeps the controllers in order. -/
theorem WovenCore.Permits.controller_replaced (h : core.Permits)
    (addressed : after.metadata.session = key) (orderly : after.Orderly)
    (admissions : ∀ k : SessionKey,
      core'.admissions[k]? = if k = key then some after else core.admissions[k]?) (k : SessionKey)
    (controller : AdmissionController) (hfound : core'.admissions[k]? = some controller) :
    controller.metadata.session = k ∧ controller.Orderly := by
  rw [admissions] at hfound
  split at hfound
  · rename_i hk
    obtain rfl := Option.some.inj hfound
    rw [hk]
    exact ⟨addressed, orderly⟩
  · exact h.controller k controller hfound

/-- A lease stays active when the controller of one session is replaced by one that still has it. -/
theorem WovenCore.Permits.active_replaced (h : core.Permits) {slot : LeaseSlot}
    {lease : AdmissionLease} (hheld : core.leaseAt slot = some lease)
    (addressed : after.metadata.session = key)
    (admissions : ∀ k : SessionKey,
      core'.admissions[k]? = if k = key then some after else core.admissions[k]?)
    (hkept : slot.key = key → ∃ record,
      after.active[lease.id]? = some record ∧ record.principal = lease.principal) :
    ∃ controller, core'.admissions[slot.key]? = some controller ∧
      controller.hasActiveLease lease = true := by
  obtain ⟨hsession, hactive, -⟩ := h.recorded slot lease hheld
  rw [admissions]
  split
  · rename_i hk
    rw [hk] at hsession
    exact ⟨after, rfl, hasActiveLease_iff.mpr ⟨hsession.trans addressed.symm, hkept hk⟩⟩
  · exact hactive

theorem WovenCore.Permits.keep (h : core.Permits)
    (admissions : ∀ k : SessionKey, core'.admissions[k]? = core.admissions[k]?)
    (leases : ∀ slot, core'.leaseAt slot = core.leaseAt slot)
    (known : ∀ slot, core.leaseAt slot ≠ none →
      (core'.connectionAt slot.connection).authenticated =
        (core.connectionAt slot.connection).authenticated) :
    core'.Permits := by
  refine ⟨?_, ?_, ?_⟩
  · intro key controller hfound
    rw [admissions] at hfound
    exact h.controller key controller hfound
  · intro slot lease hheld
    rw [leases] at hheld
    obtain ⟨hsession, hactive, principal, hprincipal, hown⟩ := h.recorded slot lease hheld
    refine ⟨hsession, by rwa [admissions], principal, ?_, hown⟩
    rw [known slot (by rw [hheld]; exact Option.some_ne_none _)]
    exact hprincipal
  · intro slot other lease lease' hheld hheld'
    rw [leases] at hheld hheld'
    exact h.distinct slot other lease lease' hheld hheld'

theorem WovenCore.Permits.tune (h : core.Permits) (session : after.metadata.session = key)
    (orderly : after.Orderly)
    (active : ∀ id : Nat, after.active[id]? =
      (core.admissions[key]?).bind fun controller => controller.active[id]?)
    (admissions : ∀ k : SessionKey,
      core'.admissions[k]? = if k = key then some after else core.admissions[k]?)
    (leases : ∀ slot, core'.leaseAt slot = core.leaseAt slot)
    (known : ∀ c, (core'.connectionAt c).authenticated = (core.connectionAt c).authenticated) :
    core'.Permits := by
  refine ⟨h.controller_replaced session orderly admissions, ?_, ?_⟩
  · intro slot lease hheld
    rw [leases] at hheld
    obtain ⟨hsession, ⟨controller, hfound, -⟩, hprincipal⟩ := h.recorded slot lease hheld
    refine ⟨hsession, h.active_replaced hheld session admissions fun hk => ?_, by rwa [known]⟩
    rw [active, ← hk, hfound]
    exact h.found hheld hfound
  · intro slot other lease lease' hheld hheld'
    rw [leases] at hheld hheld'
    exact h.distinct slot other lease lease' hheld hheld'

/-- A new lease has an id that no lease in the tables has, so that the others stay as they are. -/
theorem WovenCore.Permits.issue (h : core.Permits) {connection : ConnectionId}
    {lease : AdmissionLease} {record : ActiveLease} {controller : AdmissionController}
    {principal : AuthenticatedPrincipal}
    (authenticated : (core.connectionAt connection).authenticated = some principal)
    (found : core.admissions[key]? = some controller) (fresh : lease.id ∉ controller.active)
    (session : lease.session = key) (own : lease.principal = principal.principalId)
    (holder : record.principal = lease.principal) (addressed : after.metadata.session = key)
    (orderly : after.Orderly) (active : after.active = controller.active.insert lease.id record)
    (admissions : ∀ k : SessionKey,
      core'.admissions[k]? = if k = key then some after else core.admissions[k]?)
    (leases : ∀ slot, core'.leaseAt slot =
      if slot = ⟨.pending, connection, key⟩ then some lease else core.leaseAt slot)
    (known : ∀ c, (core'.connectionAt c).authenticated = (core.connectionAt c).authenticated) :
    core'.Permits := by
  have hnew : ∀ slot held, core.leaseAt slot = some held → slot.key = key →
      held.id ≠ lease.id := by
    intro slot held hheld hk heq
    subst hk
    obtain ⟨holding, hholding, -⟩ := h.found hheld found
    rw [heq] at hholding
    exact fresh (OrderedMap.mem_of_getElem? hholding)
  refine ⟨h.controller_replaced addressed orderly admissions, ?_, ?_⟩
  · intro slot held hheld
    rw [leases] at hheld
    rw [known]
    split at hheld
    · rename_i hslot
      obtain rfl := Option.some.inj hheld
      subst hslot
      refine ⟨session, ⟨after, by rw [admissions, if_pos rfl], ?_⟩, principal, authenticated, own⟩
      rw [hasActiveLease_iff, active, OrderedMap.getElem?_insert, if_pos rfl]
      exact ⟨session.trans addressed.symm, record, rfl, holder⟩
    · obtain ⟨hsession, -, hprincipal⟩ := h.recorded slot held hheld
      refine ⟨hsession, h.active_replaced hheld addressed admissions fun hk => ?_, hprincipal⟩
      rw [active, OrderedMap.getElem?_insert, if_neg (hnew slot held hheld hk)]
      exact h.found hheld (hk ▸ found)
  · intro slot other held held' hheld hheld' hkeys hids
    rw [leases] at hheld hheld'
    split at hheld <;> split at hheld'
    · rename_i hslot hother
      exact hslot.trans hother.symm
    · rename_i hslot hother
      obtain rfl := Option.some.inj hheld
      subst hslot
      exact absurd hids.symm (hnew other held' hheld' hkeys.symm)
    · rename_i hslot hother
      obtain rfl := Option.some.inj hheld'
      subst hother
      exact absurd hids (hnew slot held hheld hkeys)
    · exact h.distinct slot other held held' hheld hheld' hkeys hids

/-- A lease that is bound has come from the table of the pending ones. -/
theorem WovenCore.Permits.bind (h : core.Permits) {connection : ConnectionId}
    {lease : AdmissionLease} (pending : core.leaseAt ⟨.pending, connection, key⟩ = some lease)
    (admissions : ∀ k : SessionKey, core'.admissions[k]? = core.admissions[k]?)
    (leases : ∀ slot, core'.leaseAt slot =
      if slot = ⟨.pending, connection, key⟩ then none
      else if slot = ⟨.bound, connection, key⟩ then some lease else core.leaseAt slot)
    (known : ∀ c, (core'.connectionAt c).authenticated = (core.connectionAt c).authenticated) :
    core'.Permits := by
  have hbefore : ∀ slot held, core'.leaseAt slot = some held → ∃ before,
      core.leaseAt before = some held ∧ before.key = slot.key ∧
        before.connection = slot.connection ∧ slot ≠ ⟨.pending, connection, key⟩ ∧
        (before = slot ∨ before = ⟨.pending, connection, key⟩ ∧
          slot = ⟨.bound, connection, key⟩) := by
    intro slot held hheld
    rw [leases] at hheld
    split at hheld
    · cases hheld
    · rename_i hpending
      split at hheld
      · rename_i hslot
        obtain rfl := Option.some.inj hheld
        subst hslot
        exact ⟨_, pending, rfl, rfl, hpending, Or.inr ⟨rfl, rfl⟩⟩
      · exact ⟨slot, hheld, rfl, rfl, hpending, Or.inl rfl⟩
  refine ⟨?_, ?_, ?_⟩
  · intro k controller hfound
    rw [admissions] at hfound
    exact h.controller k controller hfound
  · intro slot held hheld
    obtain ⟨before, hin, hk, hc, -, -⟩ := hbefore slot held hheld
    have hrecorded := h.recorded before held hin
    rw [hk, hc] at hrecorded
    rwa [known, admissions]
  · intro slot other held held' hheld hheld' hkeys hids
    obtain ⟨before, hin, hk, hc, hnot, hwhere⟩ := hbefore slot held hheld
    obtain ⟨before', hin', hk', hc', hnot', hwhere'⟩ := hbefore other held' hheld'
    have hsame := h.distinct before before' held held' hin hin'
      (hk.trans (hkeys.trans hk'.symm)) hids
    rcases hwhere with rfl | ⟨hfirst, hslot⟩ <;> rcases hwhere' with rfl | ⟨hsecond, hother⟩
    · exact hsame
    · exact absurd (hsame.trans hsecond) hnot
    · exact absurd (hsame.symm.trans hfirst) hnot'
    · exact hslot.trans hother.symm

/-- Only the lease that is released has the id under which the controller forgets it. -/
theorem WovenCore.Permits.release (h : core.Permits) {slot : LeaseSlot} {lease : AdmissionLease}
    (held : core.leaseAt slot = some lease) {controller : AdmissionController}
    (found : core.admissions[slot.key]? = some controller)
    (addressed : after.metadata.session = slot.key) (orderly : after.Orderly)
    (active : after.active = controller.active.erase lease.id)
    (admissions : ∀ k : SessionKey,
      core'.admissions[k]? = if k = slot.key then some after else core.admissions[k]?)
    (leases : ∀ other, core'.leaseAt other = if other = slot then none else core.leaseAt other)
    (known : ∀ c, (core'.connectionAt c).authenticated = (core.connectionAt c).authenticated) :
    core'.Permits := by
  refine ⟨h.controller_replaced addressed orderly admissions, ?_, ?_⟩
  · intro other kept hheld
    rw [leases] at hheld
    rw [known]
    split at hheld
    · cases hheld
    · rename_i hother
      obtain ⟨hsession, -, hprincipal⟩ := h.recorded other kept hheld
      refine ⟨hsession, h.active_replaced hheld addressed admissions fun hk => ?_, hprincipal⟩
      have hid : kept.id ≠ lease.id :=
        fun heq => hother (h.distinct other slot kept lease hheld held hk heq)
      rw [active, OrderedMap.getElem?_erase, if_neg hid]
      exact h.found hheld (hk ▸ found)
  · intro first second held' held'' hheld hheld'
    rw [leases] at hheld hheld'
    split at hheld
    · cases hheld
    · split at hheld'
      · cases hheld'
      · exact h.distinct first second held' held'' hheld hheld'

end

theorem PermitEffect.permits (heffect : PermitEffect op core core') (h : core.Permits) :
    core'.Permits := by
  cases heffect with
  | keep admissions leases known => exact h.keep admissions leases known
  | tune key after session orderly active admissions leases known =>
    exact h.tune session orderly active admissions leases known
  | issue connection key asked lease record controller after principal authenticated found fresh
      session own holder addressed orderly active admissions leases known =>
    exact h.issue authenticated found fresh session own holder addressed orderly active admissions
      leases known
  | bind connection key lease pending admissions leases known =>
    exact h.bind pending admissions leases known
  | release slot lease held controller after found addressed orderly active admissions leases
      known =>
    exact h.release held found addressed orderly active admissions leases known

end Signalweave
