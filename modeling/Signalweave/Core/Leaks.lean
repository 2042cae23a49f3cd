import Signalweave.Core.Capacity

/-!
# Permits that leak

A permit is given back through the slot that records its lease. A connection that is admitted again
while it has a lease pending loses the record of that one, and with it the permit.
-/

open Std

namespace Signalweave

open Stateful WovenCore AdmissionController

variable {core core' : WovenCore} {op : Op} {connection : ConnectionId} {key : SessionKey}
  {idempotencyKey : IdempotencyKey} {now : Instant} {lease : AdmissionLease}
  {principal : AuthenticatedPrincipal} {controller : AdmissionController}

/-! ## Requests -/

/-- A request that passes the checks. -/
structure AdmissionAsked (core : WovenCore) (connection : ConnectionId) (key : SessionKey)
    (principal : AuthenticatedPrincipal) (controller : AdmissionController) : Prop where
  id : connection.get ≠ 0
  session : validateSessionKey key = .ok ()
  authenticated : core.authenticatedPrincipal connection = .ok principal
  readsNamespace : principal.grants.canReadNamespace key.namespaceId = true
  readsSession : principal.grants.canReadSession key = true
  found : core.admissions[key]? = some controller

theorem requestSessionAdmissionAt_ends {Q : JoinDecision → WovenCore → Prop}
    {E : CoreError → WovenCore → Prop}
    (hrefused : (∀ principal controller,
      ¬ AdmissionAsked core connection key principal controller) → ∀ e, E e core)
    (hasked : ∀ principal controller, AdmissionAsked core connection key principal controller →
      let answer := controller.requestJoinAt
        { principal := principal.principalId, idempotencyKey := some idempotencyKey } now
      Q answer.1 (core.requestAdmission connection key answer)) :
    Ends (requestSessionAdmissionAt connection key idempotencyKey now) core Q E := by
  by_cases h : ∃ principal controller, AdmissionAsked core connection key principal controller
  · obtain ⟨principal, controller, h⟩ := h
    have hanswer := hasked principal controller h
    obtain ⟨hid, hsession, hprincipal, hnamespace, hreads, hfound⟩ := h
    have hvalid : validateConnectionId connection = .ok () := validateConnectionId_eq_ok.mpr hid
    have hin := OrderedMap.mem_of_getElem? hfound
    simp [requestSessionAdmissionAt, requireNamespaceRead, requireSessionRead, requireGrant, hvalid,
      hsession, hprincipal, hnamespace, hreads, hfound]
    exact ⟨hanswer, fun hnot => absurd hin hnot⟩
  · have hnone : ∀ principal controller,
        ¬ AdmissionAsked core connection key principal controller :=
      fun principal controller hasked => h ⟨principal, controller, hasked⟩
    simp [requestSessionAdmissionAt, requireNamespaceRead, requireSessionRead, hrefused hnone]
    intro hid _ hsession principal hprincipal hnamespace hreads controller hfound
    exact absurd ⟨hid, hsession, hprincipal, hnamespace, hreads, hfound⟩
      (hnone principal controller)

/-- A request passes the checks and finds a permit free for its principal. -/
def WovenCore.Admits (core : WovenCore) (connection : ConnectionId) (key : SessionKey)
    (idempotencyKey : IdempotencyKey) (now : Instant) : Prop :=
  ∃ principal controller, AdmissionAsked core connection key principal controller ∧
    controller.Admits principal.principalId idempotencyKey now

theorem AdmissionAsked.unique (h : AdmissionAsked core connection key principal controller)
    {principal' : AuthenticatedPrincipal} {controller' : AdmissionController}
    (h' : AdmissionAsked core connection key principal' controller') :
    principal' = principal ∧ controller' = controller := by
  have hprincipal := h'.authenticated.symm.trans h.authenticated
  have hfound := h'.found.symm.trans h.found
  exact ⟨Except.ok.inj hprincipal, Option.some.inj hfound⟩

/-- A request that is admitted files a new lease as the pending one of its connection. -/
theorem step_request_admitted (h : core.Admits connection key idempotencyKey now) :
    ∃ controller lease record after, core.admissions[key]? = some controller ∧
      lease.id = controller.nextLease ∧
      after.active = controller.active.insert lease.id record ∧
      step core (.requestSessionAdmissionAt connection key idempotencyKey now) =
        core.requestAdmission connection key (.admitted lease, after) := by
  obtain ⟨principal, controller, hasked, hadmits⟩ := h
  obtain ⟨lease, hlease⟩ := requestJoinAt_admitted_iff.mpr hadmits
  have hanswers := @requestJoinAt_leaseAnswer controller now principal.principalId idempotencyKey
  have hstep : step core (.requestSessionAdmissionAt connection key idempotencyKey now) =
      core.requestAdmission connection key (controller.requestJoinAt
        { principal := principal.principalId, idempotencyKey := some idempotencyKey } now) := by
    refine Ends.after (P := fun core' : WovenCore => core' = core.requestAdmission connection key
      (controller.requestJoinAt
        { principal := principal.principalId, idempotencyKey := some idempotencyKey } now)) ?_
    refine ends_bind.mpr (requestSessionAdmissionAt_ends ?_ ?_)
    · exact fun hnone => absurd hasked (hnone principal controller)
    · intro principal' controller' hasked'
      obtain ⟨rfl, rfl⟩ := hasked.unique hasked'
      exact rfl
  rw [hstep]
  generalize controller.requestJoinAt
    { principal := principal.principalId, idempotencyKey := some idempotencyKey } now = answer
    at hlease hanswers ⊢
  cases hanswers with
  | admitted lease record after id session own holder active =>
    exact ⟨controller, lease, record, after, hasked.found, id, active, rfl⟩
  | refused decision after refusal active => exact absurd hlease (refusal lease)

/-- Any other request leaves the pending leases as they were. -/
theorem step_request_refused (h : ¬ core.Admits connection key idempotencyKey now) :
    (step core (.requestSessionAdmissionAt connection key idempotencyKey now)).pendingAdmissions =
      core.pendingAdmissions := by
  refine Ends.after
    (P := fun core' : WovenCore => core'.pendingAdmissions = core.pendingAdmissions) ?_
  refine ends_bind.mpr (requestSessionAdmissionAt_ends (fun _ _ => rfl) ?_)
  intro principal controller hasked answer
  have hrefused : ∀ lease, answer.1 ≠ .admitted lease := fun lease hlease =>
    h ⟨principal, controller, hasked, requestJoinAt_admitted_iff.mp ⟨lease, hlease⟩⟩
  show (core.requestAdmission connection key answer).pendingAdmissions = _
  unfold WovenCore.requestAdmission
  cases hdecision : answer.1 with
  | admitted lease => exact absurd hdecision (hrefused lease)
  | _ => rfl

/-! ## Records of active leases -/

/-- Every active lease is in a slot, and no connection has two of a session. -/
structure WovenCore.Filed (core : WovenCore) : Prop where
  slot : ∀ (key : SessionKey) (controller : AdmissionController) (id : Nat),
    core.admissions[key]? = some controller → id ∈ controller.active →
      ∃ slot lease, slot.key = key ∧ core.leaseAt slot = some lease ∧ lease.id = id
  single : ∀ connection key, core.leaseAt ⟨.pending, connection, key⟩ ≠ none →
    core.leaseAt ⟨.bound, connection, key⟩ = none

section

variable {after : AdmissionController}

/-- The records stay where the leases do and no permit has become active. -/
theorem WovenCore.Filed.of_leases (hfiled : core.Filed)
    (leases : ∀ slot, core'.leaseAt slot = core.leaseAt slot)
    (hactive : ∀ (key : SessionKey) (controller : AdmissionController) (id : Nat),
      core'.admissions[key]? = some controller → id ∈ controller.active →
        ∃ before, core.admissions[key]? = some before ∧ id ∈ before.active) : core'.Filed where
  slot k controller id hfound hin := by
    obtain ⟨before, hbefore, hwas⟩ := hactive k controller id hfound hin
    obtain ⟨slot, lease, hkey, hheld, hid⟩ := hfiled.slot k before id hbefore hwas
    exact ⟨slot, lease, hkey, by rwa [leases], hid⟩
  single c k hpending := by
    rw [leases] at hpending ⊢
    exact hfiled.single c k hpending

theorem WovenCore.Filed.tune (hfiled : core.Filed)
    (active : ∀ id : Nat, after.active[id]? =
      (core.admissions[key]?).bind fun controller => controller.active[id]?)
    (admissions : ∀ k : SessionKey,
      core'.admissions[k]? = if k = key then some after else core.admissions[k]?)
    (leases : ∀ slot, core'.leaseAt slot = core.leaseAt slot) : core'.Filed := by
  refine hfiled.of_leases leases fun k controller id hfound hactive => ?_
  rw [admissions] at hfound
  split at hfound
  · rename_i hk
    obtain rfl := Option.some.inj hfound
    obtain ⟨record, hrecord⟩ := OrderedMap.exists_of_mem hactive
    rw [active] at hrecord
    obtain ⟨before, hbefore, hin⟩ := Option.bind_eq_some_iff.mp hrecord
    exact ⟨before, hk ▸ hbefore, OrderedMap.mem_of_getElem? hin⟩
  · exact ⟨controller, hfound, hactive⟩

/-- A new lease is recorded where its connection has none, and takes no other record away. -/
theorem WovenCore.Filed.issue (hfiled : core.Filed) {connection : ConnectionId}
    {record : ActiveLease} (found : core.admissions[key]? = some controller)
    (active : after.active = controller.active.insert lease.id record)
    (admissions : ∀ k : SessionKey,
      core'.admissions[k]? = if k = key then some after else core.admissions[k]?)
    (leases : ∀ slot, core'.leaseAt slot =
      if slot = ⟨.pending, connection, key⟩ then some lease else core.leaseAt slot)
    (hpending : core.leaseAt ⟨.pending, connection, key⟩ = none)
    (hbound : core.leaseAt ⟨.bound, connection, key⟩ = none) : core'.Filed := by
  have hgiven : core'.leaseAt ⟨.pending, connection, key⟩ = some lease := by
    rw [leases, if_pos rfl]
  have hkept : ∀ slot held, core.leaseAt slot = some held → core'.leaseAt slot = some held := by
    intro slot held hheld
    rw [leases, if_neg, hheld]
    rintro rfl
    rw [hpending] at hheld
    cases hheld
  refine ⟨?_, ?_⟩
  · intro k other id hfound hactive
    rw [admissions] at hfound
    split at hfound
    · rename_i hk
      obtain rfl := Option.some.inj hfound
      rw [active] at hactive
      rcases OrderedMap.mem_insert.mp hactive with rfl | hin
      · exact ⟨_, lease, hk.symm, hgiven, rfl⟩
      · obtain ⟨slot, held, hkey, hheld, hid⟩ := hfiled.slot key controller id found hin
        exact ⟨slot, held, hkey.trans hk.symm, hkept slot held hheld, hid⟩
    · obtain ⟨slot, held, hkey, hheld, hid⟩ := hfiled.slot k other id hfound hactive
      exact ⟨slot, held, hkey, hkept slot held hheld, hid⟩
  · intro c k hheld
    rw [leases] at hheld ⊢
    rw [if_neg (by simp)]
    split at hheld
    · rename_i hslot
      obtain ⟨-, rfl, rfl⟩ := LeaseSlot.mk.inj hslot
      exact hbound
    · exact hfiled.single c k hheld

/-- The record of a lease moves with it. -/
theorem WovenCore.Filed.bind (hfiled : core.Filed) {connection : ConnectionId}
    (pending : core.leaseAt ⟨.pending, connection, key⟩ = some lease)
    (admissions : ∀ k : SessionKey, core'.admissions[k]? = core.admissions[k]?)
    (leases : ∀ slot, core'.leaseAt slot =
      if slot = ⟨.pending, connection, key⟩ then none
      else if slot = ⟨.bound, connection, key⟩ then some lease else core.leaseAt slot) :
    core'.Filed := by
  refine ⟨?_, ?_⟩
  · intro k controller id hfound hactive
    rw [admissions] at hfound
    obtain ⟨slot, held, hkey, hheld, hid⟩ := hfiled.slot k controller id hfound hactive
    by_cases hslot : slot = ⟨.pending, connection, key⟩
    · rw [hslot, pending] at hheld
      obtain rfl := Option.some.inj hheld
      refine ⟨⟨.bound, connection, key⟩, lease, ?_, ?_, hid⟩
      · rw [← hkey, hslot]
      · rw [leases, if_neg (by simp), if_pos rfl]
    · have hfree := hfiled.single connection key (by rw [pending]; exact Option.some_ne_none _)
      refine ⟨slot, held, hkey, ?_, hid⟩
      rw [leases, if_neg hslot, if_neg, hheld]
      rintro rfl
      rw [hfree] at hheld
      cases hheld
  · intro c k hheld
    rw [leases] at hheld ⊢
    split at hheld
    · exact absurd rfl hheld
    · rename_i hslot
      rw [if_neg (by simp)] at hheld
      rw [if_neg (by simp), if_neg]
      · exact hfiled.single c k hheld
      · rintro ⟨-⟩
        exact hslot rfl

/-- A lease that is released was recorded in the slot that is emptied, and no other one was. -/
theorem WovenCore.Filed.release (hfiled : core.Filed) {slot : LeaseSlot}
    (held : core.leaseAt slot = some lease) (found : core.admissions[slot.key]? = some controller)
    (active : after.active = controller.active.erase lease.id)
    (admissions : ∀ k : SessionKey,
      core'.admissions[k]? = if k = slot.key then some after else core.admissions[k]?)
    (leases : ∀ other, core'.leaseAt other = if other = slot then none else core.leaseAt other) :
    core'.Filed := by
  refine ⟨?_, ?_⟩
  · intro k other id hfound hactive
    rw [admissions] at hfound
    split at hfound
    · rename_i hk
      obtain rfl := Option.some.inj hfound
      rw [active, OrderedMap.mem_erase] at hactive
      obtain ⟨where', kept, hkey, hheld, hid⟩ :=
        hfiled.slot slot.key controller id found hactive.2
      refine ⟨where', kept, hkey.trans hk.symm, ?_, hid⟩
      rw [leases, if_neg, hheld]
      rintro rfl
      rw [held] at hheld
      obtain rfl := Option.some.inj hheld
      exact hactive.1 hid.symm
    · rename_i hk
      obtain ⟨where', kept, hkey, hheld, hid⟩ := hfiled.slot k other id hfound hactive
      refine ⟨where', kept, hkey, ?_, hid⟩
      rw [leases, if_neg, hheld]
      rintro rfl
      exact hk hkey.symm
  · intro c k hheld
    rw [leases] at hheld ⊢
    split at hheld
    · exact absurd rfl hheld
    · split
      · rfl
      · exact hfiled.single c k hheld

end

/-- A change keeps the records, unless it issues a lease to a connection that has one. -/
theorem PermitEffect.filed (heffect : PermitEffect op core core') (h : core.Permits)
    (hfiled : core.Filed)
    (hfree : ∀ connection key, op.asks connection key →
      core'.leaseAt ⟨.pending, connection, key⟩ ≠ core.leaseAt ⟨.pending, connection, key⟩ →
        core.leaseAt ⟨.pending, connection, key⟩ = none ∧
          core.leaseAt ⟨.bound, connection, key⟩ = none) : core'.Filed := by
  cases heffect with
  | keep admissions leases known =>
    refine hfiled.of_leases leases fun key controller id hfound hactive => ?_
    exact ⟨controller, (admissions key).symm.trans hfound, hactive⟩
  | tune key after session orderly active admissions leases known =>
    exact hfiled.tune active admissions leases
  | issue connection key asked lease record controller after principal authenticated found fresh
      session own holder addressed orderly active admissions leases known =>
    -- The lease is new, so that the slot is not as it was.
    have hnew : core'.leaseAt ⟨.pending, connection, key⟩ ≠
        core.leaseAt ⟨.pending, connection, key⟩ := by
      rw [leases, if_pos rfl]
      intro heq
      obtain ⟨holding, hholding, -⟩ := h.found heq.symm found
      exact fresh (OrderedMap.mem_of_getElem? hholding)
    obtain ⟨hpending, hbound⟩ := hfree connection key asked hnew
    exact hfiled.issue found active admissions leases hpending hbound
  | bind connection key lease pending admissions leases known =>
    exact hfiled.bind pending admissions leases
  | release slot lease held controller after found addressed orderly active admissions leases
      known =>
    exact hfiled.release held found active admissions leases

theorem step_request_effect (h : core.Permits) :
    PermitEffect (.requestSessionAdmissionAt connection key idempotencyKey now) core
      (step core (.requestSessionAdmissionAt connection key idempotencyKey now)) := by
  have hsame : SameHolders core core := .of_connections rfl rfl rfl rfl
  refine Ends.after (P := PermitEffect (.requestSessionAdmissionAt connection key idempotencyKey
    now) core) ?_
  refine ends_bind.mpr (requestSessionAdmissionAt_ends ?_ ?_)
  · exact fun _ _ => hsame.permitStep.effect
  · intro principal controller hasked
    obtain ⟨state, hstate, hprincipal⟩ := authenticatedPrincipal_eq_ok.mp hasked.authenticated
    rw [← connectionAt_of_some hstate] at hprincipal
    exact (requestAdmission_permitStep h hprincipal hasked.found).effect

/-- Who is admitted has no lease of the session yet. -/
def AsksAnew (core : WovenCore) : Op → Prop
  | .requestSessionAdmissionAt connection key idempotencyKey now =>
    core.Admits connection key idempotencyKey now →
      core.leaseAt ⟨.pending, connection, key⟩ = none ∧
        core.leaseAt ⟨.bound, connection, key⟩ = none
  | _ => True

/-- Without a new admission, or with one of a connection that has no lease, the records stay. -/
theorem filed_step (h : core.Held) (hfiled : core.Filed) (hanew : AsksAnew core op) :
    (step core op).Filed := by
  by_cases hrequest : ∃ connection key, op.asks connection key
  · obtain ⟨connection, key, hasks⟩ := hrequest
    cases op with
    | requestSessionAdmissionAt c k idempotencyKey now =>
      apply (step_request_effect h.permits).filed h.permits hfiled
      rintro _ _ ⟨rfl, rfl⟩ hchanged
      apply hanew
      by_contra hrefused
      apply hchanged
      rw [leaseAt, leaseAt, step_request_refused hrefused]
    | _ => exact hasks.elim
  · obtain ⟨-, -, -, hafter⟩ := (changes_step h.sound op).permits (P := Filed) h hfiled
      fun before after _ hpermits hstep hbefore =>
        hstep.effect.filed hpermits hbefore fun c k hasks => absurd ⟨c, k, hasks⟩ hrequest
    exact hafter

/-- A second admission of a connection leaves a lease without a record, or a connection with two
leases. -/
theorem asksAnew_of_filed (h : core.Held) (hafter : (step core op).Filed) : AsksAnew core op := by
  cases op with
  | requestSessionAdmissionAt connection key idempotencyKey now =>
    intro hadmits
    obtain ⟨controller, lease, record, after, hfound, hid, hactive, hstep⟩ :=
      step_request_admitted hadmits
    rw [hstep] at hafter
    constructor
    · by_contra hpending
      obtain ⟨old, hold⟩ := Option.ne_none_iff_exists'.mp hpending
      obtain ⟨held, hheld, -⟩ := h.permits.found hold hfound
      have hin := OrderedMap.mem_of_getElem? hheld
      have hne : lease.id ≠ old.id := by
        have hlt := (h.permits.controller key controller hfound).2.leased.active _ hin
        omega
      -- The old lease is still active, and its only slot has the new one.
      obtain ⟨slot, lease', hkey, hfiled, hsame⟩ := hafter.slot key after old.id
        (OrderedMap.getElem?_insert.trans (if_pos rfl))
        (by rw [hactive]; exact OrderedMap.mem_insert.mpr (Or.inr hin))
      rw [leaseAt_requestAdmission] at hfiled
      split at hfiled
      · obtain rfl := Option.some.inj hfiled
        exact hne hsame
      · rename_i hslot
        exact hslot (h.permits.distinct slot _ lease' old hfiled hold hkey hsame)
    · have hgiven : (core.requestAdmission connection key (.admitted lease, after)).leaseAt
          ⟨.pending, connection, key⟩ ≠ none := by
        rw [leaseAt_requestAdmission, if_pos rfl]
        exact Option.some_ne_none _
      exact hafter.single connection key hgiven
  | _ => trivial

/-! ## Permits that are accounted for -/

/-- Every active lease is recorded once, under a live connection, and a connection has at most one
lease of a session. -/
structure Accounted (core : WovenCore) : Prop where
  recorded : ∀ (key : SessionKey) (controller : AdmissionController) (id : Nat),
    core.admissions[key]? = some controller → id ∈ controller.active →
      ∃! slot : LeaseSlot, slot.key = key ∧ slot.connection ∈ core.connections ∧
        ∃ lease, core.leaseAt slot = some lease ∧ lease.id = id
  single : ∀ (slot other : LeaseSlot), core.leaseAt slot ≠ none → core.leaseAt other ≠ none →
    slot.connection = other.connection → slot.key = other.key → slot = other
  drained : core.connections = ∅ → ∀ (key : SessionKey) (controller : AdmissionController),
    core.admissions[key]? = some controller → controller.active.size = 0

/-- A slot with a lease is one of a live connection. -/
theorem WovenCore.Permits.live (h : core.Permits) {slot : LeaseSlot}
    (hheld : core.leaseAt slot = some lease) : slot.connection ∈ core.connections := by
  obtain ⟨-, -, principal, hprincipal, -⟩ := h.recorded slot lease hheld
  by_contra hgone
  rw [connectionAt_of_notMem hgone] at hprincipal
  cases hprincipal

theorem WovenCore.Held.accounted_iff (h : core.Held) : Accounted core ↔ core.Filed := by
  constructor
  · intro haccounted
    refine ⟨?_, ?_⟩
    · intro key controller id hfound hactive
      obtain ⟨slot, ⟨hkey, -, lease, hheld, hid⟩, -⟩ :=
        haccounted.recorded key controller id hfound hactive
      exact ⟨slot, lease, hkey, hheld, hid⟩
    · intro connection key hpending
      by_contra hbound
      have hsame := haccounted.single _ _ hpending hbound rfl rfl
      cases hsame
  · intro hfiled
    have hrecorded : ∀ (key : SessionKey) (controller : AdmissionController) (id : Nat),
        core.admissions[key]? = some controller → id ∈ controller.active →
          ∃! slot : LeaseSlot, slot.key = key ∧ slot.connection ∈ core.connections ∧
            ∃ lease, core.leaseAt slot = some lease ∧ lease.id = id := by
      intro key controller id hfound hactive
      obtain ⟨slot, lease, hkey, hheld, hid⟩ := hfiled.slot key controller id hfound hactive
      refine ⟨slot, ⟨hkey, h.permits.live hheld, lease, hheld, hid⟩, ?_⟩
      rintro other ⟨hother, -, lease', hheld', hid'⟩
      exact h.permits.distinct other slot lease' lease hheld' hheld (hother.trans hkey.symm)
        (hid'.trans hid.symm)
    refine ⟨hrecorded, ?_, ?_⟩
    · rintro ⟨place, c, k⟩ ⟨place', c', k'⟩ hheld hheld' rfl rfl
      cases place <;> cases place'
      · rfl
      · exact absurd (hfiled.single c k hheld) hheld'
      · exact absurd (hfiled.single c k hheld') hheld
      · rfl
    · intro hnone key controller hfound
      by_contra hsize
      have hnonempty : controller.active ≠ ∅ := by
        rintro hempty
        rw [hempty] at hsize
        exact hsize ExtTreeMap.size_empty
      obtain ⟨id, hin⟩ : ∃ id, id ∈ controller.active := by
        by_contra hall
        exact hnonempty (ExtTreeMap.eq_empty_iff_forall_not_mem.mpr fun id hin => hall ⟨id, hin⟩)
      obtain ⟨slot, ⟨-, hlive, -⟩, -⟩ := hrecorded key controller id hfound hin
      rw [hnone] at hlive
      simp at hlive

/-- The permits are accounted for all along a run exactly if no connection is admitted that has a
lease of the session already. -/
theorem run_accounted_iff (hinit : Initial core) (ops : List Op) :
    Transition.Always step Accounted core ops ↔ Transition.Meets step AsksAnew core ops := by
  have hheld := hinit.empty.held
  have hfiled : core.Filed := by
    refine ⟨?_, ?_⟩
    · intro key controller id hfound
      rw [hinit.empty.admissions] at hfound
      simp at hfound
    · intro connection key hpending
      exact absurd (hinit.empty.leaseAt _) hpending
  apply Transition.always_iff_meets (J := WovenCore.Held) (fun _ op h => h.step op) ?_ hheld
    (hheld.accounted_iff.mpr hfiled)
  intro core op h haccounted
  rw [(h.step op).accounted_iff]
  exact ⟨asksAnew_of_filed h, filed_step h (h.accounted_iff.mp haccounted)⟩

theorem run_accounted_admitted :
    Transition.Always step Accounted Sample.core Sample.admitted := by
  refine (run_accounted_iff Sample.initial Sample.admitted).mpr ?_
  exact ⟨trivial, trivial, trivial, trivial, trivial, trivial,
    fun _ => ⟨by decide +kernel, by decide +kernel⟩,
    fun _ => ⟨by decide +kernel, by decide +kernel⟩, trivial, trivial, trivial⟩

/-- A connection asks twice, with two keys, and is lost. -/
def Sample.askedTwice : List Op :=
  [ .provisionSession session,
    .configureSessionAdmission session { nodeId := ⟨1⟩, session } {}
      { allocatedCcu := 2, revision := 1 },
    .transportConnected, .authenticate ⟨1⟩ ⟨"a"⟩, asks ⟨1⟩ firstKey,
    asks ⟨1⟩ secondKey, .transportLost ⟨1⟩ fun _ _ _ => 1 ]

theorem askedTwice_leaks :
    Reachable (Transition.run step Sample.core Sample.askedTwice) ∧
      ¬ Accounted (Transition.run step Sample.core Sample.askedTwice) := by
  refine ⟨Sample.reachable _, fun haccounted => ?_⟩
  have hgone : (Transition.run step Sample.core Sample.askedTwice).connections = ∅ :=
    ExtTreeMap.isEmpty_iff.mp (by decide +kernel)
  have hactive :
    ((Transition.run step Sample.core Sample.askedTwice).admissions[Sample.session]?).map
      (fun controller => controller.active.size) = some 1 := by decide +kernel
  obtain ⟨controller, hfound, hsize⟩ := Option.map_eq_some_iff.mp hactive
  rw [haccounted.drained hgone Sample.session controller hfound] at hsize
  cases hsize

end Signalweave
