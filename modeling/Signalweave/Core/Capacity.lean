import Signalweave.Core.PermitChanges

/-!
# Capacity is enforced end to end

A session whose admission is configured before anybody is in it has no members but those whose
connection is bound to an active lease of their own, and so no more than its allocation.
-/

open Std

namespace Signalweave

open Stateful WovenCore AdmissionController

variable {core core' : WovenCore} {op : Op} {connection : ConnectionId} {key : SessionKey}
  {lease : AdmissionLease}

/-! ## Leases in their places -/

/-- Only members have bound leases. -/
def WovenCore.Seats (core : WovenCore) : Prop :=
  ∀ connection key, (connection, key) ∈ core.admissionLeases →
    key ∈ (core.connectionAt connection).memberships

/-- What holds of the leases between two operations. -/
structure WovenCore.Held (core : WovenCore) : Prop where
  sound : core.Sound
  permits : core.Permits
  seats : core.Seats

theorem WovenCore.Seats.seated (h : core.Seats) (op : Op) : Seated op core :=
  fun connection key hin => Or.inl (h connection key hin)

theorem PermitStep.seated (h : PermitStep op core core') (hseated : Seated op core) :
    Seated op core' := by
  intro c k hin
  rcases h.bound c k hin with hbefore | hbinds
  · rcases hseated c k hbefore with hmember | hbinds
    · exact Or.inl (h.seats c k hin hmember)
    · exact Or.inr hbinds
  · exact Or.inr hbinds

/-- What a change does to leases in their places, an operation does. -/
theorem Changes.permits {P : WovenCore → Prop} (h : Changes op core core') (hheld : core.Held)
    (hp : P core) (hstep : ∀ before after, before.Sound → before.Permits →
      PermitStep op before after → P before → P after) :
    core'.Sound ∧ core'.Permits ∧ Seated op core' ∧ P core' := by
  refine h.invariant (P := fun core => core.Sound ∧ core.Permits ∧ Seated op core ∧ P core) ?_
    ⟨hheld.sound, hheld.permits, hheld.seats.seated op, hp⟩
  rintro before after hchange ⟨hsound, hpermits, hseated, hbefore⟩
  have hpermit := hchange.permitStep hsound hpermits hseated
  exact ⟨hchange.sound hsound, hpermit.effect.permits hpermits, hpermit.seated hseated,
    hstep before after hsound hpermits hpermit hbefore⟩

/-- Whoever is bound to a lease by a join is a member afterwards. -/
theorem joinSessionWithAdmission_seats (h : core.Seats) :
    Ends (joinSessionWithAdmission connection key lease) core (fun _ core' => core'.Seats)
      fun _ core' => core'.Seats := by
  have hmember : ∀ c k, (c, k) ∈ (core.bindLease connection key lease).admissionLeases →
      (c = connection ∧ k = key) ∨ k ∈ (core.connectionAt c).memberships := by
    intro c k hin
    rcases OrderedMap.mem_insert.mp hin with heq | hbound
    · exact Or.inl (Prod.mk.inj heq)
    · exact Or.inr (h c k hbound)
  simp [joinSessionWithAdmission, h]
  intro _ _ _ principal hprincipal _ _
  have hlive := mem_connections_of_authenticated hprincipal
  cases hbound : core.admissionLeases[(connection, key)]? with
  | some bound => simp [h]
  | none =>
    simp [h]
    intro hpending controller hfound hactive hunshared
    apply joinSessionUncheckedAdmission_ends
    · intro hin c k hbind
      rcases hmember c k hbind with ⟨rfl, rfl⟩ | hbefore
      · exact hin
      · exact hbefore
    · intro _ _ _ _ _ _ c k hbind
      show k ∈ ((core.modifyConnection connection _).connectionAt c).memberships
      rw [connectionAt_modifyConnection]
      rcases hmember c k hbind with ⟨rfl, rfl⟩ | hbefore
      · rw [if_pos ⟨rfl, hlive⟩]
        exact OrderedSet.mem_insert.mpr (Or.inl rfl)
      · split
        · exact OrderedSet.mem_insert.mpr (Or.inr hbefore)
        · exact hbefore
    · exact fun _ => h

theorem WovenCore.Held.step (h : core.Held) (op : Op) : (step core op).Held := by
  obtain ⟨hsound, hpermits, hseated, -⟩ := (changes_step h.sound op).permits
    (P := fun _ => True) h trivial fun _ _ _ _ _ _ => trivial
  refine ⟨hsound, hpermits, ?_⟩
  intro c k hin
  rcases hseated c k hin with hmember | hbinds
  · exact hmember
  · cases op with
    | joinSessionWithAdmission connection key lease =>
      exact (joinSessionWithAdmission_seats h.seats).after c k hin
    | _ => exact hbinds.elim

theorem Empty.leaseAt (h : Empty core) (slot : LeaseSlot) : core.leaseAt slot = none := by
  rw [WovenCore.leaseAt, h.pendingAdmissions, h.admissionLeases]
  cases slot.place <;> simp

theorem Empty.held (h : Empty core) : core.Held := by
  refine ⟨h.sound, ⟨?_, ?_, ?_⟩, ?_⟩
  · intro key controller hfound
    rw [h.admissions] at hfound
    simp at hfound
  · intro slot lease hheld
    rw [h.leaseAt] at hheld
    cases hheld
  · intro slot other lease lease' hheld
    rw [h.leaseAt] at hheld
    cases hheld
  · intro c k hin
    rw [h.admissionLeases] at hin
    simp at hin

theorem Reachable.held (h : Reachable core) : core.Held := by
  refine Transition.Reachable.invariant ?_ ?_ h
  · exact fun core hinit => hinit.empty.held
  · exact fun core op hheld => hheld.step op

/-! ## Members with leases -/

/-- Every member of the session has a lease, or will not need one: the session has no admission and
the operation configures none. -/
def Covered (op : Op) (key : SessionKey) (core : WovenCore) : Prop :=
  ∀ c, key ∈ (core.connectionAt c).memberships → key ∈ core.admissions ∨ op.configures key →
    (c, key) ∈ core.admissionLeases

theorem PermitStep.covered (h : PermitStep op core core') (hcovered : Covered op key core) :
    Covered op key core' := by
  intro c hmember hconfigured
  have hbefore : key ∈ core.admissions ∨ op.configures key := by
    rcases hconfigured with hin | hop
    · exact h.configured key hin
    · exact Or.inr hop
  rcases h.covers c key hmember with ⟨hwas, hkept⟩ | ⟨hjoins, hbound⟩
  · exact hkept (hcovered c hwas hbefore)
  · rcases hbefore with hin | hop
    · exact hbound hin
    · cases op <;> first | exact hjoins.elim | exact hop.elim

/-- Where the step gives the session its admission, nobody is in the session yet. -/
def ConfiguresEmpty (key : SessionKey) (core : WovenCore) (op : Op) : Prop :=
  key ∉ core.admissions → key ∈ (step core op).admissions →
    (core.sessionAt key).members.isEmpty = true

instance {core : WovenCore} {op : Op} : Decidable (ConfiguresEmpty key core op) :=
  inferInstanceAs (Decidable (_ → _ → _))

/-- The members of the session have bound leases, once it has an admission. -/
def Leased (key : SessionKey) (core : WovenCore) : Prop :=
  ∀ c, key ∈ (core.connectionAt c).memberships → key ∈ core.admissions →
    (c, key) ∈ core.admissionLeases

theorem leased_step (h : core.Held) (hleased : Leased key core)
    (hempty : ConfiguresEmpty key core op) : Leased key (step core op) := by
  intro c hmember hadmission
  have hcovered : Covered op key core := by
    intro c hwas hconfigured
    by_cases hin : key ∈ core.admissions
    · exact hleased c hwas hin
    · have hmember := (h.sound.consistent.membership c key).mpr hwas
      rw [ExtTreeSet.isEmpty_iff.mp (hempty hin hadmission)] at hmember
      simp at hmember
  obtain ⟨-, -, -, hafter⟩ := (changes_step h.sound op).permits (P := Covered op key) h hcovered
    fun _ _ _ _ hstep hbefore => hstep.covered hbefore
  exact hafter c hmember (Or.inl hadmission)

/-- The session has no members but those with an active lease of their own, and no more of them
than its allocation. -/
structure Enforced (core : WovenCore) (key : SessionKey) (controller : AdmissionController) :
    Prop where
  leased : ∀ c, c ∈ (core.sessionAt key).members →
    ∃ lease principal, core.admissionLeases[(c, key)]? = some lease ∧
      (core.connectionAt c).authenticated = some principal ∧ lease.session = key ∧
      lease.principal = principal.principalId ∧ controller.hasActiveLease lease = true
  unshared : ∀ (c other : ConnectionId) (lease lease' : AdmissionLease),
    core.admissionLeases[(c, key)]? = some lease →
      core.admissionLeases[(other, key)]? = some lease' → lease.id = lease'.id → c = other
  bounded : (core.sessionAt key).members.size ≤ controller.allocatedCcu.toNat

theorem WovenCore.Held.enforced (h : core.Held) (hleased : Leased key core)
    {controller : AdmissionController} (hfound : core.admissions[key]? = some controller) :
    Enforced core key controller := by
  have hunshared : ∀ (c other : ConnectionId) (lease lease' : AdmissionLease),
      core.admissionLeases[(c, key)]? = some lease →
        core.admissionLeases[(other, key)]? = some lease' → lease.id = lease'.id → c = other := by
    intro c other lease lease' hheld hheld' hids
    have hslots := h.permits.distinct ⟨.bound, c, key⟩ ⟨.bound, other, key⟩ lease lease' hheld
      hheld' rfl hids
    exact congrArg LeaseSlot.connection hslots
  have hmembers : ∀ c, c ∈ (core.sessionAt key).members →
      ∃ lease principal, core.admissionLeases[(c, key)]? = some lease ∧
        (core.connectionAt c).authenticated = some principal ∧ lease.session = key ∧
        lease.principal = principal.principalId ∧ controller.hasActiveLease lease = true := by
    intro c hc
    obtain ⟨lease, hheld⟩ := OrderedMap.exists_of_mem (hleased c
      ((h.sound.consistent.membership c key).mp hc) (OrderedMap.mem_of_getElem? hfound))
    obtain ⟨hsession, ⟨owner, howner, hactive⟩, principal, hprincipal, hown⟩ :=
      h.permits.recorded ⟨.bound, c, key⟩ lease hheld
    obtain rfl := Option.some.inj (howner.symm.trans hfound)
    exact ⟨lease, principal, hheld, hprincipal, hsession, hown, hactive⟩
  refine ⟨hmembers, hunshared, ?_⟩
  -- Different members have different active leases.
  have hids : (core.sessionAt key).members.size ≤ controller.active.size := by
    rw [← OrderedSet.card_toFinset, ← OrderedMap.card_keySet]
    apply Finset.card_le_card_of_injOn fun c =>
      ((core.admissionLeases[(c, key)]?).map AdmissionLease.id).getD 0
    · intro c hc
      obtain ⟨lease, principal, hheld, -, -, -, hactive⟩ :=
        hmembers c (OrderedSet.mem_toFinset.mp hc)
      obtain ⟨-, record, hrecord, -⟩ := hasActiveLease_iff.mp hactive
      simp only [hheld, Option.map_some, Option.getD_some]
      exact OrderedMap.mem_keySet.mpr (OrderedMap.mem_of_getElem? hrecord)
    · intro c hc other hother heq
      obtain ⟨lease, principal, hheld, -⟩ := hmembers c (OrderedSet.mem_toFinset.mp hc)
      obtain ⟨lease', principal', hheld', -⟩ :=
        hmembers other (OrderedSet.mem_toFinset.mp hother)
      simp only [hheld, hheld', Option.map_some, Option.getD_some] at heq
      exact hunshared c other lease lease' hheld hheld' heq
  have hoccupancy := (h.permits.controller key controller hfound).2.allotted.occupancy
  unfold occupancy at hoccupancy
  omega

/-- Whatever operations are made, in whatever order and with whatever outcome: the members of a
session whose admission was configured while nobody was in it are bound to active leases of their
own, and are no more than the allocation. -/
theorem capacity_enforced (hinit : Initial core) (key : SessionKey) (ops : List Op)
    (hempty : Transition.Meets step (ConfiguresEmpty key) core ops)
    (controller : AdmissionController)
    (hfound : (Transition.run step core ops).admissions[key]? = some controller) :
    Enforced (Transition.run step core ops) key controller := by
  have hstart : core.Held ∧ Leased key core := by
    refine ⟨hinit.empty.held, fun c _ hin => ?_⟩
    rw [hinit.empty.admissions] at hin
    simp at hin
  have hrun := Transition.always_of_meets (P := fun core => core.Held ∧ Leased key core)
    (fun core op h hc => ⟨h.1.step op, leased_step h.1 h.2 hc⟩) hstart hempty
  exact hrun.last.1.enforced hrun.last.2 hfound

namespace Sample

/-- A connection asks to be admitted to the session. -/
def asks (connection : ConnectionId) (key : IdempotencyKey) : Op :=
  .requestSessionAdmissionAt connection session key 0

/-- The lease of a number in the session. -/
def permit (id : Nat) (principal : PrincipalId) : AdmissionLease :=
  { id, session, principal, resumeToken := id }

/-- A session with two permits, and two connections. -/
def gated : List Op :=
  [ .provisionSession session,
    .configureSessionAdmission session { nodeId := ⟨1⟩, session } {}
      { allocatedCcu := 2, revision := 1 },
    .transportConnected, .authenticate ⟨1⟩ ⟨"a"⟩, .transportConnected,
    .authenticate ⟨2⟩ ⟨"bb"⟩ ]

/-- Both connections are admitted and come in. -/
def admitted : List Op :=
  gated ++ [asks ⟨1⟩ firstKey, asks ⟨2⟩ secondKey,
    .joinSessionWithAdmission ⟨1⟩ session (permit 1 ⟨1⟩),
    .joinSessionWithAdmission ⟨2⟩ session (permit 2 ⟨2⟩)]

end Sample

theorem capacity_enforced_admitted :
    let core := Transition.run step Sample.core Sample.admitted
    (core.sessionAt Sample.session).members.size = 2 ∧
      ∃ controller, core.admissions[Sample.session]? = some controller ∧
        Enforced core Sample.session controller := by
  refine ⟨by decide +kernel, ?_⟩
  have hin : Sample.session ∈ (Transition.run step Sample.core Sample.admitted).admissions := by
    decide +kernel
  obtain ⟨controller, hfound⟩ := OrderedMap.exists_of_mem hin
  exact ⟨controller, hfound, capacity_enforced Sample.initial Sample.session Sample.admitted
    (by decide +kernel) controller hfound⟩

end Signalweave
