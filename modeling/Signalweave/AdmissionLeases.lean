import Signalweave.AdmissionMeters

/-!
# The life of a lease

A lease is granted under a new id, given up for a reservation, revived for its holder and closed.
Every grant is closed at most once.
-/

open Std

namespace Signalweave

namespace AdmissionController

variable {controller controller' : AdmissionController} {op : AdmissionOp} {now : Instant}

/-- The lease that an operation returns. -/
def grants (controller : AdmissionController) : AdmissionOp → Option AdmissionLease
  | .requestJoin request now =>
    match (controller.requestJoinAt request now).1 with
    | .admitted lease => some lease
    | _ => none
  | .claimOffer id now =>
    match (controller.claimOfferAt id now).1 with
    | .ok lease => some lease
    | .error _ => none
  | .resume token principal now => (controller.resumeAt token principal now).1
  | _ => none

/-- The lease that an operation closes. -/
def closes (controller : AdmissionController) : AdmissionOp → Option Nat
  | .release lease _ _ => if controller.hasActiveLease lease then some lease.id else none
  | _ => none

/-- No reservation comes or changes. -/
def Shrinks (controller controller' : AdmissionController) : Prop :=
  ∀ (id : Nat) (reservation : Reservation), controller'.reservations[id]? = some reservation →
    controller.reservations[id]? = some reservation

/-- What an operation does to the lease tables when it returns one lease and closes another. -/
inductive LeaseEffect (controller : AdmissionController) :
    Option AdmissionLease → Option Nat → AdmissionController → Prop
  | idle (after : AdmissionController) (active : after.active = controller.active)
      (nextLease : after.nextLease = controller.nextLease) (shrinks : Shrinks controller after) :
      LeaseEffect controller none none after
  | issue (lease : AdmissionLease) (record : ActiveLease) (after : AdmissionController)
      (id : lease.id = controller.nextLease) (token : lease.resumeToken = lease.id)
      (own : record.principal = lease.principal)
      (active : after.active = controller.active.insert lease.id record)
      (nextLease : after.nextLease = controller.nextLease + 1)
      (shrinks : Shrinks controller after) : LeaseEffect controller (some lease) none after
  | revive (lease : AdmissionLease) (record : ActiveLease) (reservation : Reservation)
      (after : AdmissionController) (held : controller.reservations[lease.id]? = some reservation)
      (holder : reservation.principal = lease.principal) (token : lease.resumeToken = lease.id)
      (own : record.principal = lease.principal)
      (active : after.active = controller.active.insert lease.id record)
      (nextLease : after.nextLease = controller.nextLease)
      (shrinks : Shrinks controller after) : LeaseEffect controller (some lease) none after
  | close (id : Nat) (removed : ActiveLease) (after : AdmissionController)
      (found : controller.active[id]? = some removed)
      (active : after.active = controller.active.erase id)
      (nextLease : after.nextLease = controller.nextLease)
      (reservations : ∀ (other : Nat) (reservation : Reservation),
        after.reservations[other]? = some reservation →
          controller.reservations[other]? = some reservation ∨
            other = id ∧ reservation.principal = removed.principal) :
      LeaseEffect controller none (some id) after

theorem expireAt_lapses : (controller.expireAt now).active = controller.active ∧
    (controller.expireAt now).nextLease = controller.nextLease ∧
      Shrinks controller (controller.expireAt now) := by
  have hpending := @applyPending_sameLeases (controller.expireEntries now)
  have hpromoted := @promoteAt_sameLeases (controller.expireEntries now).applyPending now
  refine ⟨hpromoted.active.trans hpending.active, hpromoted.nextLease.trans hpending.nextLease, ?_⟩
  intro id reservation hfound
  have hsame : (controller.expireAt now).reservations =
      (controller.expireEntries now).reservations :=
    hpromoted.reservations.trans hpending.reservations
  rw [hsame] at hfound
  exact (OrderedMap.getElem?_filter.mp hfound).1

/-- After its expiry an operation that leaves the leases alone. -/
theorem LeaseEffect.lapse {after : AdmissionController}
    (hactive : after.active = (controller.expireAt now).active)
    (hnext : after.nextLease = (controller.expireAt now).nextLease)
    (hreservations : after.reservations = (controller.expireAt now).reservations) :
    LeaseEffect controller none none after := by
  obtain ⟨hactive', hnext', hshrinks⟩ := @expireAt_lapses controller now
  refine .idle after (hactive.trans hactive') (hnext.trans hnext') ?_
  intro id reservation hfound
  rw [hreservations] at hfound
  exact hshrinks id reservation hfound

/-- A lease is issued under the next id. -/
theorem LeaseEffect.admitAt {middle : AdmissionController} {principal : PrincipalId}
    (hactive : middle.active = controller.active) (hnext : middle.nextLease = controller.nextLease)
    (hshrinks : Shrinks controller middle) :
    LeaseEffect controller (some (middle.admitAt principal now).1) none
      (middle.admitAt principal now).2 := by
  refine .issue _ { principal, started := now, usageHandle := middle.counters.nextHandle } _ hnext
    rfl rfl ?_ (congrArg (· + 1) hnext) hshrinks
  rw [← hactive]
  rfl

theorem requestJoinAt_leaseEffect (request : JoinRequest) :
    LeaseEffect controller (controller.grants (.requestJoin request now)) none
      (controller.requestJoinAt request now).2 := by
  have hdecides := @decideJoin_decides (controller.countAttempt.expireAt now) now request
  obtain ⟨hactive, hnext, hshrinks⟩ := @expireAt_lapses controller.countAttempt now
  rw [grants]
  generalize hresult : controller.requestJoinAt request now = result
  rw [show (controller.countAttempt.expireAt now).decideJoin request now = result from hresult]
    at hdecides
  cases hdecides with
  | refused decision count refusal =>
    cases decision with
    | admitted lease => exact absurd rfl (refusal lease)
    | _ => exact .idle _ hactive hnext hshrinks
  | held ticket => exact .idle _ hactive hnext hshrinks
  | admitted count room => exact .admitAt hactive hnext hshrinks
  | queued count key reached => exact .idle _ hactive hnext hshrinks

theorem claimOfferAt_leaseEffect (id : QueueTicketId) :
    LeaseEffect controller (controller.grants (.claimOffer id now)) none
      (controller.claimOfferAt id now).2 := by
  obtain ⟨hactive, hnext, hshrinks⟩ := @expireAt_lapses controller now
  rw [grants, claimOfferAt]
  dsimp only
  cases hentry : (controller.expireAt now).tickets[id]? with
  | none => exact .idle _ hactive hnext hshrinks
  | some entry =>
    dsimp only
    cases hstate : entry.state with
    | offered expires =>
      exact @LeaseEffect.admitAt controller now ((controller.expireAt now).claimTicket id entry)
        entry.ticket.principal hactive hnext hshrinks
    | _ => exact .idle _ hactive hnext hshrinks

theorem resumeAt_leaseEffect (token : ResumeToken) (principal : PrincipalId) :
    LeaseEffect controller (controller.grants (.resume token principal now)) none
      (controller.resumeAt token principal now).2 := by
  obtain ⟨hactive, hnext, hshrinks⟩ := @expireAt_lapses controller now
  rw [grants, resumeAt]
  dsimp only
  cases hfound : (controller.expireAt now).reservations[token]? with
  | none => exact .idle _ hactive hnext hshrinks
  | some reservation =>
    dsimp only
    by_cases hother : reservation.principal ≠ principal
    · rw [if_pos hother]
      exact .idle _ hactive hnext hshrinks
    · rw [if_neg hother]
      refine .revive _ { principal, started := now, usageHandle := (controller.expireAt
        now).counters.nextHandle } reservation _ (hshrinks token reservation hfound)
        (not_not.mp hother) rfl rfl ?_ hnext ?_
      · rw [← hactive]
        rfl
      · intro other found hin
        rw [OrderedMap.getElem?_erase] at hin
        exact hshrinks other found (Option.ite_none_left_eq_some.mp hin).2

theorem releaseAt_leaseEffect (lease : AdmissionLease) (reason : ReleaseReason) :
    LeaseEffect controller none (controller.closes (.release lease reason now))
      (controller.releaseAt lease reason now) := by
  rw [releaseAt_eq, releasedLease, closes]
  cases hactive : controller.hasActiveLease lease with
  | false => exact .idle _ rfl rfl fun _ _ hfound => hfound
  | true =>
    obtain ⟨removed, hfound, hown⟩ : ∃ removed, controller.active[lease.id]? = some removed ∧
        removed.principal = lease.principal := by
      rw [hasActiveLease, Bool.and_eq_true, Option.any_eq_true] at hactive
      obtain ⟨-, removed, hfound, hown⟩ := hactive
      exact ⟨removed, hfound, by simpa using hown⟩
    rw [if_pos rfl, if_pos rfl, hfound]
    dsimp only
    have hpending := @applyPending_sameLeases
      (controller.removeLease lease removed reason now)
    have hpromoted := @promoteAt_sameLeases
      (controller.removeLease lease removed reason now).applyPending now
    refine .close lease.id removed _ hfound ?_ ?_ ?_
    · rw [hpromoted.active, hpending.active]
      unfold removeLease
      dsimp only
      split <;> rfl
    · rw [hpromoted.nextLease, hpending.nextLease, removeLease_same]
    · intro other reservation hin
      rw [hpromoted.reservations, hpending.reservations] at hin
      unfold removeLease at hin
      dsimp only at hin
      split at hin
      · rw [OrderedMap.getElem?_insert] at hin
        split at hin
        · rename_i hid
          obtain rfl := Option.some.inj hin
          exact Or.inr ⟨hid, hown.symm⟩
        · exact Or.inl hin
      · exact Or.inl hin

theorem apply_leaseEffect (controller : AdmissionController) (op : AdmissionOp) :
    LeaseEffect controller (controller.grants op) (controller.closes op) (controller.apply op) := by
  cases op with
  | requestJoin request now => exact requestJoinAt_leaseEffect request
  | queueStatus id now => exact @LeaseEffect.lapse controller now _ rfl rfl rfl
  | heartbeat id now =>
    show LeaseEffect controller none none (controller.heartbeatAt id now).2
    unfold heartbeatAt
    dsimp only
    split <;> exact @LeaseEffect.lapse controller now _ rfl rfl rfl
  | cancel id now =>
    show LeaseEffect controller none none (controller.cancelAt id now).2
    unfold cancelAt
    dsimp only
    cases hentry : (controller.expireAt now).tickets[id]? with
    | none => exact @LeaseEffect.lapse controller now _ rfl rfl rfl
    | some entry =>
      dsimp only
      have hpromoted := @promoteAt_sameLeases ((controller.expireAt now).cancelTicket id entry) now
      cases hstate : entry.state with
      | waiting => exact .lapse hpromoted.active hpromoted.nextLease hpromoted.reservations
      | offered expires => exact .lapse hpromoted.active hpromoted.nextLease hpromoted.reservations
      | _ => exact @LeaseEffect.lapse controller now _ rfl rfl rfl
  | claimOffer id now => exact claimOfferAt_leaseEffect id
  | release lease reason now => exact releaseAt_leaseEffect lease reason
  | resume token principal now => exact resumeAt_leaseEffect token principal
  | applyCapacity update now =>
    show LeaseEffect controller none none (controller.applyCapacityAt update now).2
    rw [applyCapacityAt_eq]
    split_ifs
    · exact .idle _ rfl rfl fun _ _ hfound => hfound
    · exact .idle _ rfl rfl fun _ _ hfound => hfound
    · have hpromoted := @promoteAt_sameLeases { controller.acceptUpdate update with
        allocatedCcu := update.allocatedCcu, pendingTarget := none } now
      refine .idle _ hpromoted.active hpromoted.nextLease ?_
      intro id reservation hfound
      rw [hpromoted.reservations] at hfound
      exact hfound

/-- A lease that is not active is not released. -/
theorem releaseAt_of_inactive {lease : AdmissionLease} (reason : ReleaseReason) (now : Instant)
    (h : controller.hasActiveLease lease = false) :
    controller.releaseAt lease reason now = controller := by
  rw [releaseAt_eq, releasedLease, h]
  rfl

/-- Once it has been released a lease is not active. -/
theorem hasActiveLease_releaseAt (lease : AdmissionLease) (reason : ReleaseReason)
    (now : Instant) : (controller.releaseAt lease reason now).hasActiveLease lease = false := by
  cases hactive : controller.hasActiveLease lease with
  | false =>
    rw [releaseAt_of_inactive reason now hactive]
    exact hactive
  | true =>
    have heffect := @releaseAt_leaseEffect controller now lease reason
    rw [closes, hactive, if_pos rfl] at heffect
    cases heffect with
    | close _ removed _ found active nextLease reservations =>
      rw [hasActiveLease, active, OrderedMap.getElem?_erase, if_pos rfl, Option.any_none,
        Bool.and_false]

/-- A reservation is revived for its holder, and stays for everybody else. -/
theorem resumeAt_of_other {token : ResumeToken} {principal : PrincipalId}
    {reservation : Reservation}
    (hfound : (controller.expireAt now).reservations[token]? = some reservation)
    (hother : reservation.principal ≠ principal) :
    controller.resumeAt token principal now = (none, controller.expireAt now) := by
  unfold resumeAt
  dsimp only
  rw [hfound]
  dsimp only
  rw [if_pos hother]

theorem resumeAt_holder {token : ResumeToken} {principal : PrincipalId} {lease : AdmissionLease}
    (h : (controller.resumeAt token principal now).1 = some lease) :
    lease.id = token ∧ lease.principal = principal ∧
      ∃ reservation, controller.reservations[token]? = some reservation ∧
        reservation.principal = principal := by
  obtain ⟨-, -, hshrinks⟩ := @expireAt_lapses controller now
  unfold resumeAt at h
  dsimp only at h
  cases hfound : (controller.expireAt now).reservations[token]? with
  | none =>
    rw [hfound] at h
    cases h
  | some reservation =>
    rw [hfound] at h
    dsimp only at h
    by_cases hother : reservation.principal ≠ principal
    · rw [if_pos hother] at h
      cases h
    · rw [if_neg hother] at h
      obtain rfl := Option.some.inj h
      exact ⟨rfl, rfl, reservation, hshrinks token reservation hfound, not_not.mp hother⟩

end AdmissionController

/-- A controller beside the leases it has granted, each with its principal, and those it has
closed. -/
structure LeaseHistory where
  controller : AdmissionController
  granted : List (Nat × PrincipalId)
  released : List Nat

namespace LeaseHistory

open AdmissionController

variable {history : LeaseHistory}

/-- An operation on the controller, with the leases it grants and takes back. -/
def step (history : LeaseHistory) (op : AdmissionOp) : LeaseHistory :=
  { controller := history.controller.apply op
    granted := history.granted ++
      ((history.controller.grants op).map fun lease => (lease.id, lease.principal)).toList
    released := history.released ++ (history.controller.closes op).toList }

/-- Every lease in the tables has been granted to its principal, an id has one principal, and each
grant is closed at most once: it is closed, or the lease is active. -/
structure Accounted (history : LeaseHistory) : Prop where
  active : ∀ (id : Nat) (lease : ActiveLease), history.controller.active[id]? = some lease →
    (id, lease.principal) ∈ history.granted
  reserved : ∀ (id : Nat) (reservation : Reservation),
    history.controller.reservations[id]? = some reservation →
      (id, reservation.principal) ∈ history.granted
  owner : ∀ id principal other, (id, principal) ∈ history.granted →
    (id, other) ∈ history.granted → principal = other
  issued : ∀ id principal, (id, principal) ∈ history.granted → id < history.controller.nextLease
  balance : ∀ id, (history.granted.map Prod.fst).count id = history.released.count id +
    if id ∈ history.controller.active then 1 else 0

section

variable {after : AdmissionController}

theorem Accounted.idle (h : history.Accounted) (active : after.active = history.controller.active)
    (nextLease : after.nextLease = history.controller.nextLease)
    (shrinks : Shrinks history.controller after) :
    Accounted { history with controller := after } where
  active := by
    rw [active]
    exact h.active
  reserved id reservation hfound := h.reserved id reservation (shrinks id reservation hfound)
  owner := h.owner
  issued := by
    rw [nextLease]
    exact h.issued
  balance := by
    rw [active]
    exact h.balance

/-- A lease may be granted, for the first time or again, that is not active and that nobody else has
been granted. -/
theorem Accounted.grant (h : history.Accounted) {lease : AdmissionLease} {record : ActiveLease}
    (hinactive : lease.id ∉ history.controller.active)
    (hsole : ∀ other, (lease.id, other) ∈ history.granted → other = lease.principal)
    (own : record.principal = lease.principal)
    (active : after.active = history.controller.active.insert lease.id record)
    (hnumbered : lease.id < after.nextLease)
    (hnext : history.controller.nextLease ≤ after.nextLease)
    (shrinks : Shrinks history.controller after) :
    Accounted { history with
      controller := after, granted := history.granted ++ [(lease.id, lease.principal)] } where
  active other found hfound := by
    rw [active, OrderedMap.getElem?_insert] at hfound
    split at hfound
    · rename_i hother
      obtain rfl := Option.some.inj hfound
      rw [hother, own]
      exact List.mem_append_right _ (List.mem_singleton.mpr rfl)
    · exact List.mem_append_left _ (h.active other found hfound)
  reserved other reservation hfound :=
    List.mem_append_left _ (h.reserved other reservation (shrinks other reservation hfound))
  owner other principal second hfirst hsecond := by
    rw [List.mem_append, List.mem_singleton, Prod.mk.injEq] at hfirst hsecond
    rcases hfirst with hfirst | ⟨rfl, rfl⟩
    · rcases hsecond with hsecond | ⟨rfl, rfl⟩
      · exact h.owner other principal second hfirst hsecond
      · exact hsole principal hfirst
    · rcases hsecond with hsecond | ⟨-, rfl⟩
      · exact (hsole second hsecond).symm
      · rfl
  issued other principal hin := by
    rw [List.mem_append, List.mem_singleton, Prod.mk.injEq] at hin
    rcases hin with hin | ⟨rfl, -⟩
    · exact Nat.lt_of_lt_of_le (h.issued other principal hin) hnext
    · exact hnumbered
  balance other := by
    have hbefore := h.balance other
    rw [active, List.map_append, List.count_append, hbefore]
    simp only [List.map_cons, List.map_nil, List.count_singleton, OrderedMap.mem_insert,
      beq_iff_eq]
    by_cases hother : other = lease.id
    · subst hother
      simp [hinactive]
    · simp [hother, Ne.symm hother]

theorem Accounted.close (h : history.Accounted) {id : Nat} {removed : ActiveLease}
    (found : history.controller.active[id]? = some removed)
    (active : after.active = history.controller.active.erase id)
    (nextLease : after.nextLease = history.controller.nextLease)
    (reservations : ∀ (other : Nat) (reservation : Reservation),
      after.reservations[other]? = some reservation →
        history.controller.reservations[other]? = some reservation ∨
          other = id ∧ reservation.principal = removed.principal) :
    Accounted { history with controller := after, released := history.released ++ [id] } where
  active other lease hlease := by
    rw [active, OrderedMap.getElem?_erase] at hlease
    exact h.active other lease (Option.ite_none_left_eq_some.mp hlease).2
  reserved other reservation hfound := by
    rcases reservations other reservation hfound with hold | ⟨rfl, hprincipal⟩
    · exact h.reserved other reservation hold
    · rw [hprincipal]
      exact h.active other removed found
  owner := h.owner
  issued := by
    rw [nextLease]
    exact h.issued
  balance other := by
    have hin := OrderedMap.mem_of_getElem? found
    have hbefore := h.balance other
    rw [active, List.count_append, hbefore]
    simp only [List.count_singleton, OrderedMap.mem_erase, beq_iff_eq]
    by_cases hother : other = id
    · subst hother
      simp [hin]
    · simp [hother, Ne.symm hother]

end

theorem Accounted.step (h : history.Accounted) (hleased : history.controller.Leased)
    (op : AdmissionOp) : (history.step op).Accounted := by
  have heffect := apply_leaseEffect history.controller op
  unfold LeaseHistory.step
  generalize history.controller.grants op = grant at heffect ⊢
  generalize history.controller.closes op = closed at heffect ⊢
  generalize history.controller.apply op = after at heffect ⊢
  cases heffect with
  | idle _ active nextLease shrinks =>
    rw [Option.map_none, Option.toList_none, Option.toList_none, List.append_nil, List.append_nil]
    exact h.idle active nextLease shrinks
  | issue lease record _ id token own active nextLease shrinks =>
    -- The number of the lease is the next one, so that it is new.
    have hinactive : lease.id ∉ history.controller.active := by
      intro hin
      have hlt := hleased.active lease.id hin
      rw [id] at hlt
      exact Nat.lt_irrefl _ hlt
    have hsole : ∀ other, (lease.id, other) ∈ history.granted → other = lease.principal := by
      intro other hin
      have hlt := h.issued lease.id other hin
      rw [id] at hlt
      exact absurd hlt (Nat.lt_irrefl _)
    rw [Option.map_some, Option.toList_some, Option.toList_none, List.append_nil]
    exact h.grant hinactive hsole own active (by omega) (by omega) shrinks
  | revive lease record reservation _ held holder token own active nextLease shrinks =>
    -- The lease was granted before, to the same principal.
    have hknown := h.reserved lease.id reservation held
    rw [holder] at hknown
    have hinactive : lease.id ∉ history.controller.active :=
      fun hin => hleased.disjoint lease.id hin (OrderedMap.mem_of_getElem? held)
    have hsole : ∀ other, (lease.id, other) ∈ history.granted → other = lease.principal :=
      fun other hin => h.owner lease.id other lease.principal hin hknown
    have hnumbered := h.issued lease.id lease.principal hknown
    rw [Option.map_some, Option.toList_some, Option.toList_none, List.append_nil]
    exact h.grant hinactive hsole own active (by omega) (by omega) shrinks
  | close id removed _ found active nextLease reservations =>
    rw [Option.map_none, Option.toList_none, Option.toList_some, List.append_nil]
    exact h.close found active nextLease reservations

/-- What every history has. -/
structure Sound (history : LeaseHistory) : Prop where
  orderly : history.controller.Orderly
  metered : history.controller.Metered
  accounted : history.Accounted

theorem Sound.step (h : history.Sound) (op : AdmissionOp) : (history.step op).Sound :=
  ⟨(apply_serves op h.orderly).orderly, h.metered.step op, h.accounted.step h.metered.leased op⟩

theorem new_sound (metadata counted : AdmissionMetadata) (policy : QueuePolicy)
    (capacity : CapacityUpdate) :
    Sound ⟨.new metadata policy capacity { metadata := counted }, [], []⟩ := by
  refine ⟨new_orderly _ _ _ _, new_metered _ _ _ _, ?_⟩
  constructor
  · intro id lease hlease
    simp [new] at hlease
  · intro id reservation hreservation
    simp [new] at hreservation
  · intro id principal other hin
    cases hin
  · intro id principal hin
    cases hin
  · intro id
    simp [new]

/-- In every state of a run the lease ids are in order, leases and open connections belong
together, the gauges are exact as far as 32 bits go, every grant is closed at most once, and only
its holder gets a lease back. -/
theorem run_leases (metadata counted : AdmissionMetadata) (policy : QueuePolicy)
    (capacity : CapacityUpdate) (ops : List AdmissionOp) :
    let history := Transition.run LeaseHistory.step
      ⟨.new metadata policy capacity { metadata := counted }, [], []⟩ ops
    let controller := history.controller
    controller.Leased ∧ controller.Connected ∧
      controller.counters.activeCcu.toNat = controller.active.size ∧
      controller.counters.queueDepth.toNat = min controller.waitingTickets (2 ^ 32 - 1) ∧
      (∀ id, (history.granted.map Prod.fst).count id = history.released.count id +
        if id ∈ controller.active then 1 else 0) ∧
      (∀ lease reason now, controller.hasActiveLease lease = false →
        controller.releaseAt lease reason now = controller) ∧
      (∀ lease reason now,
        (controller.releaseAt lease reason now).hasActiveLease lease = false) ∧
      (∀ token principal now lease, (controller.resumeAt token principal now).1 = some lease →
        lease.id = token ∧ lease.principal = principal ∧
          ∀ other, (token, other) ∈ history.granted ↔ other = principal) ∧
      ∀ token principal now reservation,
        (controller.expireAt now).reservations[token]? = some reservation →
          reservation.principal ≠ principal →
            controller.resumeAt token principal now = (none, controller.expireAt now) := by
  intro history controller
  have hsound : history.Sound :=
    Transition.run_invariant (P := Sound) (fun _ op h => h.step op) (new_sound _ _ _ _) ops
  obtain ⟨hactive, hqueue⟩ := hsound.metered.gauged.exact hsound.orderly
  refine ⟨hsound.metered.leased, hsound.metered.connected, hactive, hqueue,
    hsound.accounted.balance, ?_, ?_, ?_, ?_⟩
  · exact fun lease reason now h => releaseAt_of_inactive reason now h
  · exact fun lease reason now => hasActiveLease_releaseAt lease reason now
  · intro token principal now lease hresumed
    obtain ⟨hid, hprincipal, reservation, hfound, hholder⟩ := resumeAt_holder hresumed
    have hgranted := hsound.accounted.reserved token reservation hfound
    rw [hholder] at hgranted
    refine ⟨hid, hprincipal, fun other => ⟨?_, ?_⟩⟩
    · intro hother
      exact hsound.accounted.owner token other principal hother hgranted
    · intro heq
      rw [heq]
      exact hgranted
  · exact fun token principal now reservation hfound hother => resumeAt_of_other hfound hother

end LeaseHistory

namespace Sample

theorem digits_size (bits : List Bool) :
    (String.ofList (bits.map fun bit => if bit then '1' else '0')).utf8ByteSize = bits.length := by
  induction bits with
  | nil => rfl
  | cons bit rest ih =>
    have hone : (String.ofList [if bit then '1' else '0']).utf8ByteSize = 1 := by
      cases bit <;> decide +kernel
    rw [List.map_cons, ← List.singleton_append, String.ofList_append, String.utf8ByteSize_append,
      ih, hone, List.length_cons, Nat.add_comm]

/-- A key of forty binary digits. -/
def numberedKey (n : Nat) : IdempotencyKey where
  key := String.ofList (((List.range 40).map n.testBit).map fun bit => if bit then '1' else '0')
  bounded := by
    rw [digits_size, List.length_map, List.length_range]
    decide

/-- One permit, and a queue deeper than the gauge can show. -/
def deepQueue : AdmissionController :=
  .new { nodeId := ⟨1⟩, session := ⟨⟨1⟩, ⟨1⟩⟩ } { maxDepth := 2 ^ 33 }
    { allocatedCcu := 1, revision := 1 } { metadata := { nodeId := ⟨1⟩, session := ⟨⟨1⟩, ⟨1⟩⟩ } }

/-- A request of the player with this number. -/
def numberedJoin (n : Nat) : AdmissionOp :=
  .requestJoin { principal := ⟨n⟩, idempotencyKey := some (numberedKey n) } 0

theorem numberedKey_injective {n m : Nat} (hn : n < 2 ^ 40) (hm : m < 2 ^ 40)
    (h : numberedKey n = numberedKey m) : n = m := by
  have hlist := String.ofList_injective (congrArg IdempotencyKey.key h)
  have hbits : (List.range 40).map n.testBit = (List.range 40).map m.testBit := by
    refine List.map_injective_iff.mpr ?_ hlist
    intro first second hsame
    revert hsame
    cases first <;> cases second <;> decide
  apply Nat.eq_of_testBit_eq
  intro i
  by_cases hi : i < 40
  · exact List.map_inj_left.mp hbits i (List.mem_range.mpr hi)
  · have hpow : 2 ^ 40 ≤ 2 ^ i := Nat.pow_le_pow_right (by decide) (Nat.le_of_not_lt hi)
    rw [Nat.testBit_lt_two_pow (Nat.lt_of_lt_of_le hn hpow),
      Nat.testBit_lt_two_pow (Nat.lt_of_lt_of_le hm hpow)]

/-- After so many requests one player is in and the others wait. -/
structure Crowded (n : Nat) (controller : AdmissionController) : Prop where
  policy : controller.policy = { maxDepth := 2 ^ 33 }
  allocated : controller.allocatedCcu = 1
  pending : controller.pendingTarget = none
  active : controller.active.size = 1
  reservations : controller.reservations = ∅
  tickets : ∀ (id : QueueTicketId) (entry : TicketEntry), controller.tickets[id]? = some entry →
    entry.state = .waiting ∧ entry.created = 0 ∧ entry.lastHeartbeat = 0 ∧
      ∃ k < n, entry.ticket.principal = ⟨k⟩ ∧ entry.ticket.idempotencyKey = numberedKey k
  waiting : controller.waiting.length + 1 = n

section Crowd

open AdmissionController

variable {n : Nat} {controller : AdmissionController}

theorem crowded_one : Crowded 1 (deepQueue.apply (numberedJoin 0)) := by
  have hnone : (deepQueue.apply (numberedJoin 0)).tickets = ∅ :=
    ExtTreeMap.eq_empty_iff_size_eq_zero.mpr (by decide +kernel)
  refine ⟨rfl, rfl, rfl, by decide +kernel,
    ExtTreeMap.eq_empty_iff_size_eq_zero.mpr (by decide +kernel), ?_, by decide +kernel⟩
  intro id entry hentry
  rw [hnone] at hentry
  simp at hentry

theorem Crowded.offeredCount (h : Crowded n controller) : controller.offeredCount = 0 := by
  rw [AdmissionController.offeredCount, List.length_eq_zero_iff, List.filter_eq_nil_iff]
  intro entry hin
  have hstate := (h.tickets entry.1 entry.2
    (ExtTreeMap.mem_toList_iff_getElem?_eq_some.mp hin)).1
  rw [hstate]
  exact Bool.false_ne_true

theorem Crowded.occupied (h : Crowded n controller) : controller.occupied = 1 := by
  rw [AdmissionController.occupied, h.active, h.reservations, h.offeredCount]
  rfl

theorem Crowded.not_hasRoom (h : Crowded n controller) : ¬ controller.HasRoom := by
  intro hroom
  have hlt := hroom.2
  rw [h.occupied, admissionLimit, h.pending, Option.getD_none, h.allocated] at hlt
  exact absurd hlt (by decide)

/-- At the time at which everybody came nothing expires. -/
theorem Crowded.lapse (h : Crowded n controller) (hqueued : controller.Queued) :
    Crowded n (controller.countAttempt.expireAt 0) := by
  have htickets : ∀ id : QueueTicketId,
      (controller.countAttempt.expireEntries 0).tickets[id]? = controller.tickets[id]? := by
    intro id
    rw [getElem?_expireEntries]
    show (controller.tickets[id]?).map _ = _
    cases hentry : controller.tickets[id]? with
    | none => rfl
    | some entry =>
      obtain ⟨hstate, hcreated, hheartbeat, -⟩ := h.tickets id entry hentry
      rw [Option.map_some, expireEntry, hstate, hcreated, hheartbeat,
        show controller.countAttempt.policy = { maxDepth := 2 ^ 33 } from h.policy]
      rfl
  have hwaiting : (controller.countAttempt.expireEntries 0).waiting = controller.waiting := by
    apply List.filter_eq_self.mpr
    intro id hid
    have hlisted := (hqueued.listed id).mp hid
    rw [isWaiting, ← htickets id] at hlisted
    exact hlisted
  have hreservations : (controller.countAttempt.expireEntries 0).reservations = ∅ := by
    show controller.reservations.filter _ = ∅
    rw [h.reservations]
    rfl
  have hmiddle : Crowded n (controller.countAttempt.expireEntries 0) := by
    refine ⟨h.policy, h.allocated, h.pending, h.active, hreservations, ?_, ?_⟩
    · intro id entry hentry
      rw [htickets] at hentry
      exact h.tickets id entry hentry
    · rw [hwaiting]
      exact h.waiting
  have hsame : (controller.countAttempt.expireEntries 0).applyPending =
      controller.countAttempt.expireEntries 0 := by
    rw [applyPending, hmiddle.pending]
  rw [expireAt, hsame, promoteAt_of_full hmiddle.not_hasRoom]
  exact ⟨hmiddle.policy, hmiddle.allocated, hmiddle.pending, hmiddle.active, hmiddle.reservations,
    hmiddle.tickets, hmiddle.waiting⟩

/-- One more player waits. -/
theorem Crowded.join (h : Crowded n controller) (horderly : controller.Orderly)
    (hticketed : controller.Ticketed) (hn : n < 2 ^ 33) :
    Crowded (n + 1) (controller.apply (numberedJoin n)) := by
  have hlapsed := h.lapse horderly.queued
  have hcounted : controller.countAttempt.Orderly := horderly.setCounters _
  have hqueued := (expireAt_serves 0 hcounted).orderly.queued
  have hindex : (controller.countAttempt.expireAt 0).Ticketed := by
    have hbefore : controller.countAttempt.Ticketed :=
      ⟨hticketed.numbered, ⟨hticketed.index.filed, hticketed.index.alone, hticketed.index.own⟩⟩
    exact (hbefore.step (.queueStatus 0 0)).1
  have happly : controller.apply (numberedJoin n) = ((controller.countAttempt.expireAt 0).decideJoin
      { principal := ⟨n⟩, idempotencyKey := some (numberedKey n) } 0).2 := rfl
  rw [happly]
  generalize controller.countAttempt.expireAt 0 = lapsed at hlapsed hqueued hindex ⊢
  have hlimit : lapsed.admissionLimit = 1 := by
    rw [admissionLimit, hlapsed.pending, Option.getD_none, hlapsed.allocated]
  have hunfiled : lapsed.liveTicket (numberedKey n) = none := by
    cases hticket : lapsed.liveTicket (numberedKey n) with
    | none => rfl
    | some ticket =>
      have hfiled : ∃ id entry, lapsed.LiveAt id entry ∧
          entry.ticket.idempotencyKey = numberedKey n := by
        unfold liveTicket at hticket
        split at hticket
        · rename_i entry hentry
          obtain ⟨id, hid, -⟩ := Option.bind_eq_some_iff.mp hentry
          obtain ⟨found, hfound, hkey⟩ := (hindex.index.filed _ id).mp hid
          exact ⟨id, found, hfound, hkey⟩
        · cases hticket
      obtain ⟨id, entry, hlive, hkey⟩ := hfiled
      obtain ⟨-, -, -, k, hk, -, hsame⟩ := hlapsed.tickets id entry hlive.1
      have heq := numberedKey_injective (by omega) (by omega) (hsame.symm.trans hkey)
      omega
  have halone : lapsed.hasQueuedPrincipal ⟨n⟩ = false := by
    rw [hasQueuedPrincipal, List.any_eq_false]
    intro entry hin
    obtain ⟨-, -, -, k, hk, hprincipal, -⟩ :=
      hlapsed.tickets entry.1 entry.2 (ExtTreeMap.mem_toList_iff_getElem?_eq_some.mp hin)
    rw [hprincipal, Bool.and_eq_true, beq_iff_eq]
    intro hsame
    have heq : k = n := congrArg TypedId.get hsame.1
    omega
  have hdepth : ¬ lapsed.policy.maxDepth ≤ lapsed.queueDepth := by
    have hshort : lapsed.queueDepth ≤ lapsed.waiting.length := List.length_filter_le _ _
    have hlength := hlapsed.waiting
    rw [hlapsed.policy]
    show ¬ 2 ^ 33 ≤ lapsed.queueDepth
    omega
  unfold decideJoin
  dsimp only
  rw [if_neg (by rw [hlimit]; decide), hunfiled]
  dsimp only
  rw [halone, if_neg Bool.false_ne_true, if_neg (by rw [hlapsed.occupied, hlimit]; decide),
    if_neg (by rw [hlapsed.policy]; decide), if_neg hdepth]
  refine ⟨hlapsed.policy, hlapsed.allocated, hlapsed.pending, hlapsed.active,
    hlapsed.reservations, ?_, ?_⟩
  · intro id entry hentry
    rw [enqueue_tickets] at hentry
    split at hentry
    · obtain rfl := Option.some.inj hentry
      exact ⟨rfl, rfl, rfl, n, Nat.lt_succ_self n, rfl, rfl⟩
    · obtain ⟨hstate, hcreated, hheartbeat, k, hk, hdata⟩ := hlapsed.tickets id entry hentry
      exact ⟨hstate, hcreated, hheartbeat, k, Nat.lt_succ_of_lt hk, hdata⟩
  · show (lapsed.waiting ++ [lapsed.nextTicket]).length + 1 = n + 1
    rw [List.length_append, List.length_singleton, hlapsed.waiting]

/-- The requests of the players with these numbers. -/
def crowd (n : Nat) : List AdmissionOp := (List.range n).map numberedJoin

theorem deepQueue_orderly : deepQueue.Orderly := new_orderly _ _ _ _

theorem deepQueue_ticketed : deepQueue.Ticketed := new_ticketed _ _ _ _

theorem run_crowded (hn : n < 2 ^ 33) :
    Crowded (n + 1) (Transition.run AdmissionController.apply deepQueue (crowd (n + 1))) := by
  induction n with
  | zero => exact crowded_one
  | succ n ih =>
    have horderly := run_orderly deepQueue_orderly (crowd (n + 1))
    have hticketed := (deepQueue_ticketed.run (crowd (n + 1))).1
    have hsplit : crowd (n + 1 + 1) = crowd (n + 1) ++ [numberedJoin (n + 1)] := by
      rw [crowd, List.range_succ, List.map_append]
      rfl
    rw [hsplit, Transition.run_append, Transition.run_cons, Transition.run_nil]
    exact (ih (by omega)).join horderly hticketed (by omega)

theorem run_crowd_waiting (hn : n < 2 ^ 33) :
    (Transition.run AdmissionController.apply deepQueue (crowd (n + 1))).waitingTickets = n := by
  have hlength := (run_crowded hn).waiting
  have hqueued := (run_orderly deepQueue_orderly (crowd (n + 1))).queued
  have hlisted : ∀ id ∈ (Transition.run AdmissionController.apply deepQueue
      (crowd (n + 1))).waiting, isWaiting _ id = true := fun id hid => (hqueued.listed id).mp hid
  rw [← hqueued.queueDepth_eq, queueDepth, List.filter_eq_self.mpr hlisted]
  omega

end Crowd

end Sample

/-- The gauge of the queue ends at 32 bits, the queue does not. -/
theorem AdmissionController.run_queueDepth_not_exact :
    ¬ ∀ ops, let controller := Transition.run apply Sample.deepQueue ops
      controller.counters.queueDepth.toNat = controller.waitingTickets := by
  intro h
  obtain ⟨n, hn⟩ : ∃ n, n = 2 ^ 32 := ⟨_, rfl⟩
  have hexact := h (Sample.crowd (n + 1))
  have hwaiting :
      (Transition.run apply Sample.deepQueue (Sample.crowd (n + 1))).waitingTickets = n :=
    Sample.run_crowd_waiting (by omega)
  dsimp only at hexact
  rw [hwaiting] at hexact
  have hbound := UInt32.toNat_lt
    (Transition.run apply Sample.deepQueue (Sample.crowd (n + 1))).counters.queueDepth
  omega

end Signalweave
