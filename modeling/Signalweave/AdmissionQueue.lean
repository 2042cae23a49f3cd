import Signalweave.AdmissionSteps

/-!
# What holds over every run of an admission controller

No more permits are in use than are allocated, and they are handed out in the order in which the
tickets were issued.
-/

open Std

namespace Signalweave

namespace Sample

/-- One session with one permit. -/
def onePermit : AdmissionController :=
  .new { nodeId := ⟨1⟩, session := ⟨⟨1⟩, ⟨1⟩⟩ } {} { allocatedCcu := 1, revision := 1 }
    { metadata := { nodeId := ⟨1⟩, session := ⟨⟨1⟩, ⟨1⟩⟩ } }

/-- The key of the first request. -/
def firstKey : IdempotencyKey := ⟨"first", by decide⟩

/-- The key of the second request. -/
def secondKey : IdempotencyKey := ⟨"second", by decide⟩

/-- The key of the third request. -/
def thirdKey : IdempotencyKey := ⟨"third", by decide⟩

/-- Two players ask for the permit; the first gives it up, and the allocation is lowered. -/
def contention : List AdmissionOp :=
  [.requestJoin { principal := ⟨7⟩, idempotencyKey := some firstKey } 0,
    .requestJoin { principal := ⟨8⟩, idempotencyKey := some secondKey } 1,
    .release { id := 1, session := ⟨⟨1⟩, ⟨1⟩⟩, principal := ⟨7⟩, resumeToken := 1 } .intentional 2,
    .applyCapacity { allocatedCcu := 0, revision := 2 } 3]

end Sample

namespace AdmissionController

variable {controller controller' : AdmissionController} {now : Instant}

/-- `apply_capacity_at` once the update is found to be new. -/
def acceptUpdate (controller : AdmissionController) (update : CapacityUpdate) :
    AdmissionController :=
  { controller with
    revision := update.revision
    counters := { controller.counters with
      capacityAllocations := controller.counters.capacityAllocations + 1 } }

/-- `request_join_at` once the attempt is counted. -/
def countAttempt (controller : AdmissionController) : AdmissionController :=
  controller.setCounters fun c => { c with joinAttempts := c.joinAttempts + 1 }

/-- The tickets that an operation offers, in the order in which it offers them. -/
def offers (controller : AdmissionController) : AdmissionOp → List QueueTicketId
  | .requestJoin _ now => controller.countAttempt.lapseOffers now
  | .queueStatus _ now | .heartbeat _ now | .claimOffer _ now | .resume _ _ now =>
    controller.lapseOffers now
  | .cancel id now =>
    controller.lapseOffers now ++
      match (controller.expireAt now).tickets[id]? with
      | none => []
      | some entry =>
        if entry.state.isLive then ((controller.expireAt now).cancelTicket id entry).promoted now
        else []
  | .release lease reason now =>
    match controller.releasedLease lease with
    | none => []
    | some removed => (controller.removeLease lease removed reason now).applyPending.promoted now
  | .applyCapacity update now =>
    if update.revision ≤ controller.revision then []
    else if update.allocatedCcu < (controller.acceptUpdate update).occupied then []
    else { controller.acceptUpdate update with
      allocatedCcu := update.allocatedCcu, pendingTarget := none }.promoted now

theorem applyCapacityAt_eq {update : CapacityUpdate} :
    (controller.applyCapacityAt update now).2 =
      if update.revision ≤ controller.revision then controller
      else if update.allocatedCcu < (controller.acceptUpdate update).occupied then
        { controller.acceptUpdate update with pendingTarget := some update.allocatedCcu }
      else { controller.acceptUpdate update with
        allocatedCcu := update.allocatedCcu, pendingTarget := none }.promoteAt now := by
  unfold applyCapacityAt
  split <;> rfl

theorem acceptUpdate_orderly (update : CapacityUpdate) (h : controller.Orderly) :
    (controller.acceptUpdate update).Orderly :=
  ⟨⟨h.queued.sorted, h.queued.listed, h.queued.ids⟩, ⟨h.allotted.occupancy, h.allotted.target⟩,
    ⟨h.leased.active, h.leased.reserved, h.leased.disjoint⟩, h.full⟩

/-- A step of `expire_at` that no promotion follows. -/
theorem Serves.lapse (h : controller.Orderly)
    (hstep : Serves (controller.expireAt now) [] controller')
    (hlimit : controller'.admissionLimit = (controller.expireAt now).admissionLimit) :
    Serves controller (controller.lapseOffers now) controller' := by
  have hserves := (expireAt_serves now h).trans hstep hlimit
  rw [List.append_nil] at hserves
  exact hserves

theorem requestJoinAt_serves (request : JoinRequest) (h : controller.Orderly) :
    Serves controller (controller.offers (.requestJoin request now))
      (controller.requestJoinAt request now).2 := by
  have hcounted : controller.countAttempt.Orderly := h.setCounters _
  have hdecides := @decideJoin_decides (controller.countAttempt.expireAt now) now request
  have hserves := (hdecides.serves (expireAt_serves now hcounted).orderly).lapse hcounted
    hdecides.admissionLimit
  exact ⟨hserves.orderly, hserves.bounded, hserves.nextTicket, hserves.queue, hserves.offered⟩

/-- Nobody waits when a newcomer is admitted. -/
theorem requestJoinAt_admitted {request : JoinRequest} {lease : AdmissionLease}
    (h : controller.Orderly)
    (hadmitted : (controller.requestJoinAt request now).1 = .admitted lease) :
    (controller.requestJoinAt request now).2.waiting = [] := by
  have hcounted : controller.countAttempt.Orderly := h.setCounters _
  exact (decideJoin_decides request).admitted_waiting (expireAt_serves now hcounted).orderly
    hadmitted

theorem heartbeatAt_serves (id : QueueTicketId) (h : controller.Orderly) :
    Serves controller (controller.offers (.heartbeat id now))
      (controller.heartbeatAt id now).2 := by
  have hexpired := (expireAt_serves now h).orderly
  unfold heartbeatAt
  dsimp only
  split_ifs
  · exact (heartbeat_serves hexpired).lapse h rfl
  · exact expireAt_serves now h

theorem cancelAt_serves (id : QueueTicketId) (h : controller.Orderly) :
    Serves controller (controller.offers (.cancel id now)) (controller.cancelAt id now).2 := by
  have hexpired := expireAt_serves now h
  unfold cancelAt offers
  dsimp only
  cases hentry : (controller.expireAt now).tickets[id]? with
  | none =>
    rw [List.append_nil]
    exact hexpired
  | some entry =>
    dsimp only
    by_cases hlive : entry.state.isLive = true
    · rw [if_pos hlive]
      obtain ⟨hfrees, -⟩ := cancelTicket_frees hexpired.orderly hentry
      have hsettles := promoteAt_settles now hfrees.queued hfrees.allotted
      have hcancelled := hexpired.trans (hfrees.serves hsettles) hsettles.promotes.admissionLimit
      cases hstate : entry.state with
      | waiting | offered => exact hcancelled
      | _ =>
        rw [hstate] at hlive
        cases hlive
    · rw [if_neg hlive, List.append_nil]
      cases hstate : entry.state with
      | waiting | offered =>
        rw [hstate] at hlive
        exact absurd rfl hlive
      | _ => exact hexpired

theorem claimOfferAt_serves (id : QueueTicketId) (h : controller.Orderly) :
    Serves controller (controller.offers (.claimOffer id now))
      (controller.claimOfferAt id now).2 := by
  have hexpired := expireAt_serves now h
  unfold claimOfferAt
  dsimp only
  cases hentry : (controller.expireAt now).tickets[id]? with
  | none => exact hexpired
  | some entry =>
    dsimp only
    cases hstate : entry.state with
    | offered expires =>
      exact (claimTicket_serves hexpired.orderly hentry hstate).lapse h rfl
    | _ => exact hexpired

theorem resumeAt_serves (token : ResumeToken) (principal : PrincipalId) (h : controller.Orderly) :
    Serves controller (controller.offers (.resume token principal now))
      (controller.resumeAt token principal now).2 := by
  have hexpired := expireAt_serves now h
  unfold resumeAt
  dsimp only
  cases hreserved : (controller.expireAt now).reservations[token]? with
  | none => exact hexpired
  | some reservation =>
    dsimp only
    split_ifs
    · exact hexpired
    · exact (resume_serves hexpired.orderly hreserved).lapse h rfl

theorem releaseAt_serves (lease : AdmissionLease) (reason : ReleaseReason)
    (h : controller.Orderly) :
    Serves controller (controller.offers (.release lease reason now))
      (controller.releaseAt lease reason now) := by
  rw [releaseAt_eq, offers]
  cases hreleased : controller.releasedLease lease with
  | none => exact .refl h
  | some removed =>
    have hactive : controller.active[lease.id]? = some removed := by
      unfold releasedLease at hreleased
      split at hreleased
      · exact hreleased
      · cases hreleased
    have hremoved := @removeLease_frees controller now lease removed reason h hactive
    have hpending := applyPending_frees hremoved.queued hremoved.allotted hremoved.leased
    exact (hremoved.trans hpending).serves
      (promoteAt_settles now hpending.queued hpending.allotted)

theorem applyCapacityAt_serves (update : CapacityUpdate) (h : controller.Orderly) :
    Serves controller (controller.offers (.applyCapacity update now))
      (controller.applyCapacityAt update now).2 := by
  have haccepted := acceptUpdate_orderly update h
  rw [applyCapacityAt_eq, offers]
  by_cases hstale : update.revision ≤ controller.revision
  · rw [if_pos hstale, if_pos hstale]
    exact .refl h
  rw [if_neg hstale, if_neg hstale]
  by_cases hover : update.allocatedCcu < (controller.acceptUpdate update).occupied
  · rw [if_pos hover, if_pos hover]
    have hserves := lower_serves haccepted hover
    exact ⟨hserves.orderly, hserves.bounded, hserves.nextTicket, hserves.queue, hserves.offered⟩
  · rw [if_neg hover, if_neg hover]
    have hfrees := reallocate_frees haccepted hover
    have hserves := hfrees.serves (promoteAt_settles now hfrees.queued hfrees.allotted)
    exact ⟨hserves.orderly, hserves.bounded, hserves.nextTicket, hserves.queue, hserves.offered⟩

/-- What one operation keeps. -/
theorem apply_serves (op : AdmissionOp) (h : controller.Orderly) :
    Serves controller (controller.offers op) (controller.apply op) := by
  cases op with
  | requestJoin request now => exact requestJoinAt_serves request h
  | queueStatus id now => exact expireAt_serves now h
  | heartbeat id now => exact heartbeatAt_serves id h
  | cancel id now => exact cancelAt_serves id h
  | claimOffer id now => exact claimOfferAt_serves id h
  | release lease reason now => exact releaseAt_serves lease reason h
  | resume token principal now => exact resumeAt_serves token principal h
  | applyCapacity update now => exact applyCapacityAt_serves update h

theorem run_orderly (h : controller.Orderly) (ops : List AdmissionOp) :
    (Transition.run apply controller ops).Orderly :=
  Transition.run_invariant (P := Orderly) (fun _ op h => (apply_serves op h).orderly) h ops

/-! ## Permits -/

/-- Every permit in use is one of those allocated, and the number in use is not raised above a
target to which the allocation is to be lowered. -/
theorem run_within_allocation (metadata : AdmissionMetadata) (policy : QueuePolicy)
    (capacity : CapacityUpdate) (counters : UsageCounters) (ops : List AdmissionOp) :
    let after := Transition.run apply (new metadata policy capacity counters) ops
    after.occupancy ≤ after.allocatedCcu.toNat ∧ after.occupied.toNat = after.occupancy ∧
      ∀ op target, (after.apply op).pendingTarget = some target →
        (after.apply op).occupancy ≤ after.occupancy ∨
          (after.apply op).occupancy ≤ target.toNat := by
  intro after
  have horderly : after.Orderly := run_orderly (new_orderly metadata policy capacity counters) ops
  refine ⟨horderly.allotted.occupancy, horderly.allotted.occupied, ?_⟩
  intro op target htarget
  have hbounded := (apply_serves op horderly).bounded
  rw [admissionLimit, htarget, Option.getD_some] at hbounded
  exact le_max_iff.mp hbounded

/-- The allocation is to be lowered below the offer that the second player holds. -/
theorem run_within_allocation_contention :
    let after := Transition.run apply Sample.onePermit Sample.contention
    after.pendingTarget = some 0 ∧ after.occupancy = 1 ∧
      after.occupancy ≤ after.allocatedCcu.toNat :=
  ⟨by decide +kernel, by decide +kernel, (run_within_allocation _ _ _ _ Sample.contention).1⟩

/-! ## The queue -/

/-- The number of waiting tickets that were issued earlier. -/
def ahead (controller : AdmissionController) (id : QueueTicketId) : Nat :=
  (controller.tickets.toList.filter fun entry =>
    entry.1 < id && entry.2.state == .waiting).length

/-- Permits go to the head of the queue, and the queue holds the waiting tickets in the order in
which they were issued. -/
structure FirstComeFirstServed (controller : AdmissionController) : Prop where
  full : ∀ id, controller.isWaiting id = true → controller.admissionLimit ≤ controller.occupied
  sorted : controller.waiting.Pairwise (· < ·)
  listed : ∀ id, id ∈ controller.waiting ↔ controller.isWaiting id = true
  position : ∀ id, controller.isWaiting id = true →
    controller.status id = .waiting (controller.ahead id + 1)

theorem idxOf?_of_sorted {list : List Nat} {a : Nat} (hsorted : list.Pairwise (· < ·))
    (ha : a ∈ list) : list.idxOf? a = some (list.filter (· < a)).length := by
  induction list with
  | nil => cases ha
  | cons b rest ih =>
    obtain ⟨hhead, hrest⟩ := List.pairwise_cons.mp hsorted
    rw [List.idxOf?_cons, List.filter_cons]
    by_cases heq : b = a
    · subst heq
      have hnone : rest.filter (· < b) = [] := by
        rw [List.filter_eq_nil_iff]
        intro c hc
        have := hhead c hc
        simp
        omega
      simp [hnone]
    · have hin : a ∈ rest := (List.mem_cons.mp ha).resolve_left fun h => heq h.symm
      have hlt := hhead a hin
      rw [ih hrest hin]
      simp [heq, hlt]

theorem Queued.length_filter (h : controller.Queued) (id : QueueTicketId) :
    (controller.waiting.filter (· < id)).length = controller.ahead id := by
  have hkeys : (controller.tickets.toList.map Prod.fst).Nodup := by
    rw [ExtTreeMap.map_fst_toList_eq_keys]
    exact OrderedMap.nodup_keys _
  have hahead : ((controller.tickets.toList.filter fun entry =>
      entry.1 < id && entry.2.state == .waiting).map Prod.fst).Nodup :=
    hkeys.sublist (List.filter_sublist.map Prod.fst)
  have hlisted : (controller.waiting.filter (· < id)).Nodup :=
    (h.sorted.imp Nat.ne_of_lt).sublist List.filter_sublist
  have hperm := (List.perm_ext_iff_of_nodup hlisted hahead).mpr ?_
  · rw [hperm.length_eq, List.length_map]
    rfl
  · intro other
    rw [List.mem_filter, h.listed, isWaiting_iff]
    constructor
    · rintro ⟨⟨entry, hentry, hstate⟩, hlt⟩
      refine List.mem_map.mpr ⟨(other, entry), List.mem_filter.mpr ⟨?_, ?_⟩, rfl⟩
      · exact ExtTreeMap.mem_toList_iff_getElem?_eq_some.mpr hentry
      · simpa [hstate] using hlt
    · intro hother
      obtain ⟨⟨_, entry⟩, hin, rfl⟩ := List.mem_map.mp hother
      obtain ⟨hentry, hkept⟩ := List.mem_filter.mp hin
      simp only [Bool.and_eq_true, decide_eq_true_eq, beq_iff_eq] at hkept
      exact ⟨⟨entry, ExtTreeMap.mem_toList_iff_getElem?_eq_some.mp hentry, hkept.2⟩,
        decide_eq_true hkept.1⟩

theorem Orderly.firstComeFirstServed (h : controller.Orderly) :
    controller.FirstComeFirstServed := by
  refine ⟨?_, h.queued.sorted, h.queued.listed, ?_⟩
  · intro id hid
    have hne : controller.waiting ≠ [] := List.ne_nil_of_mem ((h.queued.listed id).mpr hid)
    rw [UInt32.le_iff_toNat_le, h.allotted.occupied]
    exact h.full hne
  · intro id hid
    obtain ⟨entry, hentry, hstate⟩ := isWaiting_iff.mp hid
    have hwaiting : controller.waiting.filter controller.isWaiting = controller.waiting :=
      List.filter_eq_self.mpr fun other hother => (h.queued.listed other).mp hother
    rw [status, hentry]
    dsimp only
    rw [hstate]
    dsimp only
    rw [hwaiting, idxOf?_of_sorted h.queued.sorted ((h.queued.listed id).mpr hid),
      h.queued.length_filter]
    rfl

end AdmissionController

/-- A controller beside the tickets it has offered so far. -/
structure AdmissionHistory where
  controller : AdmissionController
  offered : List QueueTicketId

namespace AdmissionHistory

open AdmissionController

/-- An operation on the controller, with what it decides about tickets. -/
def step (history : AdmissionHistory) (op : AdmissionOp) : AdmissionHistory :=
  { controller := history.controller.apply op
    offered := history.offered ++ history.controller.offers op }

/-- The tickets were offered in the order of their ids, and those that wait come after them. -/
structure InOrder (history : AdmissionHistory) : Prop where
  orderly : history.controller.Orderly
  sorted : (history.offered ++ history.controller.waiting).Pairwise (· < ·)
  issued : ∀ id ∈ history.offered, id < history.controller.nextTicket

theorem InOrder.step {history : AdmissionHistory} (h : history.InOrder) (op : AdmissionOp) :
    (history.step op).InOrder := by
  obtain ⟨horderly, hsorted, hissued⟩ := h
  obtain ⟨horderly', -, hnext, hqueue, -⟩ := apply_serves op horderly
  have hbelow : ∀ id ∈ history.controller.waiting, id < history.controller.nextTicket := by
    intro id hid
    obtain ⟨entry, hentry, -⟩ := isWaiting_iff.mp ((horderly.queued.listed id).mp hid)
    exact horderly.queued.ids id (OrderedMap.mem_of_getElem? hentry)
  have hall : (history.offered ++ (history.controller.waiting ++
      List.range' history.controller.nextTicket ((history.controller.apply op).nextTicket -
        history.controller.nextTicket))).Pairwise (· < ·) := by
    rw [← List.append_assoc]
    refine List.pairwise_append.mpr ⟨hsorted, List.pairwise_lt_range' _, ?_⟩
    intro id hid new hnew
    have hlt : id < history.controller.nextTicket :=
      (List.mem_append.mp hid).elim (hissued id) (hbelow id)
    exact Nat.lt_of_lt_of_le hlt (List.mem_range'_1.mp hnew).1
  refine ⟨horderly', ?_, ?_⟩
  · show (history.offered ++ history.controller.offers op ++
      (history.controller.apply op).waiting).Pairwise (· < ·)
    rw [List.append_assoc]
    exact hall.sublist (hqueue.append_left _)
  · intro id hid
    show id < (history.controller.apply op).nextTicket
    rcases List.mem_append.mp hid with hold | hnew
    · exact Nat.lt_of_lt_of_le (hissued id hold) hnext
    · rcases List.mem_append.mp (hqueue.subset (List.mem_append_left _ hnew)) with hwaiting | hfresh
      · exact Nat.lt_of_lt_of_le (hbelow id hwaiting) hnext
      · have hbound := (List.mem_range'_1.mp hfresh).2
        rw [Nat.add_sub_cancel' hnext] at hbound
        exact hbound

/-- Over every run permits go to the head of the queue: tickets are offered in the order of their
ids, and nobody is admitted past a ticket that waits. -/
theorem run_first_come_first_served (metadata : AdmissionMetadata) (policy : QueuePolicy)
    (capacity : CapacityUpdate) (counters : UsageCounters) (ops : List AdmissionOp) :
    let history := Transition.run AdmissionHistory.step
      ⟨AdmissionController.new metadata policy capacity counters, []⟩ ops
    history.controller.FirstComeFirstServed ∧
      history.offered.Pairwise (· < ·) ∧
      (∀ op id, history.controller.isOffered id = false →
        (history.controller.apply op).isOffered id = true → id ∈ history.controller.offers op) ∧
      (∀ request now lease,
        (history.controller.requestJoinAt request now).1 = .admitted lease →
          ∀ id, (history.controller.requestJoinAt request now).2.isWaiting id = false) ∧
      ∀ id now, let reported := history.controller.queueStatusAt id now
        reported.2.isWaiting id = true → reported.1 = .waiting (reported.2.ahead id + 1) := by
  intro history
  have hinOrder : history.InOrder := by
    refine Transition.run_invariant (P := InOrder) (fun _ op h => h.step op) ?_ ops
    exact ⟨new_orderly _ _ _ _, .nil, fun _ hid => by cases hid⟩
  obtain ⟨horderly, hsorted, -⟩ := hinOrder
  refine ⟨horderly.firstComeFirstServed, (List.pairwise_append.mp hsorted).1, ?_, ?_, ?_⟩
  · intro op id hbefore hafter
    refine ((apply_serves op horderly).offered id hafter).resolve_left ?_
    rw [hbefore]
    exact Bool.false_ne_true
  · intro request now lease hadmitted id
    have hnil := requestJoinAt_admitted horderly hadmitted
    have hqueued := (apply_serves (.requestJoin request now) horderly).orderly.queued
    rw [← Bool.not_eq_true]
    intro hwaiting
    have hin := (hqueued.listed id).mpr hwaiting
    rw [show (history.controller.apply (.requestJoin request now)).waiting = [] from hnil] at hin
    cases hin
  · intro id now reported hwaiting
    exact (expireAt_serves now horderly).orderly.firstComeFirstServed.position id hwaiting

/-- The second player is offered the permit that the first gave up. -/
theorem run_first_come_first_served_contention :
    let history := Transition.run AdmissionHistory.step ⟨Sample.onePermit, []⟩ Sample.contention
    history.offered = [1] ∧ history.controller.isOffered 1 = true ∧
      history.controller.FirstComeFirstServed :=
  ⟨by decide +kernel, by decide +kernel, (run_first_come_first_served _ _ _ _ Sample.contention).1⟩

end AdmissionHistory

end Signalweave
