import Signalweave.Admission
import Signalweave.Library.Transition

/-!
# Runs of an admission controller

The operations of a controller as data, and what one promotion does: it offers the tickets at the
front of the queue until the queue is empty or the limit is reached.
-/

open Std

namespace Signalweave

/-- The operations of an admission controller. -/
inductive AdmissionOp where
  | requestJoin (request : JoinRequest) (now : Instant)
  | queueStatus (id : QueueTicketId) (now : Instant)
  | heartbeat (id : QueueTicketId) (now : Instant)
  | cancel (id : QueueTicketId) (now : Instant)
  | claimOffer (id : QueueTicketId) (now : Instant)
  | release (lease : AdmissionLease) (reason : ReleaseReason) (now : Instant)
  | resume (token : ResumeToken) (principal : PrincipalId) (now : Instant)
  | applyCapacity (update : CapacityUpdate) (now : Instant)

namespace AdmissionController

/-- The controller after an operation. -/
def apply (controller : AdmissionController) : AdmissionOp → AdmissionController
  | .requestJoin request now => (controller.requestJoinAt request now).2
  | .queueStatus id now => (controller.queueStatusAt id now).2
  | .heartbeat id now => (controller.heartbeatAt id now).2
  | .cancel id now => (controller.cancelAt id now).2
  | .claimOffer id now => (controller.claimOfferAt id now).2
  | .release lease reason now => controller.releaseAt lease reason now
  | .resume token principal now => (controller.resumeAt token principal now).2
  | .applyCapacity update now => (controller.applyCapacityAt update now).2

/-- The permits in use, counted without a bound: active leases, reservations and offers. -/
def occupancy (controller : AdmissionController) : Nat :=
  controller.active.size + controller.reservations.size + controller.offeredCount

variable {controller controller' : AdmissionController}

/-- The occupancy is within the allocation, and a pending target is no raise. -/
structure Allotted (controller : AdmissionController) : Prop where
  occupancy : controller.occupancy ≤ controller.allocatedCcu.toNat
  target : ∀ target, controller.pendingTarget = some target → target ≤ controller.allocatedCcu

theorem saturatingU32_toNat {n : Nat} (h : n < 2 ^ 32) : (saturatingU32 n).toNat = n := by
  rw [saturatingU32, UInt32.toNat_ofNat']
  omega

/-- Within the allocation the sum of `occupied` is exact. -/
theorem Allotted.occupied (h : controller.Allotted) :
    controller.occupied.toNat = controller.occupancy := by
  have hle := h.occupancy
  have hbound := controller.allocatedCcu.toNat_lt
  unfold AdmissionController.occupancy at hle ⊢
  rw [AdmissionController.occupied, UInt32.toNat_add, UInt32.toNat_add,
    saturatingU32_toNat (by omega), saturatingU32_toNat (by omega), saturatingU32_toNat (by omega)]
  omega

theorem Allotted.limit_le (h : controller.Allotted) :
    controller.admissionLimit ≤ controller.allocatedCcu := by
  unfold admissionLimit
  cases htarget : controller.pendingTarget with
  | none => exact UInt32.le_refl _
  | some target => exact h.target target htarget

/-- The number of offers, as a total over the tickets. -/
theorem offeredCount_eq : controller.offeredCount =
    OrderedMap.total (fun _ entry => if entry.state.isOffered then 1 else 0)
      controller.tickets :=
  OrderedMap.length_filter_toList

/-- One ticket changes its state. -/
theorem offeredCount_update {id : QueueTicketId}
    (h : ∀ other, other ≠ id → controller'.tickets[other]? = controller.tickets[other]?) :
    controller'.offeredCount +
        (controller.tickets[id]?).elim 0 (fun entry => if entry.state.isOffered then 1 else 0) =
      controller.offeredCount +
        (controller'.tickets[id]?).elim 0 fun entry => if entry.state.isOffered then 1 else 0 := by
  rw [offeredCount_eq, offeredCount_eq]
  exact OrderedMap.total_update h

theorem isWaiting_iff {id : QueueTicketId} :
    controller.isWaiting id = true ↔
      ∃ entry, controller.tickets[id]? = some entry ∧ entry.state = .waiting := by
  simp [isWaiting, Option.any_eq_true]

/-- The queue lists the waiting tickets in the order of their ids. -/
structure Queued (controller : AdmissionController) : Prop where
  sorted : controller.waiting.Pairwise (· < ·)
  listed : ∀ id, id ∈ controller.waiting ↔ controller.isWaiting id = true
  ids : ∀ id, id ∈ controller.tickets → id < controller.nextTicket

/-! ## Promotion -/

/-- A promotion takes these tickets off the front of the queue and offers them. -/
structure Promotes (controller : AdmissionController) (taken : List QueueTicketId)
    (controller' : AdmissionController) : Prop where
  waiting : controller.waiting = taken ++ controller'.waiting
  offered : ∀ id ∈ taken, ∃ entry expires, controller.tickets[id]? = some entry ∧
    entry.state = .waiting ∧ controller'.tickets[id]? =
      some { entry with state := .offered expires }
  others : ∀ id, id ∉ taken → controller'.tickets[id]? = controller.tickets[id]?
  same : controller' = { controller with
    waiting := controller'.waiting
    tickets := controller'.tickets
    counters := controller'.counters }

theorem Promotes.refl : Promotes controller [] controller where
  waiting := rfl
  offered := by simp
  others _ _ := rfl
  same := rfl

theorem Promotes.trans {controller'' : AdmissionController} {first second : List QueueTicketId}
    (h : Promotes controller first controller') (h' : Promotes controller' second controller'') :
    Promotes controller (first ++ second) controller'' where
  waiting := by rw [h.waiting, h'.waiting, List.append_assoc]
  offered id hid := by
    by_cases hsecond : id ∈ second
    · obtain ⟨entry, expires, hentry, hwaiting, hoffered⟩ := h'.offered id hsecond
      have hfirst : id ∉ first := by
        intro hfirst
        obtain ⟨_, _, -, -, hbefore⟩ := h.offered id hfirst
        rw [hentry] at hbefore
        rw [Option.some.inj hbefore] at hwaiting
        cases hwaiting
      exact ⟨entry, expires, (h.others id hfirst).symm.trans hentry, hwaiting, hoffered⟩
    · have hfirst := (List.mem_append.mp hid).resolve_right hsecond
      obtain ⟨entry, expires, hentry, hwaiting, hoffered⟩ := h.offered id hfirst
      exact ⟨entry, expires, hentry, hwaiting, (h'.others id hsecond).trans hoffered⟩
  others id hid := by
    rw [List.mem_append, not_or] at hid
    exact (h'.others id hid.2).trans (h.others id hid.1)
  same := by
    rw [h'.same, h.same]

/-- The pass of `promote_at` over the head of the queue. -/
def offerHead (controller : AdmissionController) (now : Instant) (id : QueueTicketId)
    (rest : List QueueTicketId) : AdmissionController :=
  { controller with
    waiting := rest
    tickets :=
      if controller.isWaiting id then
        controller.tickets.modify id fun entry =>
          { entry with
            state := .offered ((Instant.checkedAdd now controller.policy.offerTtl).getD now) }
      else controller.tickets }

/-- There is a permit to hand out. -/
def HasRoom (controller : AdmissionController) : Prop :=
  0 < controller.admissionLimit ∧ controller.occupied < controller.admissionLimit

instance : Decidable controller.HasRoom := inferInstanceAs (Decidable (_ ∧ _))

theorem promoteLoop_cons {now : Instant} {id : QueueTicketId} {rest : List QueueTicketId} :
    promoteLoop now (id :: rest) controller =
      if controller.HasRoom then promoteLoop now rest (controller.offerHead now id rest)
      else controller := rfl

/-- The tickets that the loop of `promote_at` offers, in the order in which it offers them. -/
def promotedLoop (now : Instant) : List QueueTicketId → AdmissionController → List QueueTicketId
  | [], _ => []
  | id :: rest, controller =>
    if controller.HasRoom then
      (if controller.isWaiting id then [id] else []) ++
        promotedLoop now rest (controller.offerHead now id rest)
    else []

/-- The tickets that `promote_at` offers. -/
def promoted (controller : AdmissionController) (now : Instant) : List QueueTicketId :=
  promotedLoop now controller.waiting controller

/-- The head of the queue is offered. -/
theorem offerHead_promotes {now : Instant} {id : QueueTicketId} {rest : List QueueTicketId}
    (hqueued : controller.Queued) (hwaiting : controller.waiting = id :: rest) :
    Promotes controller [id] (controller.offerHead now id rest) ∧
      (controller.offerHead now id rest).Queued ∧
      (controller.offerHead now id rest).occupancy = controller.occupancy + 1 := by
  have hlisted : controller.isWaiting id = true :=
    (hqueued.listed id).mp (hwaiting ▸ List.mem_cons_self)
  obtain ⟨entry, hentry, hstate⟩ := isWaiting_iff.mp hlisted
  obtain ⟨expires, hexpires⟩ : ∃ expires : Instant,
      (Instant.checkedAdd now controller.policy.offerTtl).getD now = expires := ⟨_, rfl⟩
  have hat : ∀ other, (controller.offerHead now id rest).tickets[other]? =
      if other = id then some { entry with state := .offered expires }
      else controller.tickets[other]? := by
    intro other
    rw [offerHead, if_pos hlisted, hexpires, OrderedMap.getElem?_modify]
    split
    · rename_i heq
      rw [heq, hentry]
      rfl
    · rfl
  have hsorted := hqueued.sorted
  rw [hwaiting, List.pairwise_cons] at hsorted
  refine ⟨⟨hwaiting, ?_, ?_, rfl⟩, ⟨hsorted.2, ?_, ?_⟩, ?_⟩
  · intro other hother
    obtain rfl := List.mem_singleton.mp hother
    exact ⟨entry, expires, hentry, hstate, (hat other).trans (if_pos rfl)⟩
  · intro other hother
    exact (hat other).trans (if_neg (by simpa using hother))
  · intro other
    have hbefore := hqueued.listed other
    rw [hwaiting, List.mem_cons, isWaiting_iff] at hbefore
    rw [isWaiting_iff, hat]
    by_cases heq : other = id
    · subst heq
      rw [if_pos rfl]
      refine iff_of_false (fun hin => ?_) ?_
      · exact Nat.lt_irrefl _ (hsorted.1 other hin)
      · rintro ⟨_, hfound, hwaits⟩
        rw [← Option.some.inj hfound] at hwaits
        cases hwaits
    · rw [if_neg heq, ← hbefore]
      show other ∈ rest ↔ other = id ∨ other ∈ rest
      simp [heq]
  · intro other hother
    by_cases heq : other = id
    · subst heq
      exact hqueued.ids other (OrderedMap.mem_of_getElem? hentry)
    · obtain ⟨found, hfound⟩ := OrderedMap.exists_of_mem hother
      rw [hat, if_neg heq] at hfound
      exact hqueued.ids other (OrderedMap.mem_of_getElem? hfound)
  · have hcount := @offeredCount_update controller (controller.offerHead now id rest) id
      fun other hother => (hat other).trans (if_neg hother)
    rw [hat, if_pos rfl, hentry] at hcount
    simp only [Option.elim_some, hstate, TicketState.isOffered, Bool.false_eq_true, if_false,
      if_true] at hcount
    unfold occupancy
    show controller.active.size + controller.reservations.size + _ = _
    omega

/-- While a ticket waits, the limit is reached. -/
def Full (controller : AdmissionController) : Prop :=
  controller.waiting ≠ [] → controller.admissionLimit.toNat ≤ controller.occupancy

/-- What a promotion establishes. -/
structure Settles (controller : AdmissionController) (taken : List QueueTicketId)
    (controller' : AdmissionController) : Prop where
  promotes : Promotes controller taken controller'
  queued : controller'.Queued
  allotted : controller'.Allotted
  full : controller'.Full
  bounded : controller'.occupancy ≤ max controller.occupancy controller.admissionLimit.toNat
  grows : controller.occupancy ≤ controller'.occupancy

theorem Settles.refl (hqueued : controller.Queued) (hallotted : controller.Allotted)
    (hfull : controller.Full) : Settles controller [] controller :=
  ⟨.refl, hqueued, hallotted, hfull, Nat.le_max_left _ _, Nat.le_refl _⟩

theorem promoteLoop_settles (now : Instant) (ids : List QueueTicketId)
    (hqueued : controller.Queued) (hallotted : controller.Allotted)
    (hwaiting : controller.waiting = ids) :
    Settles controller (promotedLoop now ids controller) (promoteLoop now ids controller) := by
  induction ids generalizing controller with
  | nil => exact .refl hqueued hallotted fun hne => absurd hwaiting hne
  | cons id rest ih =>
    rw [promoteLoop_cons, promotedLoop]
    by_cases hroom : controller.HasRoom
    · have hlisted : controller.isWaiting id = true :=
        (hqueued.listed id).mp (hwaiting ▸ List.mem_cons_self)
      rw [if_pos hroom, if_pos hroom, if_pos hlisted]
      have hbelow := UInt32.lt_iff_toNat_lt.mp hroom.2
      rw [hallotted.occupied] at hbelow
      have hlimit := UInt32.le_iff_toNat_le.mp hallotted.limit_le
      obtain ⟨hpromotes, hqueued', hoccupancy⟩ :=
        @offerHead_promotes controller now id rest hqueued hwaiting
      have hallotted' : (controller.offerHead now id rest).Allotted := by
        refine ⟨?_, hallotted.target⟩
        rw [hoccupancy]
        show controller.occupancy + 1 ≤ controller.allocatedCcu.toNat
        omega
      have hrest := ih hqueued' hallotted' rfl
      refine ⟨hpromotes.trans hrest.promotes, hrest.queued, hrest.allotted, hrest.full, ?_, ?_⟩
      · have hbounded := hrest.bounded
        rw [hoccupancy] at hbounded
        change _ ≤ max (controller.occupancy + 1) controller.admissionLimit.toNat at hbounded
        omega
      · have hgrows := hrest.grows
        rw [hoccupancy] at hgrows
        omega
    · rw [if_neg hroom, if_neg hroom]
      refine .refl hqueued hallotted fun _ => ?_
      by_cases hzero : 0 < controller.admissionLimit
      · have hreached : ¬ controller.occupied < controller.admissionLimit :=
          fun hlt => hroom ⟨hzero, hlt⟩
        rw [UInt32.lt_iff_toNat_lt, hallotted.occupied] at hreached
        omega
      · rw [UInt32.lt_iff_toNat_lt] at hzero
        have hnil : (0 : UInt32).toNat = 0 := rfl
        omega

theorem promoteAt_settles (now : Instant) (hqueued : controller.Queued)
    (hallotted : controller.Allotted) :
    Settles controller (controller.promoted now) (controller.promoteAt now) := by
  obtain ⟨hpromotes, hqueued', hallotted', hfull, hbounded, hgrows⟩ :=
    promoteLoop_settles now controller.waiting hqueued hallotted rfl
  refine ⟨⟨hpromotes.waiting, hpromotes.offered, hpromotes.others, ?_⟩,
    ⟨hqueued'.sorted, hqueued'.listed, hqueued'.ids⟩,
    ⟨hallotted'.occupancy, hallotted'.target⟩, hfull, hbounded, hgrows⟩
  unfold promoteAt setCounters
  dsimp only
  rw [hpromotes.same]

theorem promoteLoop_induction {P : AdmissionController → Prop} {now : Instant}
    (hoffer : ∀ controller id rest, controller.waiting = id :: rest → P controller →
      P (controller.offerHead now id rest))
    (ids : List QueueTicketId) (hwaiting : controller.waiting = ids) (h : P controller) :
    P (promoteLoop now ids controller) := by
  induction ids generalizing controller with
  | nil => exact h
  | cons id rest ih =>
    rw [promoteLoop_cons]
    split
    · exact ih rfl (hoffer controller id rest hwaiting h)
    · exact h

/-- What one offer keeps and the gauge of the queue does not touch, a promotion keeps. -/
theorem promoteAt_induction {P : AdmissionController → Prop} {now : Instant}
    (hoffer : ∀ controller id rest, controller.waiting = id :: rest → P controller →
      P (controller.offerHead now id rest))
    (hgauge : ∀ controller f, P controller → P (controller.setCounters f)) (h : P controller) :
    P (controller.promoteAt now) :=
  hgauge _ (·.setQueueDepth (promoteLoop now controller.waiting controller).queueDepth)
    (promoteLoop_induction hoffer controller.waiting rfl h)

/-- Without room nothing is promoted. -/
theorem promoteAt_of_full {now : Instant} (h : ¬ controller.HasRoom) :
    controller.promoteAt now = controller.setCounters (·.setQueueDepth controller.queueDepth) := by
  have hloop : ∀ ids, promoteLoop now ids controller = controller := by
    intro ids
    cases ids with
    | nil => rfl
    | cons id rest =>
      rw [promoteLoop_cons]
      exact if_neg h
  rw [promoteAt, hloop]

theorem pendingTarget_promoteAt {now : Instant} :
    (controller.promoteAt now).pendingTarget = controller.pendingTarget := by
  apply promoteAt_induction (P := fun middle : AdmissionController =>
    middle.pendingTarget = controller.pendingTarget)
  · exact fun _ _ _ _ h => h
  · exact fun _ _ h => h
  · rfl

/-- What an offer does to the ticket at the head of the queue. -/
theorem getElem?_offerHead {now : Instant} {id other : QueueTicketId} {rest : List QueueTicketId} :
    (controller.offerHead now id rest).tickets[other]? =
      (controller.tickets[other]?).map fun entry =>
        if other = id ∧ entry.state = .waiting then
          { entry with
            state := .offered ((Instant.checkedAdd now controller.policy.offerTtl).getD now) }
        else entry := by
  unfold offerHead
  dsimp only
  split
  · rename_i hwaiting
    obtain ⟨entry, hentry, hstate⟩ := isWaiting_iff.mp hwaiting
    rw [OrderedMap.getElem?_modify]
    split
    · rename_i hother
      rw [hother, hentry]
      simp [hstate]
    · rename_i hother
      simp [hother]
  · rename_i hwaiting
    have hnot : ∀ entry, controller.tickets[id]? = some entry → entry.state ≠ .waiting :=
      fun entry hentry hstate => hwaiting (isWaiting_iff.mpr ⟨entry, hentry, hstate⟩)
    cases hother : controller.tickets[other]? with
    | none => rfl
    | some entry =>
      rw [Option.map_some, if_neg]
      rintro ⟨rfl, hstate⟩
      exact hnot entry hother hstate

/-! ## Leases -/

/-- Lease ids are taken in turn, and no lease is both active and reserved. -/
structure Leased (controller : AdmissionController) : Prop where
  active : ∀ id, id ∈ controller.active → id < controller.nextLease
  reserved : ∀ id, id ∈ controller.reservations → id < controller.nextLease
  disjoint : ∀ id, id ∈ controller.active → id ∉ controller.reservations

/-- The state between two operations. -/
structure Orderly (controller : AdmissionController) : Prop where
  queued : controller.Queued
  allotted : controller.Allotted
  leased : controller.Leased
  full : controller.Full

theorem Promotes.leased {taken : List QueueTicketId} (h : Promotes controller taken controller')
    (hleased : controller.Leased) : controller'.Leased := by
  rw [h.same]
  exact ⟨hleased.active, hleased.reserved, hleased.disjoint⟩

theorem Promotes.admissionLimit {taken : List QueueTicketId}
    (h : Promotes controller taken controller') :
    controller'.admissionLimit = controller.admissionLimit := by
  rw [h.same]
  rfl

theorem Settles.orderly {taken : List QueueTicketId} (h : Settles controller taken controller')
    (hleased : controller.Leased) : controller'.Orderly :=
  ⟨h.queued, h.allotted, h.promotes.leased hleased, h.full⟩

/-- So is a controller that `new` has just built. -/
theorem new_orderly (metadata : AdmissionMetadata) (policy : QueuePolicy)
    (capacity : CapacityUpdate) (counters : UsageCounters) :
    (new metadata policy capacity counters).Orderly := by
  have hoffered : offeredCount (new metadata policy capacity counters) = 0 := by
    rw [offeredCount_eq]
    exact OrderedMap.total_empty _
  refine ⟨⟨.nil, ?_, ?_⟩, ⟨?_, ?_⟩, ⟨?_, ?_, ?_⟩, ?_⟩
  · intro id
    simp [new, isWaiting]
  · intro id hid
    simp [new] at hid
  · rw [occupancy, hoffered]
    simp [new]
  · intro target htarget
    cases htarget
  · intro id hid
    simp [new] at hid
  · intro id hid
    simp [new] at hid
  · intro id hid
    simp [new] at hid
  · exact fun hne => absurd rfl hne

end AdmissionController

end Signalweave
