import Signalweave.AdmissionRuns

/-!
# What each admission operation keeps

Expiry frees permits, promotion hands them to the head of the queue, and every operation ends
with either of them or leaves the number of permits in use as it was.
-/

open Std

namespace Signalweave

namespace AdmissionController

variable {controller controller' : AdmissionController} {now : Instant}

/-! ## Expiry -/

theorem expireEntry_waiting {policy : QueuePolicy} {entry : TicketEntry}
    (h : (expireEntry policy now entry).state = .waiting) : entry.state = .waiting := by
  unfold expireEntry at h
  split at h
  · assumption
  · split at h
    · cases h
    · rename_i hstate _
      rw [hstate] at h
      cases h
  · exact h

theorem expireEntry_offered {policy : QueuePolicy} {entry : TicketEntry}
    (h : (expireEntry policy now entry).state.isOffered = true) :
    entry.state.isOffered = true := by
  unfold expireEntry at h
  split at h
  · split at h
    · cases h
    · exact h
  · split at h
    · cases h
    · exact h
  · exact h

theorem getElem?_expireEntries {id : QueueTicketId} :
    (controller.expireEntries now).tickets[id]? =
      (controller.tickets[id]?).map (expireEntry controller.policy now) := by
  change (controller.tickets.map fun _ entry => expireEntry controller.policy now entry)[id]? = _
  exact ExtTreeMap.getElem?_map

theorem isWaiting_of_expired {id : QueueTicketId}
    (h : (controller.expireEntries now).isWaiting id = true) :
    controller.isWaiting id = true := by
  obtain ⟨entry, hentry, hwaiting⟩ := isWaiting_iff.mp h
  rw [getElem?_expireEntries] at hentry
  obtain ⟨before, hbefore, rfl⟩ := Option.map_eq_some_iff.mp hentry
  exact isWaiting_iff.mpr ⟨before, hbefore, expireEntry_waiting hwaiting⟩

/-- A ticket is offered. -/
def isOffered (controller : AdmissionController) (id : QueueTicketId) : Bool :=
  (controller.tickets[id]?).any fun entry => entry.state.isOffered

theorem isOffered_of_expired {id : QueueTicketId}
    (h : (controller.expireEntries now).isOffered id = true) :
    controller.isOffered id = true := by
  obtain ⟨entry, hentry, hoffered⟩ := Option.any_eq_true _ _ |>.mp h
  rw [getElem?_expireEntries] at hentry
  obtain ⟨before, hbefore, rfl⟩ := Option.map_eq_some_iff.mp hentry
  exact Option.any_eq_true _ _ |>.mpr ⟨before, hbefore, expireEntry_offered hoffered⟩

/-- What is done before a promotion: fewer permits are in use, the queue has gaps. -/
structure Frees (controller controller' : AdmissionController) : Prop where
  queued : controller'.Queued
  allotted : controller'.Allotted
  leased : controller'.Leased
  occupancy : controller'.occupancy ≤ controller.occupancy
  waiting : controller'.waiting.Sublist controller.waiting
  nextTicket : controller'.nextTicket = controller.nextTicket
  offered : ∀ id, controller'.isOffered id = true → controller.isOffered id = true

theorem expireEntries_frees (h : controller.Orderly) :
    Frees controller (controller.expireEntries now) := by
  obtain ⟨hqueued, hallotted, hleased, -⟩ := h
  have hreservations : (controller.expireEntries now).reservations.size ≤
      controller.reservations.size := ExtTreeMap.size_filter_le_size
  have hoffered : (controller.expireEntries now).offeredCount ≤ controller.offeredCount := by
    rw [offeredCount_eq, offeredCount_eq]
    apply OrderedMap.total_le
    · intro id hid
      obtain ⟨entry, hentry⟩ := OrderedMap.exists_of_mem hid
      rw [getElem?_expireEntries] at hentry
      obtain ⟨before, hbefore, -⟩ := Option.map_eq_some_iff.mp hentry
      exact OrderedMap.mem_of_getElem? hbefore
    · intro id
      rw [OrderedMap.share, OrderedMap.share, getElem?_expireEntries]
      cases controller.tickets[id]? with
      | none => exact Nat.le_refl _
      | some entry =>
        simp only [Option.map_some, Option.elim_some]
        split
        · rename_i hoffered
          rw [if_pos (expireEntry_offered hoffered)]
        · exact Nat.zero_le _
  have hoccupancy : (controller.expireEntries now).occupancy ≤ controller.occupancy := by
    unfold occupancy
    change controller.active.size + _ + _ ≤ _
    omega
  refine ⟨⟨?_, ?_, ?_⟩, ⟨Nat.le_trans hoccupancy hallotted.occupancy, hallotted.target⟩,
    ⟨hleased.active, ?_, ?_⟩, hoccupancy, List.filter_sublist, rfl, fun _ => isOffered_of_expired⟩
  · exact hqueued.sorted.filter _
  · intro id
    refine List.mem_filter.trans ⟨And.right, fun hwaiting => ⟨?_, hwaiting⟩⟩
    exact (hqueued.listed id).mpr (isWaiting_of_expired hwaiting)
  · intro id hid
    obtain ⟨entry, hentry⟩ := OrderedMap.exists_of_mem hid
    rw [getElem?_expireEntries] at hentry
    obtain ⟨before, hbefore, -⟩ := Option.map_eq_some_iff.mp hentry
    exact hqueued.ids id (OrderedMap.mem_of_getElem? hbefore)
  · exact fun id hid => hleased.reserved id (ExtTreeMap.mem_of_mem_filter hid)
  · exact fun id hactive hid => hleased.disjoint id hactive (ExtTreeMap.mem_of_mem_filter hid)

/-- A pending target that the occupancy has reached becomes the allocation. -/
theorem applyPending_frees (hqueued : controller.Queued) (hallotted : controller.Allotted)
    (hleased : controller.Leased) : Frees controller controller.applyPending := by
  have hsame : Frees controller controller :=
    ⟨hqueued, hallotted, hleased, Nat.le_refl _, .refl _, rfl, fun _ => id⟩
  unfold applyPending
  cases htarget : controller.pendingTarget with
  | none => exact hsame
  | some target =>
    by_cases hreached : controller.occupied ≤ target
    · simp only [if_pos hreached]
      have hle := UInt32.le_iff_toNat_le.mp hreached
      rw [hallotted.occupied] at hle
      refine ⟨⟨hqueued.sorted, hqueued.listed, hqueued.ids⟩, ⟨hle, ?_⟩,
        ⟨hleased.active, hleased.reserved, hleased.disjoint⟩, Nat.le_refl _, .refl _, rfl,
        fun _ => id⟩
      intro other hother
      cases hother
    · simp only [if_neg hreached]
      exact hsame

theorem Frees.trans {controller'' : AdmissionController} (h : Frees controller controller')
    (h' : Frees controller' controller'') : Frees controller controller'' :=
  ⟨h'.queued, h'.allotted, h'.leased, Nat.le_trans h'.occupancy h.occupancy,
    h'.waiting.trans h.waiting,
    h'.nextTicket.trans h.nextTicket, fun id hid => h.offered id (h'.offered id hid)⟩

/-! ## Steps -/

/-- What a step of the controller keeps while it offers these tickets, in this order: the tickets
it takes off the front of the queue, to the back of which a new one may have come. -/
structure Serves (controller : AdmissionController) (offers : List QueueTicketId)
    (controller' : AdmissionController) : Prop where
  orderly : controller'.Orderly
  bounded : controller'.occupancy ≤ max controller.occupancy controller'.admissionLimit.toNat
  nextTicket : controller.nextTicket ≤ controller'.nextTicket
  queue : (offers ++ controller'.waiting).Sublist (controller.waiting ++
    List.range' controller.nextTicket (controller'.nextTicket - controller.nextTicket))
  offered : ∀ id, controller'.isOffered id = true → controller.isOffered id = true ∨ id ∈ offers

theorem Promotes.isOffered {taken : List QueueTicketId} (h : Promotes controller taken controller')
    {id : QueueTicketId} (hoffered : controller'.isOffered id = true) :
    controller.isOffered id = true ∨ id ∈ taken := by
  by_cases htaken : id ∈ taken
  · exact Or.inr htaken
  · left
    rw [AdmissionController.isOffered, h.others id htaken] at hoffered
    exact hoffered

/-- Permits are freed and handed to the head of the queue. -/
theorem Frees.serves {controller'' : AdmissionController} {taken : List QueueTicketId}
    (h : Frees controller controller') (h' : Settles controller' taken controller'') :
    Serves controller taken controller'' := by
  have hnext : controller''.nextTicket = controller.nextTicket := by
    rw [h'.promotes.same]
    exact h.nextTicket
  refine ⟨h'.orderly h.leased, ?_, Nat.le_of_eq hnext.symm, ?_, ?_⟩
  · have hbounded := h'.bounded
    have hoccupancy := h.occupancy
    rw [h'.promotes.admissionLimit]
    omega
  · rw [hnext, Nat.sub_self, List.range'_zero, List.append_nil, ← h'.promotes.waiting]
    exact h.waiting
  · intro id hid
    exact (h'.promotes.isOffered hid).imp_left (h.offered id)

/-- A step that hands out no permit and leaves the queue as it is. -/
theorem Serves.quiet (h : controller'.Orderly)
    (hoccupancy : controller'.occupancy = controller.occupancy)
    (hwaiting : controller'.waiting = controller.waiting)
    (hnext : controller'.nextTicket = controller.nextTicket)
    (hoffered : ∀ id, controller'.isOffered id = true → controller.isOffered id = true) :
    Serves controller [] controller' := by
  refine ⟨h, ?_, Nat.le_of_eq hnext.symm, ?_, fun id hid => Or.inl (hoffered id hid)⟩
  · rw [hoccupancy]
    exact Nat.le_max_left _ _
  · rw [hnext, hwaiting, Nat.sub_self, List.range'_zero, List.append_nil, List.nil_append]

theorem Serves.refl (h : controller.Orderly) : Serves controller [] controller :=
  .quiet h rfl rfl rfl fun _ => id

theorem Serves.trans {controller'' : AdmissionController} {first second : List QueueTicketId}
    (h : Serves controller first controller') (h' : Serves controller' second controller'')
    (hlimit : controller''.admissionLimit = controller'.admissionLimit) :
    Serves controller (first ++ second) controller'' := by
  have hnext := h.nextTicket
  have hnext' := h'.nextTicket
  refine ⟨h'.orderly, ?_, Nat.le_trans hnext hnext', ?_, ?_⟩
  · have hbounded := h.bounded
    have hbounded' := h'.bounded
    rw [hlimit] at hbounded' ⊢
    omega
  · have hrange : List.range' controller.nextTicket
        (controller''.nextTicket - controller.nextTicket) =
        List.range' controller.nextTicket (controller'.nextTicket - controller.nextTicket) ++
          List.range' controller'.nextTicket
            (controller''.nextTicket - controller'.nextTicket) := by
      rw [show controller''.nextTicket - controller.nextTicket =
          (controller'.nextTicket - controller.nextTicket) +
            (controller''.nextTicket - controller'.nextTicket) by omega,
        List.range'_append_1.symm]
      congr 2
      omega
    have hfirst := h.queue.append_right
      (List.range' controller'.nextTicket (controller''.nextTicket - controller'.nextTicket))
    rw [List.append_assoc, List.append_assoc, ← hrange] at hfirst
    rw [List.append_assoc]
    exact (h'.queue.append_left first).trans hfirst
  · intro id hid
    rcases h'.offered id hid with hoffered | hsecond
    · exact (h.offered id hoffered).imp_right (List.mem_append_left second)
    · exact Or.inr (List.mem_append_right first hsecond)

/-- The tickets that `expire_at` offers. -/
def lapseOffers (controller : AdmissionController) (now : Instant) : List QueueTicketId :=
  (controller.expireEntries now).applyPending.promoted now

/-- `expire_at` frees what is due and promotes. -/
theorem expireAt_serves (now : Instant) (h : controller.Orderly) :
    Serves controller (controller.lapseOffers now) (controller.expireAt now) := by
  have hentries := @expireEntries_frees controller now h
  have hpending := applyPending_frees hentries.queued hentries.allotted hentries.leased
  exact (hentries.trans hpending).serves (promoteAt_settles now hpending.queued hpending.allotted)

/-! ## Admission -/

theorem admitAt_occupancy {principal : PrincipalId} (h : controller.Leased) :
    (controller.admitAt principal now).2.occupancy = controller.occupancy + 1 := by
  have hfresh : controller.nextLease ∉ controller.active :=
    fun hin => Nat.lt_irrefl _ (h.active _ hin)
  have hsize : (controller.admitAt principal now).2.active.size = controller.active.size + 1 := by
    show (ExtTreeMap.insert controller.active controller.nextLease _).size = _
    rw [ExtTreeMap.size_insert, if_neg (by simpa using hfresh)]
  unfold occupancy
  rw [hsize]
  show controller.active.size + 1 + controller.reservations.size + controller.offeredCount = _
  omega

theorem admitAt_leased {principal : PrincipalId} (h : controller.Leased) :
    (controller.admitAt principal now).2.Leased := by
  have hmem : ∀ id, id ∈ (controller.admitAt principal now).2.active ↔
      id = controller.nextLease ∨ id ∈ controller.active := fun _ => OrderedMap.mem_insert
  refine ⟨?_, ?_, ?_⟩
  · intro id hid
    show id < controller.nextLease + 1
    rcases (hmem id).mp hid with rfl | hold
    · omega
    · have := h.active id hold
      omega
  · intro id hid
    exact Nat.lt_succ_of_lt (h.reserved id hid)
  · intro id hid hreserved
    rcases (hmem id).mp hid with rfl | hold
    · exact Nat.lt_irrefl _ (h.reserved _ hreserved)
    · exact h.disjoint id hold hreserved

/-- While there is room nobody waits. -/
theorem Orderly.waiting_nil (h : controller.Orderly)
    (hroom : controller.occupied < controller.admissionLimit) : controller.waiting = [] := by
  have hbelow := UInt32.lt_iff_toNat_lt.mp hroom
  rw [h.allotted.occupied] at hbelow
  by_contra hne
  have hfull := h.full hne
  omega

/-- A newcomer is admitted while there is room. -/
theorem admitAt_serves {principal : PrincipalId} (h : controller.Orderly)
    (hroom : controller.occupied < controller.admissionLimit) :
    Serves controller [] (controller.admitAt principal now).2 := by
  have hnil := h.waiting_nil hroom
  have hoccupancy := @admitAt_occupancy controller now principal h.leased
  have hbelow := UInt32.lt_iff_toNat_lt.mp hroom
  rw [h.allotted.occupied] at hbelow
  have hlimit := UInt32.le_iff_toNat_le.mp h.allotted.limit_le
  refine ⟨⟨⟨h.queued.sorted, h.queued.listed, h.queued.ids⟩, ⟨?_, h.allotted.target⟩,
    admitAt_leased h.leased, fun hne => absurd hnil hne⟩, ?_, Nat.le_refl _, ?_,
    fun _ hid => Or.inl hid⟩
  · rw [hoccupancy]
    show controller.occupancy + 1 ≤ controller.allocatedCcu.toNat
    omega
  · rw [hoccupancy]
    show controller.occupancy + 1 ≤ max controller.occupancy controller.admissionLimit.toNat
    omega
  · show controller.waiting.Sublist _
    exact List.sublist_append_left _ _

theorem enqueue_tickets {key : IdempotencyKey} {principal : PrincipalId} {id : QueueTicketId} :
    (controller.enqueue key principal now).2.tickets[id]? =
      if id = controller.nextTicket then some
        { ticket := (controller.enqueue key principal now).1, created := now, lastHeartbeat := now
          state := .waiting }
      else controller.tickets[id]? := OrderedMap.getElem?_insert

/-- A new ticket waits, so it holds no permit. -/
theorem enqueue_occupancy {key : IdempotencyKey} {principal : PrincipalId} (h : controller.Queued) :
    (controller.enqueue key principal now).2.occupancy = controller.occupancy := by
  have habsent : controller.tickets[controller.nextTicket]? = none :=
    ExtTreeMap.getElem?_eq_none fun hin => Nat.lt_irrefl _ (h.ids _ hin)
  have hupdate := @offeredCount_update controller (controller.enqueue key principal now).2
    controller.nextTicket fun other hother => enqueue_tickets.trans (if_neg hother)
  rw [enqueue_tickets, if_pos rfl, habsent] at hupdate
  have hcount : (controller.enqueue key principal now).2.offeredCount = controller.offeredCount :=
    hupdate
  unfold occupancy
  rw [hcount]
  rfl

/-- Without room a newcomer goes to the back of the queue. -/
theorem enqueue_serves {key : IdempotencyKey} {principal : PrincipalId} (h : controller.Orderly)
    (hroom : ¬ controller.occupied < controller.admissionLimit) :
    Serves controller [] (controller.enqueue key principal now).2 := by
  obtain ⟨controller', hresult⟩ :
      ∃ controller', (controller.enqueue key principal now).2 = controller' := ⟨_, rfl⟩
  have hat : ∀ id, controller'.tickets[id]? = if id = controller.nextTicket then some
      { ticket := (controller.enqueue key principal now).1, created := now, lastHeartbeat := now
        state := .waiting }
      else controller.tickets[id]? := by
    intro id
    rw [← hresult]
    exact enqueue_tickets
  have hwaiting : controller'.waiting = controller.waiting ++ [controller.nextTicket] := by
    rw [← hresult]
    rfl
  have hnext : controller'.nextTicket = controller.nextTicket + 1 := by
    rw [← hresult]
    rfl
  have hoccupancy : controller'.occupancy = controller.occupancy := by
    rw [← hresult]
    exact enqueue_occupancy h.queued
  have hreached : controller.admissionLimit.toNat ≤ controller.occupancy := by
    rw [UInt32.lt_iff_toNat_lt, h.allotted.occupied] at hroom
    omega
  rw [hresult]
  refine ⟨⟨⟨?_, ?_, ?_⟩, ⟨?_, ?_⟩, ?_, ?_⟩, ?_, ?_, ?_, ?_⟩
  · rw [hwaiting]
    refine List.pairwise_append.mpr ⟨h.queued.sorted, List.pairwise_singleton _ _, ?_⟩
    intro id hid other hother
    obtain rfl := List.mem_singleton.mp hother
    obtain ⟨entry, hentry, -⟩ := isWaiting_iff.mp ((h.queued.listed id).mp hid)
    exact h.queued.ids id (OrderedMap.mem_of_getElem? hentry)
  · intro id
    rw [hwaiting, isWaiting_iff, hat, List.mem_append, List.mem_singleton]
    by_cases heq : id = controller.nextTicket
    · rw [if_pos heq]
      exact iff_of_true (Or.inr heq) ⟨_, rfl, rfl⟩
    · rw [if_neg heq, ← isWaiting_iff, ← h.queued.listed id]
      simp [heq]
  · intro id hid
    obtain ⟨entry, hentry⟩ := OrderedMap.exists_of_mem hid
    rw [hat] at hentry
    rw [hnext]
    split at hentry
    · rename_i heq
      rw [heq]
      exact Nat.lt_succ_self _
    · exact Nat.lt_succ_of_lt (h.queued.ids id (OrderedMap.mem_of_getElem? hentry))
  · rw [hoccupancy, ← hresult]
    exact h.allotted.occupancy
  · rw [← hresult]
    exact h.allotted.target
  · rw [← hresult]
    exact ⟨h.leased.active, h.leased.reserved, h.leased.disjoint⟩
  · intro _
    rw [hoccupancy, ← hresult]
    exact hreached
  · rw [hoccupancy]
    exact Nat.le_max_left _ _
  · rw [hnext]
    exact Nat.le_succ _
  · rw [hnext, hwaiting, Nat.add_sub_cancel_left, List.range'_one, List.nil_append]
  · intro id hid
    left
    rw [isOffered, hat] at hid
    split at hid
    · cases hid
    · exact hid

theorem Orderly.setCounters (h : controller.Orderly) (f : UsageCounters → UsageCounters) :
    (controller.setCounters f).Orderly :=
  ⟨⟨h.queued.sorted, h.queued.listed, h.queued.ids⟩, ⟨h.allotted.occupancy, h.allotted.target⟩,
    ⟨h.leased.active, h.leased.reserved, h.leased.disjoint⟩, h.full⟩

theorem setCounters_serves (h : controller.Orderly) (f : UsageCounters → UsageCounters) :
    Serves controller [] (controller.setCounters f) :=
  .quiet (h.setCounters f) rfl rfl rfl fun _ => id

/-- What a decision on a join can be. -/
inductive Decides (controller : AdmissionController) (request : JoinRequest) (now : Instant) :
    JoinDecision × AdmissionController → Prop
  | refused (decision : JoinDecision) (count : UsageCounters → UsageCounters)
      (refusal : ∀ lease, decision ≠ .admitted lease) :
      Decides controller request now (decision, controller.setCounters count)
  | held (ticket : QueueTicket) : Decides controller request now (.queued ticket, controller)
  | admitted (count : UsageCounters → UsageCounters)
      (room : controller.occupied < controller.admissionLimit) :
      Decides controller request now
        (.admitted ((controller.setCounters count).admitAt request.principal now).1,
          ((controller.setCounters count).admitAt request.principal now).2)
  | queued (count : UsageCounters → UsageCounters) (key : IdempotencyKey)
      (reached : ¬ controller.occupied < controller.admissionLimit) :
      Decides controller request now
        (.queued ((controller.setCounters count).enqueue key request.principal now).1,
          ((controller.setCounters count).enqueue key request.principal now).2)

theorem decideJoin_decides (request : JoinRequest) :
    Decides controller request now (controller.decideJoin request now) := by
  unfold decideJoin
  cases request.idempotencyKey with
  | none => exact .refused _ _ fun _ => by simp
  | some key =>
    dsimp only
    by_cases hpaused : controller.admissionLimit = 0
    · rw [if_pos hpaused]
      exact .refused _ _ fun _ => by simp
    rw [if_neg hpaused]
    cases controller.liveTicket key with
    | some ticket => exact .held ticket
    | none =>
      dsimp only
      split_ifs with hqueued hroom henabled hdepth
      · exact .refused _ _ fun _ => by simp
      · exact .admitted _ hroom
      · exact .refused _ _ fun _ => by simp
      · exact .refused _ _ fun _ => by simp
      · exact .queued _ key hroom

section Decision

variable {request : JoinRequest} {result : JoinDecision × AdmissionController}

theorem Decides.serves (hdecides : Decides controller request now result)
    (h : controller.Orderly) : Serves controller [] result.2 := by
  cases hdecides with
  | refused decision count _ => exact setCounters_serves h count
  | held ticket => exact .refl h
  | admitted count hroom =>
    exact (setCounters_serves h count).trans (admitAt_serves (h.setCounters count) hroom) rfl
  | queued count key hreached =>
    exact (setCounters_serves h count).trans (enqueue_serves (h.setCounters count) hreached) rfl

theorem Decides.admissionLimit (hdecides : Decides controller request now result) :
    result.2.admissionLimit = controller.admissionLimit := by
  cases hdecides <;> rfl

/-- Nobody waits when a newcomer is admitted. -/
theorem Decides.admitted_waiting (hdecides : Decides controller request now result)
    (h : controller.Orderly) {lease : AdmissionLease} (hadmitted : result.1 = .admitted lease) :
    result.2.waiting = [] := by
  cases hdecides with
  | refused decision count hrefusal => exact absurd hadmitted (hrefusal lease)
  | held ticket => cases hadmitted
  | admitted count hroom => exact h.waiting_nil hroom
  | queued count key hreached => cases hadmitted

end Decision

/-! ## Tickets -/

/-- A ticket leaves the queue, or gives up its offer. -/
theorem settleTicket_frees {id : QueueTicketId} {entry entry' : TicketEntry}
    (h : controller.Orderly) (hentry : controller.tickets[id]? = some entry)
    (hsettled : entry'.state.isLive = false)
    (htickets : controller'.tickets = controller.tickets.insert id entry')
    (hwaiting : controller'.waiting = controller.waiting.filter (· ≠ id))
    (hsame : controller' = { controller with
      waiting := controller'.waiting
      tickets := controller'.tickets
      idempotencyIndex := controller'.idempotencyIndex
      counters := controller'.counters }) :
    Frees controller controller' ∧
      controller'.occupancy + (if entry.state.isOffered then 1 else 0) = controller.occupancy := by
  have hat : ∀ other, controller'.tickets[other]? =
      if other = id then some entry' else controller.tickets[other]? := by
    intro other
    rw [htickets, OrderedMap.getElem?_insert]
  have hnotOffered : entry'.state.isOffered = false := by
    cases hstate : entry'.state with
    | offered expires =>
      rw [hstate] at hsettled
      cases hsettled
    | _ => rfl
  have hoccupancy : controller'.occupancy + (if entry.state.isOffered then 1 else 0) =
      controller.occupancy := by
    have hupdate := @offeredCount_update controller controller' id
      fun other hother => (hat other).trans (if_neg hother)
    rw [hat, if_pos rfl, hentry] at hupdate
    simp only [Option.elim_some, hnotOffered, Bool.false_eq_true, if_false] at hupdate
    have hactive : controller'.active = controller.active := by rw [hsame]
    have hreservations : controller'.reservations = controller.reservations := by rw [hsame]
    unfold occupancy
    rw [hactive, hreservations]
    omega
  have hle : controller'.occupancy ≤ controller.occupancy := by omega
  have hnext : controller'.nextTicket = controller.nextTicket := by rw [hsame]
  refine ⟨⟨⟨?_, ?_, ?_⟩, ⟨?_, ?_⟩, ?_, hle, ?_, hnext, ?_⟩, hoccupancy⟩
  · rw [hwaiting]
    exact h.queued.sorted.filter _
  · intro other
    rw [hwaiting, List.mem_filter, h.queued.listed, isWaiting_iff, isWaiting_iff, hat]
    by_cases heq : other = id
    · rw [if_pos heq]
      refine iff_of_false (fun hin => by simp [heq] at hin) ?_
      rintro ⟨_, hfound, hstate⟩
      rw [Option.some.inj hfound, hstate] at hsettled
      cases hsettled
    · rw [if_neg heq]
      simp [heq]
  · intro other hother
    rw [htickets, OrderedMap.mem_insert] at hother
    rw [hnext]
    rcases hother with rfl | hother
    · exact h.queued.ids other (OrderedMap.mem_of_getElem? hentry)
    · exact h.queued.ids other hother
  · have hallocated : controller'.allocatedCcu = controller.allocatedCcu := by rw [hsame]
    rw [hallocated]
    exact Nat.le_trans hle h.allotted.occupancy
  · rw [hsame]
    exact h.allotted.target
  · rw [hsame]
    exact ⟨h.leased.active, h.leased.reserved, h.leased.disjoint⟩
  · rw [hwaiting]
    exact List.filter_sublist
  · intro other hother
    rw [isOffered, hat] at hother
    split at hother
    · rw [Option.any_some, hnotOffered] at hother
      cases hother
    · exact hother

theorem cancelTicket_frees {id : QueueTicketId} {entry : TicketEntry} (h : controller.Orderly)
    (hentry : controller.tickets[id]? = some entry) :
    Frees controller (controller.cancelTicket id entry) ∧
      (controller.cancelTicket id entry).occupancy + (if entry.state.isOffered then 1 else 0) =
        controller.occupancy :=
  @settleTicket_frees controller (controller.cancelTicket id entry) id entry
    { entry with state := .cancelled } h hentry rfl rfl rfl rfl

/-- An offered ticket is off the queue when it is claimed. -/
theorem claimTicket_frees {id : QueueTicketId} {entry : TicketEntry} {expires : Instant}
    (h : controller.Orderly) (hentry : controller.tickets[id]? = some entry)
    (hstate : entry.state = .offered expires) :
    Frees controller (controller.claimTicket id entry) ∧
      (controller.claimTicket id entry).occupancy + 1 = controller.occupancy := by
  have hout : id ∉ controller.waiting := by
    rw [h.queued.listed, isWaiting_iff]
    rintro ⟨_, hfound, hwaits⟩
    rw [← Option.some.inj (hentry.symm.trans hfound), hstate] at hwaits
    cases hwaits
  have hwaiting : (controller.claimTicket id entry).waiting =
      controller.waiting.filter (· ≠ id) := by
    refine (List.filter_eq_self.mpr ?_).symm
    intro other hother
    exact decide_eq_true fun heq => hout (heq ▸ hother)
  obtain ⟨hfrees, hgiven⟩ := @settleTicket_frees controller (controller.claimTicket id entry) id
    entry { entry with state := .admitted } h hentry rfl rfl hwaiting rfl
  rw [hstate] at hgiven
  exact ⟨hfrees, hgiven⟩

theorem claimTicket_occupancy {id : QueueTicketId} {entry : TicketEntry} {expires : Instant}
    {principal : PrincipalId} (h : controller.Orderly)
    (hentry : controller.tickets[id]? = some entry) (hstate : entry.state = .offered expires) :
    ((controller.claimTicket id entry).admitAt principal now).2.occupancy =
      controller.occupancy := by
  obtain ⟨hfrees, hgiven⟩ := claimTicket_frees h hentry hstate
  exact (admitAt_occupancy hfrees.leased).trans hgiven

/-- The permit of the offer becomes a lease. -/
theorem claimTicket_serves {id : QueueTicketId} {entry : TicketEntry} {expires : Instant}
    {principal : PrincipalId} (h : controller.Orderly)
    (hentry : controller.tickets[id]? = some entry) (hstate : entry.state = .offered expires) :
    Serves controller [] ((controller.claimTicket id entry).admitAt principal now).2 := by
  obtain ⟨hfrees, -⟩ := claimTicket_frees h hentry hstate
  have hoccupancy := @claimTicket_occupancy controller now id entry expires principal h hentry
    hstate
  refine .quiet ⟨⟨hfrees.queued.sorted, hfrees.queued.listed, hfrees.queued.ids⟩, ⟨?_, ?_⟩,
    admitAt_leased hfrees.leased, ?_⟩ hoccupancy rfl rfl hfrees.offered
  · rw [hoccupancy]
    exact h.allotted.occupancy
  · exact h.allotted.target
  · intro hne
    rw [hoccupancy]
    exact h.full hne

/-- No ticket changes its state. -/
def SameStates (controller controller' : AdmissionController) : Prop :=
  ∀ id : QueueTicketId, (controller'.tickets[id]?).map TicketEntry.state =
    (controller.tickets[id]?).map TicketEntry.state

theorem SameStates.isWaiting (h : SameStates controller controller') (id : QueueTicketId) :
    controller'.isWaiting id = controller.isWaiting id := by
  have hany : ∀ found : Option TicketEntry,
      found.any (·.state == .waiting) = (found.map TicketEntry.state).any (· == .waiting) := by
    intro found
    cases found <;> rfl
  rw [AdmissionController.isWaiting, AdmissionController.isWaiting, hany, hany, h id]

theorem SameStates.isOffered (h : SameStates controller controller') (id : QueueTicketId) :
    controller'.isOffered id = controller.isOffered id := by
  have hany : ∀ found : Option TicketEntry,
      found.any (·.state.isOffered) = (found.map TicketEntry.state).any (·.isOffered) := by
    intro found
    cases found <;> rfl
  rw [AdmissionController.isOffered, AdmissionController.isOffered, hany, hany, h id]

theorem SameStates.mem (h : SameStates controller controller') (id : QueueTicketId) :
    id ∈ controller'.tickets ↔ id ∈ controller.tickets := by
  rw [ExtTreeMap.mem_iff_isSome_getElem?, ExtTreeMap.mem_iff_isSome_getElem?,
    ← @Option.isSome_map _ _ TicketEntry.state, h id, Option.isSome_map]

theorem SameStates.offeredCount (h : SameStates controller controller') :
    controller'.offeredCount = controller.offeredCount := by
  rw [offeredCount_eq, offeredCount_eq]
  apply OrderedMap.total_congr h.mem
  intro id
  have hshare : ∀ found : Option TicketEntry,
      found.elim 0 (fun entry => if entry.state.isOffered then 1 else 0) =
        (found.map TicketEntry.state).elim 0 fun state => if state.isOffered then 1 else 0 := by
    intro found
    cases found <;> rfl
  rw [OrderedMap.share, OrderedMap.share, hshare, hshare, h id]

theorem heartbeat_sameStates {id : QueueTicketId} : SameStates controller { controller with
    tickets := controller.tickets.modify id fun entry => { entry with lastHeartbeat := now } } := by
  intro other
  rw [OrderedMap.getElem?_modify]
  split
  · cases controller.tickets[other]? <;> rfl
  · rfl

theorem SameStates.occupancy (h : SameStates controller controller')
    (hactive : controller'.active = controller.active)
    (hreservations : controller'.reservations = controller.reservations) :
    controller'.occupancy = controller.occupancy := by
  unfold AdmissionController.occupancy
  rw [hactive, hreservations, h.offeredCount]

theorem heartbeat_serves {id : QueueTicketId} (h : controller.Orderly) :
    Serves controller [] { controller with
      tickets := controller.tickets.modify id fun entry =>
        { entry with lastHeartbeat := now } } := by
  have hstates := @heartbeat_sameStates controller now id
  have hoccupancy := hstates.occupancy rfl rfl
  refine .quiet ⟨⟨h.queued.sorted, ?_, ?_⟩, ⟨?_, h.allotted.target⟩,
    ⟨h.leased.active, h.leased.reserved, h.leased.disjoint⟩, ?_⟩ hoccupancy rfl rfl ?_
  · intro other
    rw [hstates.isWaiting]
    exact h.queued.listed other
  · intro other hother
    exact h.queued.ids other ((hstates.mem other).mp hother)
  · exact Nat.le_trans (Nat.le_of_eq hoccupancy) h.allotted.occupancy
  · intro hne
    exact Nat.le_trans (h.full hne) (Nat.le_of_eq hoccupancy.symm)
  · intro other hother
    rw [hstates.isOffered] at hother
    exact hother

/-! ## Leases -/

/-- The permit of the reservation goes to the lease. -/
theorem resume_occupancy {token : ResumeToken} {reservation : Reservation} {lease : ActiveLease}
    {counters : UsageCounters} (h : controller.Leased)
    (hreserved : controller.reservations[token]? = some reservation) :
    occupancy { controller with
      reservations := controller.reservations.erase token
      active := controller.active.insert token lease
      counters := counters } = controller.occupancy := by
  have hin := OrderedMap.mem_of_getElem? hreserved
  have hout : token ∉ controller.active := fun hactive => h.disjoint token hactive hin
  have hpositive : 0 < controller.reservations.size := by
    rcases Nat.eq_zero_or_pos controller.reservations.size with hzero | hpos
    · rw [ExtTreeMap.eq_empty_iff_size_eq_zero.mpr hzero] at hin
      simp at hin
    · exact hpos
  show (controller.active.insert token lease).size + (controller.reservations.erase token).size +
    controller.offeredCount = controller.active.size + controller.reservations.size +
      controller.offeredCount
  rw [ExtTreeMap.size_insert, ExtTreeMap.size_erase, if_neg (by simpa using hout),
    if_pos (by simpa using hin)]
  omega

/-- A reservation becomes a lease again. -/
theorem resume_serves {token : ResumeToken} {reservation : Reservation} {lease : ActiveLease}
    {counters : UsageCounters} (h : controller.Orderly)
    (hreserved : controller.reservations[token]? = some reservation) :
    Serves controller [] { controller with
      reservations := controller.reservations.erase token
      active := controller.active.insert token lease
      counters := counters } := by
  have hin := OrderedMap.mem_of_getElem? hreserved
  have hoccupancy := @resume_occupancy controller token reservation lease counters h.leased
    hreserved
  have hlimit : token < controller.nextLease := h.leased.reserved token hin
  refine .quiet ⟨⟨h.queued.sorted, h.queued.listed, h.queued.ids⟩, ⟨?_, h.allotted.target⟩,
    ⟨?_, ?_, ?_⟩, ?_⟩ hoccupancy rfl rfl fun _ => id
  · rw [hoccupancy]
    exact h.allotted.occupancy
  · intro id hid
    rcases OrderedMap.mem_insert.mp hid with rfl | hold
    · exact hlimit
    · exact h.leased.active id hold
  · intro id hid
    exact h.leased.reserved id (OrderedMap.mem_erase.mp hid).2
  · intro id hid hkept
    obtain ⟨hne, hkept⟩ := OrderedMap.mem_erase.mp hkept
    rcases OrderedMap.mem_insert.mp hid with rfl | hold
    · exact hne rfl
    · exact h.leased.disjoint id hold hkept
  · intro hne
    rw [hoccupancy]
    exact h.full hne

/-- `release_at` up to its promotion. -/
def removeLease (controller : AdmissionController) (lease : AdmissionLease)
    (removed : ActiveLease) (reason : ReleaseReason) (now : Instant) : AdmissionController :=
  let active := controller.active.erase lease.id
  let controller := { controller with
    active := active
    counters := (controller.counters.endConnection removed.usageHandle now).setActiveCcu
      (saturatingU32 active.size) }
  if reason = .unexpected then
    { controller with
      reservations := controller.reservations.insert lease.id
        { principal := lease.principal
          expires := (Instant.checkedAdd now controller.policy.reconnectGrace).getD now }
      counters := { controller.counters with
        reconnectReservations := controller.counters.reconnectReservations + 1 } }
  else controller

/-- The lease that `release_at` removes. -/
def releasedLease (controller : AdmissionController) (lease : AdmissionLease) :
    Option ActiveLease :=
  if controller.hasActiveLease lease then controller.active[lease.id]? else none

theorem releaseAt_eq {lease : AdmissionLease} {reason : ReleaseReason} :
    controller.releaseAt lease reason now =
      match controller.releasedLease lease with
      | none => controller
      | some removed =>
        (controller.removeLease lease removed reason now).applyPending.promoteAt now := by
  unfold releaseAt releasedLease
  cases controller.hasActiveLease lease with
  | false => rfl
  | true =>
    cases controller.active[lease.id]? with
    | none => rfl
    | some removed => rfl

/-- A lease that is released unexpectedly leaves its permit to the reservation. -/
theorem removeLease_occupancy {lease : AdmissionLease} {removed : ActiveLease}
    {reason : ReleaseReason} (h : controller.Leased)
    (hactive : controller.active[lease.id]? = some removed) :
    (controller.removeLease lease removed reason now).occupancy +
      (if reason = .unexpected then 0 else 1) = controller.occupancy := by
  have hin := OrderedMap.mem_of_getElem? hactive
  have hout : lease.id ∉ controller.reservations := h.disjoint _ hin
  have hpositive : 0 < controller.active.size := by
    rcases Nat.eq_zero_or_pos controller.active.size with hzero | hpos
    · rw [ExtTreeMap.eq_empty_iff_size_eq_zero.mpr hzero] at hin
      simp at hin
    · exact hpos
  have hsize : (controller.active.erase lease.id).size + 1 = controller.active.size := by
    rw [ExtTreeMap.size_erase, if_pos (by simpa using hin)]
    omega
  unfold removeLease
  dsimp only
  split_ifs with hreason
  · show (controller.active.erase lease.id).size +
        (controller.reservations.insert lease.id
          { principal := lease.principal
            expires := (Instant.checkedAdd now controller.policy.reconnectGrace).getD now }).size +
        controller.offeredCount + 0 = controller.occupancy
    rw [ExtTreeMap.size_insert, if_neg (by simpa using hout)]
    unfold occupancy
    omega
  · show (controller.active.erase lease.id).size + controller.reservations.size +
        controller.offeredCount + 1 = controller.occupancy
    unfold occupancy
    omega

theorem removeLease_leased {lease : AdmissionLease} {removed : ActiveLease}
    {reason : ReleaseReason} (h : controller.Leased)
    (hactive : controller.active[lease.id]? = some removed) :
    (controller.removeLease lease removed reason now).Leased := by
  have hin := OrderedMap.mem_of_getElem? hactive
  unfold removeLease
  dsimp only
  split_ifs with hreason
  · refine ⟨?_, ?_, ?_⟩
    · intro id hid
      exact h.active id (OrderedMap.mem_erase.mp hid).2
    · intro id hid
      rcases OrderedMap.mem_insert.mp hid with rfl | hold
      · exact h.active _ hin
      · exact h.reserved id hold
    · intro id hid hkept
      obtain ⟨hne, hid⟩ := OrderedMap.mem_erase.mp hid
      rcases OrderedMap.mem_insert.mp hkept with rfl | hold
      · exact hne rfl
      · exact h.disjoint id hid hold
  · refine ⟨?_, h.reserved, ?_⟩
    · intro id hid
      exact h.active id (OrderedMap.mem_erase.mp hid).2
    · intro id hid
      exact h.disjoint id (OrderedMap.mem_erase.mp hid).2

/-- What is left when the permits, the leases and the counters are set aside. -/
theorem removeLease_same {lease : AdmissionLease} {removed : ActiveLease}
    {reason : ReleaseReason} :
    controller.removeLease lease removed reason now = { controller with
      active := (controller.removeLease lease removed reason now).active
      reservations := (controller.removeLease lease removed reason now).reservations
      counters := (controller.removeLease lease removed reason now).counters } := by
  unfold removeLease
  dsimp only
  split <;> rfl

theorem removeLease_frees {lease : AdmissionLease} {removed : ActiveLease} {reason : ReleaseReason}
    (h : controller.Orderly) (hactive : controller.active[lease.id]? = some removed) :
    Frees controller (controller.removeLease lease removed reason now) := by
  have hoccupancy := @removeLease_occupancy controller now lease removed reason h.leased hactive
  have hle :
      (controller.removeLease lease removed reason now).occupancy ≤ controller.occupancy := by
    omega
  have hleased := @removeLease_leased controller now lease removed reason h.leased hactive
  have hsame := @removeLease_same controller now lease removed reason
  generalize controller.removeLease lease removed reason now = after at hle hleased hsame
  have hqueued : after.Queued := by
    rw [hsame]
    exact ⟨h.queued.sorted, h.queued.listed, h.queued.ids⟩
  have hallotted : after.Allotted := by
    refine ⟨?_, ?_⟩
    · rw [show after.allocatedCcu = controller.allocatedCcu by rw [hsame]]
      exact Nat.le_trans hle h.allotted.occupancy
    · rw [hsame]
      exact h.allotted.target
  refine ⟨hqueued, hallotted, hleased, hle, ?_, ?_, ?_⟩
  · rw [hsame]
  · rw [hsame]
  · intro id hid
    rw [hsame] at hid
    exact hid

/-- The allocation is raised, or lowered to what is in use at most. -/
theorem reallocate_frees {allocated : UInt32} (h : controller.Orderly)
    (hroom : ¬ allocated < controller.occupied) :
    Frees controller { controller with allocatedCcu := allocated, pendingTarget := none } := by
  have hle := UInt32.lt_iff_toNat_lt.not.mp hroom
  rw [h.allotted.occupied] at hle
  refine ⟨⟨h.queued.sorted, h.queued.listed, h.queued.ids⟩, ⟨Nat.le_of_not_lt hle, ?_⟩,
    ⟨h.leased.active, h.leased.reserved, h.leased.disjoint⟩, Nat.le_refl _, .refl _, rfl,
    fun _ => id⟩
  intro target htarget
  cases htarget

/-- The allocation is to be lowered below what is in use. -/
theorem lower_serves {target : UInt32} (h : controller.Orderly)
    (hover : target < controller.occupied) :
    Serves controller [] { controller with pendingTarget := some target } := by
  have hlt := UInt32.lt_iff_toNat_lt.mp hover
  rw [h.allotted.occupied] at hlt
  refine .quiet ⟨⟨h.queued.sorted, h.queued.listed, h.queued.ids⟩, ⟨h.allotted.occupancy, ?_⟩,
    ⟨h.leased.active, h.leased.reserved, h.leased.disjoint⟩, fun _ => Nat.le_of_lt hlt⟩ rfl rfl rfl
    fun _ => id
  intro other hother
  obtain rfl := Option.some.inj hother
  rw [UInt32.le_iff_toNat_le]
  exact Nat.le_of_lt (Nat.lt_of_lt_of_le hlt h.allotted.occupancy)

end AdmissionController

end Signalweave
