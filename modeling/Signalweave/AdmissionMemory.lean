import Signalweave.AdmissionLeases

/-!
# What an admission controller keeps in memory

A ticket that is settled stays in the table for good. The other tables are bounded by the policy
and the largest allocation, whatever the run.
-/

open Std

namespace Signalweave

namespace AdmissionController

variable {controller controller' : AdmissionController} {op : AdmissionOp} {now : Instant}
  {policy : QueuePolicy} {most : Nat}

/-- The entries of all five tables. -/
def stored (controller : AdmissionController) : Nat :=
  controller.tickets.size + controller.idempotencyIndex.size + controller.waiting.length +
    controller.reservations.size + controller.active.size

/-! ## Tickets -/

/-- Each ticket that has been issued is stored. -/
def KeepsTickets (controller : AdmissionController) : Prop :=
  controller.tickets.size + 1 = controller.nextTicket

theorem size_tickets_of_map {f : QueueTicketId → TicketEntry → TicketEntry}
    (htickets : ∀ id : QueueTicketId,
      controller'.tickets[id]? = (controller.tickets[id]?).map (f id)) :
    controller'.tickets.size = controller.tickets.size := by
  rw [← OrderedMap.card_keySet, ← OrderedMap.card_keySet]
  congr 1
  ext id
  rw [OrderedMap.mem_keySet, OrderedMap.mem_keySet, ExtTreeMap.mem_iff_isSome_getElem?,
    ExtTreeMap.mem_iff_isSome_getElem?, htickets, Option.isSome_map]

theorem size_tickets_insert {id : QueueTicketId} {entry entry' : TicketEntry}
    (hentry : controller.tickets[id]? = some entry) :
    (controller.tickets.insert id entry').size = controller.tickets.size := by
  have hin : id ∈ controller.tickets := OrderedMap.mem_of_getElem? hentry
  rw [ExtTreeMap.size_insert, if_pos (by simpa using hin)]

theorem KeepsTickets.promoteAt (h : controller.KeepsTickets) :
    (controller.promoteAt now).KeepsTickets := by
  apply promoteAt_induction (P := KeepsTickets) _ (fun _ _ h => h) h
  intro middle id rest _ hmiddle
  have hsize : (middle.offerHead now id rest).tickets.size = middle.tickets.size :=
    size_tickets_of_map fun other => getElem?_offerHead
  unfold KeepsTickets
  rw [hsize]
  exact hmiddle

theorem AdmissionChange.keepsTickets (h : AdmissionChange op controller controller')
    (hnumbered : controller.Numbered) (hkeeps : controller.KeepsTickets) :
    controller'.KeepsTickets := by
  cases h with
  | expire =>
    have hsize : (controller.expireEntries op.now).tickets.size = controller.tickets.size :=
      size_tickets_of_map fun id => getElem?_expireEntries
    unfold KeepsTickets
    rw [hsize]
    exact hkeeps
  | settle =>
    unfold KeepsTickets
    rw [applyPending_tickets.1, applyPending_tickets.2.1]
    exact hkeeps
  | promote => exact hkeeps.promoteAt
  | @enqueue request now _ key asked unfiled alone full =>
    have hnew : controller.nextTicket ∉ controller.tickets :=
      fun hin => Nat.lt_irrefl _ (hnumbered _ hin)
    show (controller.tickets.insert controller.nextTicket _).size + 1 = controller.nextTicket + 1
    rw [ExtTreeMap.size_insert, if_neg (by simpa using hnew)]
    exact congrArg (· + 1) hkeeps
  | @heartbeat id now _ waits =>
    show (controller.tickets.modify id _).size + 1 = _
    rw [ExtTreeMap.size_modify]
    exact hkeeps
  | cancel entry found live =>
    apply KeepsTickets.promoteAt
    show (controller.tickets.insert _ _).size + 1 = _
    rw [size_tickets_insert found]
    exact hkeeps
  | claim entry expires found offered =>
    show (controller.tickets.insert _ _).size + 1 = _
    rw [size_tickets_insert found]
    exact hkeeps
  | release removed active found =>
    unfold KeepsTickets
    rw [removeLease_tickets.1, removeLease_tickets.2.1]
    exact hkeeps
  | _ => exact hkeeps

theorem KeepsTickets.apply (h : controller.KeepsTickets) (hnumbered : controller.Numbered)
    (op : AdmissionOp) : (controller.apply op).KeepsTickets := by
  refine ((apply_changes controller op).invariant
    (P := fun after => after.Numbered ∧ after.KeepsTickets) ?_ ⟨hnumbered, h⟩).2
  rintro before after hchange ⟨hbefore, hkeeps⟩
  exact ⟨hchange.numbered hbefore, hchange.keepsTickets hbefore hkeeps⟩

/-! ## The bounds of a run -/

/-- No ticket is ever issued. -/
def NeverQueues (policy : QueuePolicy) (most : Nat) : Prop :=
  policy.enabled = false ∨ policy.maxDepth = 0 ∨ most = 0

/-- The controller stays within the policy and the largest allocation. -/
structure Contained (policy : QueuePolicy) (most : Nat) (controller : AdmissionController) :
    Prop where
  governed : controller.policy = policy
  allocated : controller.allocatedCcu.toNat ≤ most
  target : ∀ target, controller.pendingTarget = some target → target.toNat ≤ most
  waiting : controller.waiting.length ≤ policy.maxDepth
  unissued : NeverQueues policy most → controller.nextTicket = 1

theorem Contained.limit (h : Contained policy most controller) :
    controller.admissionLimit.toNat ≤ most := by
  unfold admissionLimit
  cases htarget : controller.pendingTarget with
  | none => exact h.allocated
  | some target => exact h.target target htarget

theorem Contained.of_same (h : Contained policy most controller)
    (hpolicy : controller'.policy = controller.policy)
    (hallocated : controller'.allocatedCcu = controller.allocatedCcu)
    (htarget : controller'.pendingTarget = controller.pendingTarget)
    (hwaiting : controller'.waiting.length ≤ controller.waiting.length)
    (hnext : controller'.nextTicket = controller.nextTicket) :
    Contained policy most controller' where
  governed := hpolicy.trans h.governed
  allocated := hallocated ▸ h.allocated
  target := htarget ▸ h.target
  waiting := hwaiting.trans h.waiting
  unissued hnever := hnext.trans (h.unissued hnever)

theorem Contained.mono {more : Nat} (h : Contained policy most controller) (hle : most ≤ more) :
    Contained policy more controller where
  governed := h.governed
  allocated := h.allocated.trans hle
  target target htarget := (h.target target htarget).trans hle
  waiting := h.waiting
  unissued hnever := h.unissued (hnever.imp_right (Or.imp_right fun hnone => by omega))

theorem Contained.promoteAt (h : Contained policy most controller) :
    Contained policy most (controller.promoteAt now) := by
  apply promoteAt_induction (P := Contained policy most) _ _ h
  · intro middle id rest hwaiting hmiddle
    refine hmiddle.of_same rfl rfl rfl ?_ rfl
    rw [hwaiting]
    exact Nat.le_succ _
  · exact fun middle f hmiddle => hmiddle.of_same rfl rfl rfl (Nat.le_refl _) rfl

theorem Contained.applyPending (h : Contained policy most controller) :
    Contained policy most controller.applyPending := by
  unfold AdmissionController.applyPending
  split
  · exact h
  · rename_i target htarget
    split
    · refine ⟨h.governed, h.target target htarget, ?_, h.waiting, h.unissued⟩
      intro _ hnone
      cases hnone
    · exact h

/-- What is no request to join and no larger allocation keeps within the bounds. -/
theorem AdmissionChange.contained (h : AdmissionChange op controller controller')
    (hjoin : ∀ request now, op ≠ .requestJoin request now)
    (hcapacity : ∀ update now, op = .applyCapacity update now → update.allocatedCcu.toNat ≤ most)
    (hcontained : Contained policy most controller) : Contained policy most controller' := by
  cases h with
  | expire =>
    exact hcontained.of_same rfl rfl rfl (List.length_filter_le _ _) rfl
  | settle => exact hcontained.applyPending
  | promote => exact hcontained.promoteAt
  | grant => exact absurd rfl (hjoin _ _)
  | enqueue => exact absurd rfl (hjoin _ _)
  | cancel entry found live =>
    apply Contained.promoteAt
    exact hcontained.of_same rfl rfl rfl (List.length_filter_le _ _) rfl
  | release removed active found =>
    rw [removeLease_same]
    exact hcontained.of_same rfl rfl rfl (Nat.le_refl _) rfl
  | lower below =>
    refine ⟨hcontained.governed, hcontained.allocated, ?_, hcontained.waiting, hcontained.unissued⟩
    intro target htarget
    obtain rfl := Option.some.inj htarget
    exact hcapacity _ _ rfl
  | reallocate room =>
    refine ⟨hcontained.governed, hcapacity _ _ rfl, ?_, hcontained.waiting, hcontained.unissued⟩
    intro _ hnone
    cases hnone
  | _ => exact hcontained.of_same rfl rfl rfl (Nat.le_refl _) rfl

theorem Contained.expireAt (h : Contained policy most controller) :
    Contained policy most (controller.expireAt now) := by
  refine (expireAt_changes (.queueStatus 0 now)).invariant ?_ h
  exact fun _ _ hchange hbefore => hchange.contained (by simp) (by simp) hbefore

/-- A newcomer waits only in a queue that is enabled and not yet full, and for a permit. -/
theorem Contained.requestJoinAt (request : JoinRequest) (h : Contained policy most controller)
    (horderly : controller.Orderly) :
    Contained policy most (controller.requestJoinAt request now).2 := by
  have hcounted : Contained policy most controller.countAttempt :=
    h.of_same rfl rfl rfl (Nat.le_refl _) rfl
  have hlapsed : Contained policy most (controller.countAttempt.expireAt now) := hcounted.expireAt
  have hlisted : ∀ id ∈ (controller.countAttempt.expireAt now).waiting,
      (controller.countAttempt.expireAt now).isWaiting id = true := by
    have hcalm : controller.countAttempt.Orderly := horderly.setCounters _
    exact fun id hid => ((expireAt_serves now hcalm).orderly.queued.listed id).mp hid
  show Contained policy most ((controller.countAttempt.expireAt now).decideJoin request now).2
  generalize controller.countAttempt.expireAt now = lapsed at hlapsed hlisted ⊢
  unfold decideJoin
  cases request.idempotencyKey with
  | none => exact hlapsed.of_same rfl rfl rfl (Nat.le_refl _) rfl
  | some key =>
    dsimp only
    by_cases hpaused : lapsed.admissionLimit = 0
    · rw [if_pos hpaused]
      exact hlapsed.of_same rfl rfl rfl (Nat.le_refl _) rfl
    rw [if_neg hpaused]
    cases lapsed.liveTicket key with
    | some ticket => exact hlapsed
    | none =>
      dsimp only
      split_ifs with hheld hroom henabled hdepth
      · exact hlapsed.of_same rfl rfl rfl (Nat.le_refl _) rfl
      · exact hlapsed.of_same rfl rfl rfl (Nat.le_refl _) rfl
      · exact hlapsed.of_same rfl rfl rfl (Nat.le_refl _) rfl
      · exact hlapsed.of_same rfl rfl rfl (Nat.le_refl _) rfl
      · rw [hlapsed.governed] at henabled hdepth
        refine ⟨hlapsed.governed, hlapsed.allocated, hlapsed.target, ?_, ?_⟩
        · show (lapsed.waiting ++ [lapsed.nextTicket]).length ≤ policy.maxDepth
          rw [queueDepth, List.filter_eq_self.mpr hlisted] at hdepth
          rw [List.length_append, List.length_singleton]
          omega
        · rintro (hdisabled | hshallow | hnone)
          · exact absurd hdisabled (by simpa using henabled)
          · exact absurd (Nat.zero_le _) (hshallow ▸ hdepth)
          · have hlimit := hlapsed.limit
            rw [hnone, Nat.le_zero, ← UInt32.toNat_zero, UInt32.toNat_inj] at hlimit
            exact absurd hlimit hpaused

theorem Contained.apply (h : Contained policy most controller) (horderly : controller.Orderly)
    (op : AdmissionOp)
    (hcapacity : ∀ update now, op = .applyCapacity update now →
      update.revision ≤ controller.revision ∨ update.allocatedCcu.toNat ≤ most) :
    Contained policy most (controller.apply op) := by
  cases op with
  | requestJoin request now => exact h.requestJoinAt request horderly
  | applyCapacity update now =>
    rcases hcapacity update now rfl with hstale | hmost
    · rw [AdmissionController.apply, applyCapacityAt_eq, if_pos hstale]
      exact h
    · refine (apply_changes controller (.applyCapacity update now)).invariant ?_ h
      refine fun _ _ hchange hbefore => hchange.contained (by simp) ?_ hbefore
      rintro _ _ ⟨⟩
      exact hmost
  | _ =>
    refine (apply_changes controller _).invariant ?_ h
    exact fun _ _ hchange hbefore => hchange.contained (by simp) (by simp) hbefore

/-- The live tickets wait in the queue or are offered. -/
theorem size_idempotencyIndex_le (horderly : controller.Orderly)
    (hindex : controller.TicketIndex) :
    controller.idempotencyIndex.size ≤ controller.waiting.length + controller.offeredCount := by
  let waiting := controller.waiting.filterMap fun id =>
    (controller.tickets[id]?).map fun entry => entry.ticket.idempotencyKey
  let offered := (controller.tickets.toList.filter fun entry => entry.2.state.isOffered).map
    fun entry => entry.2.ticket.idempotencyKey
  have hcover : ∀ key, key ∈ controller.idempotencyIndex →
      key ∈ (∅ : ExtTreeMap IdempotencyKey QueueTicketId) ∨ key ∈ waiting ++ offered := by
    intro key hkey
    right
    obtain ⟨id, hid⟩ := OrderedMap.exists_of_mem hkey
    obtain ⟨entry, ⟨hentry, hlive⟩, hsame⟩ := (hindex.filed key id).mp hid
    rw [List.mem_append]
    cases hstate : entry.state with
    | waiting =>
      left
      have hlisted := (horderly.queued.listed id).mpr (isWaiting_iff.mpr ⟨entry, hentry, hstate⟩)
      exact List.mem_filterMap.mpr ⟨id, hlisted, by rw [hentry, Option.map_some, hsame]⟩
    | offered expires =>
      right
      refine List.mem_map.mpr ⟨(id, entry), List.mem_filter.mpr ⟨?_, ?_⟩, hsame⟩
      · exact ExtTreeMap.mem_toList_iff_getElem?_eq_some.mpr hentry
      · rw [hstate]
        rfl
    | _ =>
      rw [hstate] at hlive
      cases hlive
  have hsize := OrderedMap.size_le_of_cover _ hcover
  have hwaiting : waiting.length ≤ controller.waiting.length := List.length_filterMap_le _ _
  have hoffered : offered.length = controller.offeredCount := List.length_map ..
  rw [List.length_append] at hsize
  simp only [ExtTreeMap.size_empty] at hsize
  omega

end AdmissionController

/-- A controller beside the largest allocation that it has been given. -/
structure CapacityHistory where
  controller : AdmissionController
  largest : Nat

namespace CapacityHistory

open AdmissionController

/-- A new controller, of which nothing has been asked. -/
def start (metadata : AdmissionMetadata) (policy : QueuePolicy) (capacity : CapacityUpdate)
    (counters : UsageCounters) : CapacityHistory :=
  { controller := .new metadata policy capacity counters
    largest := capacity.allocatedCcu.toNat }

/-- An update with an old revision is not applied. -/
def step (history : CapacityHistory) (op : AdmissionOp) : CapacityHistory :=
  { controller := history.controller.apply op
    largest :=
      match op with
      | .applyCapacity update _ =>
        if update.revision ≤ history.controller.revision then history.largest
        else max history.largest update.allocatedCcu.toNat
      | _ => history.largest }

theorem start_contained (metadata : AdmissionMetadata) (policy : QueuePolicy)
    (capacity : CapacityUpdate) (counters : UsageCounters) :
    Contained policy (start metadata policy capacity counters).largest
      (start metadata policy capacity counters).controller := by
  refine ⟨rfl, Nat.le_refl _, ?_, Nat.zero_le _, fun _ => rfl⟩
  intro target htarget
  cases htarget

/-- What every state of a run has. -/
structure Sound (policy : QueuePolicy) (history : CapacityHistory) : Prop where
  orderly : history.controller.Orderly
  ticketed : history.controller.Ticketed
  keeps : history.controller.KeepsTickets
  contained : Contained policy history.largest history.controller

variable {policy : QueuePolicy} {history : CapacityHistory}

theorem Sound.step (h : Sound policy history) (op : AdmissionOp) :
    Sound policy (history.step op) := by
  have hgrows : history.largest ≤ (history.step op).largest := by
    unfold CapacityHistory.step
    split
    · split
      · exact Nat.le_refl _
      · exact Nat.le_max_left _ _
    · exact Nat.le_refl _
  refine ⟨(apply_serves op h.orderly).orderly, (h.ticketed.step op).1,
    h.keeps.apply h.ticketed.numbered op, (h.contained.mono hgrows).apply h.orderly op ?_⟩
  rintro update now rfl
  by_cases hstale : update.revision ≤ history.controller.revision
  · exact .inl hstale
  · right
    show update.allocatedCcu.toNat ≤ if update.revision ≤ history.controller.revision then _ else _
    rw [if_neg hstale]
    exact Nat.le_max_right _ _

theorem start_sound (metadata : AdmissionMetadata) (policy : QueuePolicy)
    (capacity : CapacityUpdate) (counters : UsageCounters) :
    Sound policy (start metadata policy capacity counters) := by
  refine ⟨new_orderly metadata policy capacity counters,
    new_ticketed metadata policy capacity counters, ?_,
    start_contained metadata policy capacity counters⟩
  rfl

theorem Sound.run (h : Sound policy history) (ops : List AdmissionOp) :
    Sound policy (Transition.run CapacityHistory.step history ops) :=
  Transition.run_invariant (P := Sound policy) (fun _ op h => h.step op) h ops

/-- All but the tickets is bounded. -/
theorem Sound.stored_le (h : Sound policy history) :
    history.controller.stored ≤
      history.controller.tickets.size + 2 * policy.maxDepth + history.largest := by
  have hindex := size_idempotencyIndex_le h.orderly h.ticketed.index
  have hwaiting := h.contained.waiting
  have hpermits := h.orderly.allotted.occupancy
  have hallocated := h.contained.allocated
  unfold occupancy at hpermits
  unfold stored
  omega

end CapacityHistory

namespace AdmissionController

variable {controller : AdmissionController} {now : Instant} {policy : QueuePolicy} {n : Nat}

/-! ## A player who comes and goes -/

/-- One player holds the only permit, and so many tickets have been issued. -/
structure Taken (policy : QueuePolicy) (n : Nat) (controller : AdmissionController) : Prop where
  governed : controller.policy = policy
  allocated : controller.allocatedCcu = 1
  pending : controller.pendingTarget = none
  active : controller.active.size = 1
  reservations : controller.reservations = ∅
  unoffered : ∀ (id : QueueTicketId) (entry : TicketEntry),
    controller.tickets[id]? = some entry → entry.state.isOffered = false
  issued : controller.nextTicket = n + 1

/-- No ticket is live. -/
def Settled (controller : AdmissionController) : Prop :=
  ∀ (id : QueueTicketId) (entry : TicketEntry), controller.tickets[id]? = some entry →
    entry.state.isLive = false

theorem Taken.occupied (h : Taken policy n controller) : controller.occupied = 1 := by
  have hnone : controller.offeredCount = 0 := by
    rw [offeredCount, List.length_eq_zero_iff, List.filter_eq_nil_iff]
    intro entry hin
    rw [h.unoffered entry.1 entry.2 (ExtTreeMap.mem_toList_iff_getElem?_eq_some.mp hin)]
    exact Bool.false_ne_true
  rw [AdmissionController.occupied, h.active, h.reservations, hnone]
  rfl

theorem Taken.limit (h : Taken policy n controller) : controller.admissionLimit = 1 := by
  rw [admissionLimit, h.pending, Option.getD_none, h.allocated]

theorem Taken.not_hasRoom (h : Taken policy n controller) : ¬ controller.HasRoom := by
  intro hroom
  have hlt := hroom.2
  rw [h.occupied, h.limit] at hlt
  exact absurd hlt (by decide)

theorem Taken.setCounters (h : Taken policy n controller) (f : UsageCounters → UsageCounters) :
    Taken policy n (controller.setCounters f) :=
  ⟨h.governed, h.allocated, h.pending, h.active, h.reservations, h.unoffered, h.issued⟩

theorem Taken.promoteAt (h : Taken policy n controller) :
    Taken policy n (controller.promoteAt now) ∧
      (controller.promoteAt now).tickets = controller.tickets := by
  rw [promoteAt_of_full h.not_hasRoom]
  exact ⟨h.setCounters _, rfl⟩

theorem Taken.expireAt (h : Taken policy n controller) :
    Taken policy n (controller.expireAt now) ∧ ∀ id : QueueTicketId,
      (controller.expireAt now).tickets[id]? =
        (controller.tickets[id]?).map (expireEntry controller.policy now) := by
  have hlapsed : Taken policy n (controller.expireEntries now) := by
    refine ⟨h.governed, h.allocated, h.pending, h.active, ?_, ?_, h.issued⟩
    · show controller.reservations.filter _ = ∅
      rw [h.reservations]
      rfl
    · intro id entry hentry
      rw [getElem?_expireEntries] at hentry
      obtain ⟨before, hbefore, rfl⟩ := Option.map_eq_some_iff.mp hentry
      rcases @expireEntry_cases now controller.policy before with hsame | ⟨-, hexpired⟩
      · rw [hsame]
        exact h.unoffered id before hbefore
      · rw [hexpired]
        rfl
  have hpending : (controller.expireEntries now).applyPending = controller.expireEntries now := by
    rw [applyPending, hlapsed.pending]
  obtain ⟨hpromoted, htickets⟩ := @Taken.promoteAt _ now _ _ hlapsed
  rw [AdmissionController.expireAt, hpending]
  refine ⟨hpromoted, fun id => ?_⟩
  rw [htickets, getElem?_expireEntries]

/-- What is settled stays so. -/
theorem isLive_expireEntry {entry : TicketEntry} (h : entry.state.isLive = false) :
    (expireEntry policy now entry).state.isLive = false := by
  rcases @expireEntry_cases now policy entry with hsame | ⟨-, hexpired⟩
  · rw [hsame]
    exact h
  · rw [hexpired]
    rfl

theorem Settled.liveTicket (h : controller.Settled) (key : IdempotencyKey) :
    controller.liveTicket key = none := by
  unfold AdmissionController.liveTicket
  split
  · rename_i entry hentry
    obtain ⟨id, -, hfound⟩ := Option.bind_eq_some_iff.mp hentry
    rw [h id entry hfound, if_neg Bool.false_ne_true]
  · rfl

theorem Settled.hasQueuedPrincipal (h : controller.Settled) (principal : PrincipalId) :
    controller.hasQueuedPrincipal principal = false := by
  rw [AdmissionController.hasQueuedPrincipal, List.any_eq_false]
  intro entry hin
  rw [h entry.1 entry.2 (ExtTreeMap.mem_toList_iff_getElem?_eq_some.mp hin), Bool.and_false]
  exact Bool.false_ne_true

theorem Settled.queueDepth (h : controller.Settled) : controller.queueDepth = 0 := by
  rw [AdmissionController.queueDepth, List.length_eq_zero_iff, List.filter_eq_nil_iff]
  intro id _ hwaiting
  obtain ⟨entry, hentry, hstate⟩ := isWaiting_iff.mp hwaiting
  have hsettled := h id entry hentry
  rw [hstate] at hsettled
  cases hsettled

/-- A player who finds the permit taken is given the next ticket. -/
theorem Taken.join (h : Taken policy n controller) (hsettled : controller.Settled)
    (henabled : policy.enabled = true) (hdepth : 0 < policy.maxDepth) (principal : PrincipalId)
    (key : IdempotencyKey) :
    Taken policy (n + 1) (controller.requestJoinAt ⟨principal, some key⟩ now).2 ∧
      ∀ (id : QueueTicketId) (entry : TicketEntry),
        (controller.requestJoinAt ⟨principal, some key⟩ now).2.tickets[id]? = some entry →
          id = n + 1 ∨ entry.state.isLive = false := by
  obtain ⟨hlapsed, htickets⟩ := @Taken.expireAt _ now _ _ (h.setCounters fun c =>
    { c with joinAttempts := c.joinAttempts + 1 })
  have hstill : ((controller.setCounters fun c =>
      { c with joinAttempts := c.joinAttempts + 1 }).expireAt now).Settled := by
    intro id entry hentry
    rw [htickets] at hentry
    obtain ⟨before, hbefore, rfl⟩ := Option.map_eq_some_iff.mp hentry
    exact isLive_expireEntry (hsettled id before hbefore)
  unfold AdmissionController.requestJoinAt
  generalize (controller.setCounters fun c =>
    { c with joinAttempts := c.joinAttempts + 1 }).expireAt now = lapsed at hlapsed hstill ⊢
  unfold decideJoin
  dsimp only
  rw [if_neg (by rw [hlapsed.limit]; decide), hstill.liveTicket]
  dsimp only
  rw [hstill.hasQueuedPrincipal, if_neg Bool.false_ne_true,
    if_neg (by rw [hlapsed.occupied, hlapsed.limit]; decide),
    if_neg (by rw [hlapsed.governed, henabled]; decide),
    if_neg (by rw [hlapsed.governed, hstill.queueDepth]; omega)]
  have hnew : ∀ (id : QueueTicketId) (entry : TicketEntry),
      (lapsed.tickets.insert lapsed.nextTicket
        { ticket := ⟨lapsed.nextTicket, lapsed.metadata.session, principal, key⟩, created := now
          lastHeartbeat := now, state := .waiting })[id]? = some entry →
        entry.state.isOffered = false ∧ (id = n + 1 ∨ entry.state.isLive = false) := by
    intro id entry hentry
    rw [OrderedMap.getElem?_insert] at hentry
    split at hentry
    · rename_i hid
      obtain rfl := Option.some.inj hentry
      exact ⟨rfl, .inl (hid.trans hlapsed.issued)⟩
    · exact ⟨hlapsed.unoffered id entry hentry, .inr (hstill id entry hentry)⟩
  refine ⟨⟨hlapsed.governed, hlapsed.allocated, hlapsed.pending, hlapsed.active,
    hlapsed.reservations, fun id entry hentry => (hnew id entry hentry).1, ?_⟩,
    fun id entry hentry => (hnew id entry hentry).2⟩
  show lapsed.nextTicket + 1 = n + 1 + 1
  rw [hlapsed.issued]

/-- The player gives the ticket back, if it has not expired already. -/
theorem Taken.cancel (h : Taken policy (n + 1) controller)
    (hothers : ∀ (id : QueueTicketId) (entry : TicketEntry),
      controller.tickets[id]? = some entry → id = n + 1 ∨ entry.state.isLive = false) :
    Taken policy (n + 1) (controller.cancelAt (n + 1) now).2 ∧
      (controller.cancelAt (n + 1) now).2.Settled := by
  obtain ⟨hlapsed, htickets⟩ := @Taken.expireAt _ now _ _ h
  have hstill : ∀ (id : QueueTicketId) (entry : TicketEntry),
      (controller.expireAt now).tickets[id]? = some entry →
        id = n + 1 ∨ entry.state.isLive = false := by
    intro id entry hentry
    rw [htickets] at hentry
    obtain ⟨before, hbefore, rfl⟩ := Option.map_eq_some_iff.mp hentry
    exact (hothers id before hbefore).imp_right isLive_expireEntry
  unfold AdmissionController.cancelAt
  generalize controller.expireAt now = lapsed at hlapsed hstill ⊢
  dsimp only
  cases hentry : lapsed.tickets[n + 1]? with
  | none =>
    refine ⟨hlapsed, fun id entry hfound => (hstill id entry hfound).resolve_left ?_⟩
    rintro rfl
    rw [hentry] at hfound
    cases hfound
  | some entry =>
    have hsettled : entry.state.isLive = false → lapsed.Settled := by
      intro hdead id found hfound
      rcases hstill id found hfound with rfl | hlive
      · obtain rfl := Option.some.inj (hentry.symm.trans hfound)
        exact hdead
      · exact hlive
    dsimp only
    cases hstate : entry.state with
    | waiting =>
      have hcancelled : ∀ (id : QueueTicketId) (found : TicketEntry),
          (lapsed.tickets.insert (n + 1) { entry with state := .cancelled })[id]? = some found →
            found.state.isLive = false ∧ found.state.isOffered = false := by
        intro id found hfound
        rw [OrderedMap.getElem?_insert] at hfound
        split at hfound
        · obtain rfl := Option.some.inj hfound
          exact ⟨rfl, rfl⟩
        · rename_i hid
          exact ⟨(hstill id found hfound).resolve_left hid, hlapsed.unoffered id found hfound⟩
      have hafter : Taken policy (n + 1) (lapsed.cancelTicket (n + 1) entry) :=
        ⟨hlapsed.governed, hlapsed.allocated, hlapsed.pending, hlapsed.active,
          hlapsed.reservations, fun id found hfound => (hcancelled id found hfound).2,
          hlapsed.issued⟩
      obtain ⟨hpromoted, hsame⟩ := @Taken.promoteAt _ now _ _ hafter
      refine ⟨hpromoted, fun id found hfound => ?_⟩
      rw [hsame] at hfound
      exact (hcancelled id found hfound).1
    | offered expires =>
      have hunoffered := hlapsed.unoffered _ entry hentry
      rw [hstate] at hunoffered
      cases hunoffered
    | _ => exact ⟨hlapsed, hsettled (by rw [hstate]; rfl)⟩

/-- Nobody has come yet. -/
structure Vacant (policy : QueuePolicy) (controller : AdmissionController) : Prop where
  governed : controller.policy = policy
  allocated : controller.allocatedCcu = 1
  pending : controller.pendingTarget = none
  active : controller.active = ∅
  reservations : controller.reservations = ∅
  tickets : ∀ id : QueueTicketId, controller.tickets[id]? = none
  waiting : controller.waiting = []
  issued : controller.nextTicket = 1

theorem Vacant.settled (h : Vacant policy controller) : controller.Settled := by
  intro id entry hentry
  rw [h.tickets] at hentry
  cases hentry

theorem Vacant.occupied (h : Vacant policy controller) : controller.occupied = 0 := by
  have hnone : controller.offeredCount = 0 := by
    rw [offeredCount, List.length_eq_zero_iff, List.filter_eq_nil_iff]
    intro entry hin
    have hentry := ExtTreeMap.mem_toList_iff_getElem?_eq_some.mp hin
    rw [h.tickets] at hentry
    cases hentry
  rw [AdmissionController.occupied, h.active, h.reservations, hnone]
  rfl

theorem Vacant.expireAt (h : Vacant policy controller) :
    Vacant policy (controller.expireAt now) := by
  have hlapsed : Vacant policy (controller.expireEntries now) := by
    refine ⟨h.governed, h.allocated, h.pending, h.active, ?_, ?_, ?_, h.issued⟩
    · show controller.reservations.filter _ = ∅
      rw [h.reservations]
      rfl
    · intro id
      rw [getElem?_expireEntries, h.tickets]
      rfl
    · show controller.waiting.filter _ = []
      rw [h.waiting]
      rfl
  have hpending : (controller.expireEntries now).applyPending = controller.expireEntries now := by
    rw [applyPending, hlapsed.pending]
  have hloop : promoteLoop now (controller.expireEntries now).waiting
      (controller.expireEntries now) = controller.expireEntries now := by
    rw [hlapsed.waiting]
    rfl
  rw [AdmissionController.expireAt, hpending, AdmissionController.promoteAt, hloop]
  exact ⟨hlapsed.governed, hlapsed.allocated, hlapsed.pending, hlapsed.active,
    hlapsed.reservations, hlapsed.tickets, hlapsed.waiting, hlapsed.issued⟩

/-- The first player takes the permit. -/
theorem Vacant.join (h : Vacant policy controller) (principal : PrincipalId)
    (key : IdempotencyKey) :
    Taken policy 0 (controller.requestJoinAt ⟨principal, some key⟩ now).2 ∧
      (controller.requestJoinAt ⟨principal, some key⟩ now).2.Settled := by
  have hcounted : Vacant policy (controller.setCounters fun c =>
      { c with joinAttempts := c.joinAttempts + 1 }) :=
    ⟨h.governed, h.allocated, h.pending, h.active, h.reservations, h.tickets, h.waiting, h.issued⟩
  have hlapsed := @Vacant.expireAt _ now _ hcounted
  have hlimit : ((controller.setCounters fun c =>
      { c with joinAttempts := c.joinAttempts + 1 }).expireAt now).admissionLimit = 1 := by
    rw [admissionLimit, hlapsed.pending, Option.getD_none, hlapsed.allocated]
  unfold AdmissionController.requestJoinAt
  generalize (controller.setCounters fun c =>
    { c with joinAttempts := c.joinAttempts + 1 }).expireAt now = lapsed at hlapsed hlimit ⊢
  unfold decideJoin
  dsimp only
  rw [if_neg (by rw [hlimit]; decide), hlapsed.settled.liveTicket]
  dsimp only
  rw [hlapsed.settled.hasQueuedPrincipal, if_neg Bool.false_ne_true,
    if_pos (by rw [hlapsed.occupied, hlimit]; decide)]
  refine ⟨⟨hlapsed.governed, hlapsed.allocated, hlapsed.pending, ?_, hlapsed.reservations, ?_,
    hlapsed.issued⟩, hlapsed.settled⟩
  · show (lapsed.active.insert lapsed.nextLease _).size = 1
    rw [hlapsed.active]
    rfl
  · intro id entry hentry
    replace hentry : lapsed.tickets[id]? = some entry := hentry
    rw [hlapsed.tickets] at hentry
    cases hentry

end AdmissionController

namespace Sample

open AdmissionController

/-- A controller with one permit. -/
def onePlace (policy : QueuePolicy) : CapacityHistory :=
  .start { nodeId := ⟨1⟩, session := ⟨⟨1⟩, ⟨1⟩⟩ } policy { allocatedCcu := 1, revision := 0 }
    { metadata := { nodeId := ⟨1⟩, session := ⟨⟨1⟩, ⟨1⟩⟩ } }

theorem onePlace_sound {policy : QueuePolicy} : CapacityHistory.Sound policy (onePlace policy) :=
  CapacityHistory.start_sound _ policy _ _

/-- The first player stays. Another comes and goes away again, so many times. -/
def churn : Nat → List AdmissionOp
  | 0 => [.requestJoin ⟨⟨0⟩, some (numberedKey 0)⟩ 0]
  | n + 1 =>
    churn n ++ [.requestJoin ⟨⟨1⟩, some (numberedKey 1)⟩ 0, .cancel (n + 1) 0]

variable {policy : QueuePolicy}

theorem run_churn (henabled : policy.enabled = true) (hdepth : 0 < policy.maxDepth) (n : Nat) :
    let history := Transition.run CapacityHistory.step (onePlace policy) (churn n)
    Taken policy n history.controller ∧ history.controller.Settled ∧ history.largest = 1 := by
  induction n with
  | zero =>
    have hvacant : Vacant policy (onePlace policy).controller :=
      ⟨rfl, rfl, rfl, rfl, rfl, fun _ => rfl, rfl, rfl⟩
    obtain ⟨htaken, hsettled⟩ := @Vacant.join _ 0 _ hvacant ⟨0⟩ (numberedKey 0)
    exact ⟨htaken, hsettled, rfl⟩
  | succ n ih =>
    intro history
    obtain ⟨htaken, hsettled, hlargest⟩ := ih
    obtain ⟨hjoined, hothers⟩ :=
      @Taken.join _ 0 _ _ htaken hsettled henabled hdepth ⟨1⟩ (numberedKey 1)
    obtain ⟨hleft, hgone⟩ := @Taken.cancel _ 0 _ _ hjoined hothers
    have hsplit : history = ((Transition.run CapacityHistory.step (onePlace policy) (churn n)).step
        (.requestJoin ⟨⟨1⟩, some (numberedKey 1)⟩ 0)).step (.cancel (n + 1) 0) :=
      Transition.run_append ..
    rw [hsplit]
    exact ⟨hleft, hgone, hlargest⟩

/-- With a queue and a permit more is stored than any number. -/
theorem exists_stored_ge (henabled : policy.enabled = true) (hdepth : 0 < policy.maxDepth)
    {most : UInt32} (hmost : most ≠ 0) (n : Nat) : ∃ ops,
    (Transition.run CapacityHistory.step (onePlace policy) ops).largest = most.toNat ∧
      n ≤ (Transition.run CapacityHistory.step (onePlace policy) ops).controller.stored := by
  obtain ⟨htaken, -, hlargest⟩ := run_churn henabled hdepth n
  -- The last operation raises the allocation.
  let raised := Transition.run CapacityHistory.step (onePlace policy) (churn n)
  let update : CapacityUpdate :=
    { allocatedCcu := most, revision := raised.controller.revision + 1 }
  refine ⟨churn n ++ [.applyCapacity update 0], ?_, ?_⟩
  · rw [Transition.run_append]
    show (if raised.controller.revision + 1 ≤ raised.controller.revision then _ else
      max raised.largest most.toNat) = most.toNat
    have hpositive : 0 < most.toNat := by
      rw [Nat.pos_iff_ne_zero, ← UInt32.toNat_zero, Ne, UInt32.toNat_inj]
      exact hmost
    rw [if_neg (Nat.not_succ_le_self _), show raised.largest = 1 from hlargest]
    omega
  · have hbefore : CapacityHistory.Sound policy raised := onePlace_sound.run (churn n)
    have hafter : CapacityHistory.Sound policy (raised.step (.applyCapacity update 0)) :=
      hbefore.step _
    have hnext := (apply_serves (.applyCapacity update 0) hbefore.orderly).nextTicket
    have hkept : (raised.step (.applyCapacity update 0)).controller.tickets.size + 1 =
        (raised.controller.apply (.applyCapacity update 0)).nextTicket := hafter.keeps
    have hissued : raised.controller.nextTicket = n + 1 := htaken.issued
    rw [Transition.run_append]
    show n ≤ (raised.step (.applyCapacity update 0)).controller.stored
    unfold AdmissionController.stored
    omega

end Sample

namespace CapacityHistory

/-- For which policies and allocations a controller stays within some bound: only for those under
which no ticket is ever issued. All but the tickets is bounded in every run, and of the tickets
each one issued is stored. -/
theorem run_stored_bounded_iff (policy : QueuePolicy) (most : UInt32) :
    ((∃ bound, ∀ metadata capacity counters ops,
        let history := Transition.run step (start metadata policy capacity counters) ops
        history.largest = most.toNat → history.controller.stored ≤ bound) ↔
      policy.enabled = false ∨ policy.maxDepth = 0 ∨ most = 0) ∧
    ∀ metadata capacity counters ops,
      let history := Transition.run step (start metadata policy capacity counters) ops
      history.controller.stored ≤
          history.controller.tickets.size + 2 * policy.maxDepth + history.largest ∧
        history.controller.tickets.size + 1 = history.controller.nextTicket := by
  refine ⟨⟨?_, ?_⟩, ?_⟩
  · rintro ⟨bound, hbound⟩
    by_contra hqueues
    push Not at hqueues
    obtain ⟨henabled, hdepth, hmost⟩ := hqueues
    obtain ⟨ops, hlargest, hstored⟩ := Sample.exists_stored_ge (by simpa using henabled)
      (Nat.pos_of_ne_zero hdepth) hmost (bound + 1)
    exact absurd (hbound _ _ _ ops hlargest) (Nat.not_le_of_lt hstored)
  · intro hnever
    refine ⟨2 * policy.maxDepth + most.toNat, fun metadata capacity counters ops hlargest => ?_⟩
    have hsound := (start_sound metadata policy capacity counters).run ops
    have hstored := hsound.stored_le
    have hidle : AdmissionController.NeverQueues policy
        (Transition.run step (start metadata policy capacity counters) ops).largest := by
      rw [hlargest]
      refine hnever.imp_right (Or.imp_right ?_)
      rintro rfl
      rfl
    have hissued := hsound.contained.unissued hidle
    have hkept := hsound.keeps
    unfold AdmissionController.KeepsTickets at hkept
    omega
  · intro metadata capacity counters ops
    have hsound := (start_sound metadata policy capacity counters).run ops
    exact ⟨hsound.stored_le, hsound.keeps⟩

/-- No bound depends on the policy and the largest allocation only. -/
theorem run_stored_unbounded : ¬ ∃ bound : QueuePolicy → Nat → Nat,
    ∀ metadata policy capacity counters ops,
      let history := Transition.run step (start metadata policy capacity counters) ops
      history.controller.stored ≤ bound policy history.largest := by
  rintro ⟨bound, hbound⟩
  obtain ⟨ops, hlargest, hstored⟩ :=
    @Sample.exists_stored_ge {} rfl (by decide) 1 (by decide) (bound {} 1 + 1)
  have hwithin : (Transition.run step (Sample.onePlace {}) ops).controller.stored ≤
      bound {} (Transition.run step (Sample.onePlace {}) ops).largest := hbound _ _ _ _ ops
  rw [show (Transition.run step (Sample.onePlace {}) ops).largest = 1 from hlargest] at hwithin
  omega

end CapacityHistory

end Signalweave
