import Signalweave.AdmissionChanges

/-!
# Pending targets

An allocation below what is in use is kept as a pending target, which becomes the allocation once
enough permits are free. Not every operation that frees a permit looks at the target.
-/

open Std

namespace Signalweave

/-- The offer has run out. -/
def TicketState.isDue (now : Instant) : TicketState → Bool
  | .offered expires => expires ≤ now
  | _ => false

namespace AdmissionController

variable {controller after : AdmissionController} {now : Instant} {target : UInt32}

/-- The permits that have run out: reservations and offers. -/
def due (controller : AdmissionController) (now : Instant) : Nat :=
  (controller.reservations.toList.filter fun entry => entry.2.expires ≤ now).length +
    (controller.tickets.toList.filter fun entry => entry.2.state.isDue now).length

/-- A pending target is below what is in use, and the slots that are shown as available are within
the limit of admission. -/
structure Prompt (controller : AdmissionController) : Prop where
  target : ∀ target, controller.pendingTarget = some target → target < controller.occupied
  slots : controller.snapshot.availableSlots.toNat ≤
    controller.admissionLimit.toNat - controller.occupied.toNat

/-- While a target is pending, every permit of the allocation is in use. -/
def Drains (controller : AdmissionController) : Prop :=
  ∀ target, controller.pendingTarget = some target →
    target.toNat < controller.occupancy ∧ controller.occupancy = controller.allocatedCcu.toNat

theorem availableSlots_toNat (h : controller.Allotted) :
    controller.snapshot.availableSlots.toNat =
      controller.allocatedCcu.toNat - controller.occupancy := by
  have hle : controller.occupied ≤ controller.allocatedCcu := by
    rw [UInt32.le_iff_toNat_le, h.occupied]
    exact h.occupancy
  show (if controller.occupied ≤ controller.allocatedCcu then
    controller.allocatedCcu - controller.occupied else 0).toNat = _
  rw [if_pos hle, UInt32.toNat_sub_of_le _ _ hle, h.occupied]

theorem Orderly.prompt_iff (h : controller.Orderly) : controller.Prompt ↔ controller.Drains := by
  have hslots := availableSlots_toNat h.allotted
  have hwithin := h.allotted.occupancy
  constructor
  · intro hprompt target htarget
    have hlt := UInt32.lt_iff_toNat_lt.mp (hprompt.target target htarget)
    have hle := hprompt.slots
    rw [h.allotted.occupied] at hlt
    rw [hslots, h.allotted.occupied, admissionLimit, htarget, Option.getD_some] at hle
    omega
  · intro hdrains
    refine ⟨?_, ?_⟩
    · intro target htarget
      rw [UInt32.lt_iff_toNat_lt, h.allotted.occupied]
      exact (hdrains target htarget).1
    · rw [hslots, h.allotted.occupied, admissionLimit]
      cases htarget : controller.pendingTarget with
      | none => exact Nat.le_refl _
      | some target =>
        have hfull := (hdrains target htarget).2
        omega

/-! ## Expiry -/

theorem expireEntry_isOffered {policy : QueuePolicy} {entry : TicketEntry} :
    (expireEntry policy now entry).state.isOffered =
      (entry.state.isOffered && !entry.state.isDue now) := by
  unfold expireEntry
  cases hstate : entry.state with
  | offered expires =>
    by_cases hdue : expires ≤ now
    · simp [TicketState.isOffered, TicketState.isDue, hdue]
    · simp [TicketState.isOffered, TicketState.isDue, hdue, hstate]
  | waiting =>
    dsimp only
    split
    · rfl
    · simp [hstate, TicketState.isOffered]
  | _ => simp [hstate, TicketState.isOffered]

/-- The permits in use are those that stay and those that have run out. -/
theorem expireEntries_occupancy :
    (controller.expireEntries now).occupancy + controller.due now = controller.occupancy := by
  have hreservations : (controller.expireEntries now).reservations.size +
      (controller.reservations.toList.filter fun entry => entry.2.expires ≤ now).length =
        controller.reservations.size := by
    show (controller.reservations.filter fun _ reservation => now < reservation.expires).size +
      _ = _
    rw [← ExtTreeMap.length_toList, ← ExtTreeMap.length_toList, ExtTreeMap.toList_filter,
      List.length_eq_length_filter_add (l := controller.reservations.toList)
        (f := fun entry => decide (now < entry.2.expires))]
    simp only [← Nat.not_lt, decide_not]
  have hoffered : (controller.expireEntries now).offeredCount +
      (controller.tickets.toList.filter fun entry => entry.2.state.isDue now).length =
        controller.offeredCount := by
    have hafter : (controller.expireEntries now).offeredCount =
        OrderedMap.total (fun _ entry =>
          if (expireEntry controller.policy now entry).state.isOffered then 1 else 0)
          controller.tickets := by
      rw [offeredCount_eq]
      apply OrderedMap.total_congr
      · intro id
        exact ExtTreeMap.mem_map
      · intro id
        rw [OrderedMap.share, OrderedMap.share, getElem?_expireEntries]
        cases controller.tickets[id]? with
        | none => rfl
        | some entry => rfl
    rw [hafter, ← OrderedMap.length_filter_toList (p := fun entry =>
      (expireEntry controller.policy now entry.2).state.isOffered), offeredCount]
    induction controller.tickets.toList with
    | nil => rfl
    | cons entry rest ih =>
      have hdue : entry.2.state.isDue now = true → entry.2.state.isOffered = true := by
        cases entry.2.state <;> simp [TicketState.isDue, TicketState.isOffered]
      simp only [List.filter_cons, expireEntry_isOffered] at ih ⊢
      cases hentry : entry.2.state.isOffered with
      | false =>
        have hnot : entry.2.state.isDue now = false := by
          rw [← Bool.not_eq_true]
          intro hisDue
          rw [hdue hisDue] at hentry
          cases hentry
        simpa [hnot] using ih
      | true =>
        cases hisDue : entry.2.state.isDue now <;> simp <;> omega
  unfold occupancy due
  show controller.active.size + _ + _ + _ = _
  omega

theorem Allotted.not_hasRoom (h : controller.Allotted)
    (hpending : controller.pendingTarget = some target)
    (hreached : target.toNat ≤ controller.occupancy) : ¬ controller.HasRoom := by
  intro hroom
  have hlt := UInt32.lt_iff_toNat_lt.mp hroom.2
  rw [h.occupied, admissionLimit, hpending, Option.getD_some] at hlt
  omega

/-- A target that the occupancy has reached becomes the allocation. -/
theorem settle_reached (h : controller.Allotted)
    (hreached : ∀ target, controller.pendingTarget = some target →
      controller.occupancy ≤ target.toNat) :
    (controller.applyPending.promoteAt now).pendingTarget = none := by
  rw [pendingTarget_promoteAt, applyPending]
  cases hpending : controller.pendingTarget with
  | none => exact hpending
  | some target =>
    have hle : controller.occupied ≤ target := by
      rw [UInt32.le_iff_toNat_le, h.occupied]
      exact hreached target hpending
    dsimp only
    rw [if_pos hle]

/-- Until then nothing is settled and nothing promoted. -/
theorem settle_draining (h : controller.Allotted)
    (hpending : controller.pendingTarget = some target)
    (hover : target.toNat < controller.occupancy) :
    ∃ f, controller.applyPending.promoteAt now = controller.setCounters f := by
  have hnot : ¬ controller.occupied ≤ target := by
    rw [UInt32.le_iff_toNat_le, h.occupied]
    omega
  have hsame : controller.applyPending = controller := by
    rw [applyPending, hpending]
    exact if_neg hnot
  have hfull : ¬ controller.HasRoom := h.not_hasRoom hpending (Nat.le_of_lt hover)
  rw [hsame, promoteAt_of_full hfull]
  exact ⟨_, rfl⟩

/-- While no permit has run out, the offers stay. -/
theorem isOffered_expireEntries {id : QueueTicketId} (hdue : controller.due now = 0) :
    (controller.expireEntries now).isOffered id = controller.isOffered id := by
  rw [isOffered, isOffered, getElem?_expireEntries]
  cases hentry : controller.tickets[id]? with
  | none => rfl
  | some entry =>
    have hnot : entry.state.isDue now = false := by
      have hempty := (Nat.add_eq_zero_iff.mp hdue).2
      rw [List.length_eq_zero_iff, List.filter_eq_nil_iff] at hempty
      have hin := hempty (id, entry) (ExtTreeMap.mem_toList_iff_getElem?_eq_some.mpr hentry)
      exact Bool.not_eq_true _ ▸ hin
    rw [Option.map_some, Option.any_some, Option.any_some, expireEntry_isOffered, hnot,
      Bool.not_false,
      Bool.and_true]

/-! ## One operation -/

/-- What an operation does to the allocation after its expiry, apart from `release_at` and
`apply_capacity_at`: it gives up so many permits while a target is pending. -/
structure Yields (controller : AdmissionController) (given : Nat) (after : AdmissionController) :
    Prop where
  pending : after.pendingTarget = controller.pendingTarget
  allocated : after.allocatedCcu = controller.allocatedCcu
  occupancy : ∀ target, controller.pendingTarget = some target →
    target.toNat < controller.occupancy → after.occupancy + given = controller.occupancy

theorem Yields.refl : Yields controller 0 controller := ⟨rfl, rfl, fun _ _ _ => rfl⟩

theorem decideJoin_yields (request : JoinRequest) (h : controller.Orderly) :
    Yields controller 0 (controller.decideJoin request now).2 := by
  have hdecides := @decideJoin_decides controller now request
  generalize controller.decideJoin request now = result at hdecides
  cases hdecides with
  | refused decision count _ => exact ⟨rfl, rfl, fun _ _ _ => rfl⟩
  | held ticket => exact .refl
  | admitted count hroom =>
    refine ⟨rfl, rfl, ?_⟩
    intro target htarget hlt
    have hbelow := UInt32.lt_iff_toNat_lt.mp hroom
    rw [h.allotted.occupied, admissionLimit, htarget, Option.getD_some] at hbelow
    omega
  | queued count key hreached =>
    exact ⟨rfl, rfl, fun _ _ _ => enqueue_occupancy (h.setCounters count).queued⟩

theorem heartbeat_yields {id : QueueTicketId} : Yields controller 0 { controller with
    tickets := controller.tickets.modify id fun entry => { entry with lastHeartbeat := now } } :=
  ⟨rfl, rfl, fun _ _ _ => heartbeat_sameStates.occupancy rfl rfl⟩

/-- A cancelled offer gives up its permit, and nobody looks at the target. -/
theorem cancelTicket_yields {id : QueueTicketId} {entry : TicketEntry} (h : controller.Orderly)
    (hentry : controller.tickets[id]? = some entry) :
    Yields controller (if controller.isOffered id then 1 else 0)
      ((controller.cancelTicket id entry).promoteAt now) := by
  obtain ⟨hfrees, hgiven⟩ := cancelTicket_frees h hentry
  have hoffered : controller.isOffered id = entry.state.isOffered := by
    rw [isOffered, hentry, Option.any_some]
  refine ⟨pendingTarget_promoteAt, ?_, ?_⟩
  · rw [(promoteAt_settles now hfrees.queued hfrees.allotted).promotes.same]
    rfl
  · intro target htarget hlt
    have hreached : target.toNat ≤ (controller.cancelTicket id entry).occupancy := by
      split at hgiven <;> omega
    rw [promoteAt_of_full (hfrees.allotted.not_hasRoom htarget hreached), hoffered]
    exact hgiven

/-- After the expiry at its start. -/
theorem Yields.drains_iff {given : Nat} (h : controller.Orderly) (hdrains : controller.Drains)
    (hyields : Yields (controller.expireAt now) given after) :
    after.Drains ↔ ∀ target, controller.pendingTarget = some target →
      controller.occupancy ≤ target.toNat + controller.due now ∨
        controller.due now = 0 ∧ given = 0 := by
  have hallotted := (@expireEntries_frees controller now h).allotted
  have hsum := @expireEntries_occupancy controller now
  cases hpending : controller.pendingTarget with
  | none =>
    have hsettled : (controller.expireAt now).pendingTarget = none := by
      apply settle_reached hallotted
      intro target htarget
      rw [show (controller.expireEntries now).pendingTarget = none from hpending] at htarget
      cases htarget
    constructor
    · intro _ target htarget
      cases htarget
    · intro _ target htarget
      rw [hyields.pending, hsettled] at htarget
      cases htarget
  | some target =>
    obtain ⟨hover, hfull⟩ := hdrains target hpending
    have hexpired : (controller.expireEntries now).pendingTarget = some target := hpending
    simp only [Option.some.injEq, forall_eq']
    by_cases hreached : controller.occupancy ≤ target.toNat + controller.due now
    · have hsettled : (controller.expireAt now).pendingTarget = none := by
        apply settle_reached hallotted
        intro other hother
        rw [hexpired] at hother
        obtain rfl := Option.some.inj hother
        omega
      refine iff_of_true ?_ (Or.inl hreached)
      intro other hother
      rw [hyields.pending, hsettled] at hother
      cases hother
    · obtain ⟨f, hsame⟩ := @settle_draining (controller.expireEntries now) now target hallotted
        hexpired (by omega)
      have hlapsed : controller.expireAt now = (controller.expireEntries now).setCounters f := hsame
      have hoccupancy : (controller.expireAt now).occupancy =
          (controller.expireEntries now).occupancy := by
        rw [hlapsed]
        rfl
      have hlapsedTarget : (controller.expireAt now).pendingTarget = some target := by
        rw [hlapsed]
        exact hexpired
      have hallocated : after.allocatedCcu = controller.allocatedCcu := by
        rw [hyields.allocated, hlapsed]
        rfl
      have hgiven := hyields.occupancy target hlapsedTarget (by omega)
      constructor
      · intro hafter
        have hlater := (hafter target (hyields.pending.trans hlapsedTarget)).2
        rw [hallocated] at hlater
        right
        omega
      · intro hcondition other hother
        rw [hyields.pending, hlapsedTarget] at hother
        obtain rfl := Option.some.inj hother
        rw [hallocated]
        rcases hcondition with hle | ⟨hdue, hzero⟩
        · exact absurd hle hreached
        · omega

theorem cancelAt_yields (id : QueueTicketId) (h : controller.Orderly) :
    Yields (controller.expireAt now) (if (controller.expireAt now).isOffered id then 1 else 0)
      (controller.cancelAt id now).2 := by
  have hexpired := (expireAt_serves now h).orderly
  unfold cancelAt
  dsimp only
  cases hentry : (controller.expireAt now).tickets[id]? with
  | none =>
    rw [isOffered, hentry]
    exact .refl
  | some entry =>
    dsimp only
    have hcancelled := @cancelTicket_yields (controller.expireAt now) now id entry hexpired hentry
    rw [isOffered, hentry, Option.any_some] at hcancelled ⊢
    cases hstate : entry.state with
    | waiting =>
      rw [hstate] at hcancelled
      exact hcancelled
    | offered expires =>
      rw [hstate] at hcancelled
      exact hcancelled
    | _ => exact .refl

theorem claimOfferAt_yields (id : QueueTicketId) (h : controller.Orderly) :
    Yields (controller.expireAt now) 0 (controller.claimOfferAt id now).2 := by
  have hexpired := (expireAt_serves now h).orderly
  unfold claimOfferAt
  dsimp only
  cases hentry : (controller.expireAt now).tickets[id]? with
  | none => exact .refl
  | some entry =>
    dsimp only
    cases hstate : entry.state with
    | offered expires => exact ⟨rfl, rfl, fun _ _ _ => claimTicket_occupancy hexpired hentry hstate⟩
    | _ => exact .refl

theorem resumeAt_yields (token : ResumeToken) (principal : PrincipalId) (h : controller.Orderly) :
    Yields (controller.expireAt now) 0 (controller.resumeAt token principal now).2 := by
  have hexpired := (expireAt_serves now h).orderly
  unfold resumeAt
  dsimp only
  cases hreserved : (controller.expireAt now).reservations[token]? with
  | none => exact .refl
  | some reservation =>
    dsimp only
    split_ifs
    · exact .refl
    · exact ⟨rfl, rfl, fun _ _ _ => resume_occupancy hexpired.leased hreserved⟩

/-- A release looks at the target. -/
theorem releaseAt_drains_iff (lease : AdmissionLease) (reason : ReleaseReason)
    (h : controller.Orderly) (hdrains : controller.Drains) :
    (controller.releaseAt lease reason now).Drains ↔
      (controller.hasActiveLease lease = true → reason = .intentional →
        ∀ target, controller.pendingTarget = some target →
          controller.occupancy ≤ target.toNat + 1) := by
  rw [releaseAt_eq, releasedLease]
  cases hactive : controller.hasActiveLease lease with
  | false => exact iff_of_true hdrains fun hnot => by cases hnot
  | true =>
    obtain ⟨removed, hfound, -⟩ : ∃ removed, controller.active[lease.id]? = some removed ∧
        (removed.principal == lease.principal) = true := by
      rw [hasActiveLease, Bool.and_eq_true] at hactive
      exact (Option.any_eq_true _ _).mp hactive.2
    rw [if_pos rfl, hfound]
    dsimp only
    have hremoved := @removeLease_frees controller now lease removed reason h hfound
    have hgiven := @removeLease_occupancy controller now lease removed reason h.leased hfound
    have hsame := @removeLease_same controller now lease removed reason
    generalize controller.removeLease lease removed reason now = middle at hremoved hgiven hsame ⊢
    have htarget : middle.pendingTarget = controller.pendingTarget := by rw [hsame]
    have hallocated : middle.allocatedCcu = controller.allocatedCcu := by rw [hsame]
    cases hpending : controller.pendingTarget with
    | none =>
      have hsettled : (middle.applyPending.promoteAt now).pendingTarget = none := by
        apply settle_reached hremoved.allotted
        intro target hsome
        rw [htarget, hpending] at hsome
        cases hsome
      refine iff_of_true ?_ fun _ _ target hsome => by cases hsome
      intro target hsome
      rw [hsettled] at hsome
      cases hsome
    | some target =>
      obtain ⟨hover, hfull⟩ := hdrains target hpending
      rw [hpending] at htarget
      simp only [Option.some.injEq, forall_eq', forall_true_left]
      by_cases hreached : middle.occupancy ≤ target.toNat
      · have hsettled : (middle.applyPending.promoteAt now).pendingTarget = none := by
          apply settle_reached hremoved.allotted
          intro other hother
          rw [htarget] at hother
          obtain rfl := Option.some.inj hother
          exact hreached
        refine iff_of_true ?_ ?_
        · intro other hother
          rw [hsettled] at hother
          cases hother
        · intro _
          split at hgiven <;> omega
      · obtain ⟨f, hafter⟩ := @settle_draining middle now target hremoved.allotted htarget
          (by omega)
        have hafterDrains : (middle.setCounters f).Drains ↔
            middle.occupancy = controller.occupancy := by
          constructor
          · intro hlater
            have heq : middle.occupancy = middle.allocatedCcu.toNat := (hlater target htarget).2
            rw [heq, hallocated, hfull]
          · intro heq other hother
            rw [show (middle.setCounters f).pendingTarget = some target from htarget] at hother
            obtain rfl := Option.some.inj hother
            show target.toNat < middle.occupancy ∧ middle.occupancy = middle.allocatedCcu.toNat
            rw [hallocated]
            omega
        rw [hafter, hafterDrains]
        cases reason with
        | intentional =>
          rw [if_neg (by simp)] at hgiven
          simp
          omega
        | unexpected =>
          rw [if_pos rfl] at hgiven
          exact iff_of_true hgiven fun hnot => by cases hnot

theorem applyCapacityAt_drains_iff (update : CapacityUpdate) (h : controller.Orderly)
    (hdrains : controller.Drains) :
    (controller.applyCapacityAt update now).2.Drains ↔
      (controller.revision < update.revision → update.allocatedCcu < controller.occupied →
        controller.occupied = controller.allocatedCcu) := by
  rw [applyCapacityAt_eq]
  split_ifs with hstale hbelow
  · exact iff_of_true hdrains fun hnewer => absurd hnewer (Nat.not_lt.mpr hstale)
  · have hbelow : update.allocatedCcu < controller.occupied := hbelow
    have hlt := UInt32.lt_iff_toNat_lt.mp hbelow
    rw [h.allotted.occupied] at hlt
    have hequal : controller.occupied = controller.allocatedCcu ↔
        controller.occupancy = controller.allocatedCcu.toNat := by
      rw [← h.allotted.occupied, UInt32.toNat_inj]
    rw [hequal]
    constructor
    · intro hafter _ _
      exact (hafter update.allocatedCcu rfl).2
    · intro hfull other hother
      obtain rfl := Option.some.inj hother
      exact ⟨hlt, hfull (Nat.lt_of_not_le hstale) hbelow⟩
  · refine iff_of_true ?_ fun _ hnot => absurd hnot hbelow
    intro target htarget
    rw [pendingTarget_promoteAt] at htarget
    cases htarget

/-! ## Runs -/

/-- The operation leaves no permit behind that the target or the shown slots would miss. -/
def MeetsTarget (controller : AdmissionController) : AdmissionOp → Prop
  | .applyCapacity update _ =>
    controller.revision < update.revision → update.allocatedCcu < controller.occupied →
      controller.occupied = controller.allocatedCcu
  | .release lease reason _ =>
    controller.hasActiveLease lease = true → reason = .intentional →
      ∀ target, controller.pendingTarget = some target → controller.occupancy ≤ target.toNat + 1
  | .cancel id now => ∀ target, controller.pendingTarget = some target →
    controller.occupancy ≤ target.toNat + controller.due now ∨
      controller.due now = 0 ∧ controller.isOffered id = false
  | .requestJoin _ now | .queueStatus _ now | .heartbeat _ now | .claimOffer _ now
  | .resume _ _ now => ∀ target, controller.pendingTarget = some target →
    controller.occupancy ≤ target.toNat + controller.due now ∨ controller.due now = 0

/-- An operation that gives up no permit after its expiry. -/
theorem Yields.drains_iff_of_none (h : controller.Orderly) (hdrains : controller.Drains)
    (hyields : Yields (controller.expireAt now) 0 after) :
    after.Drains ↔ ∀ target, controller.pendingTarget = some target →
      controller.occupancy ≤ target.toNat + controller.due now ∨ controller.due now = 0 := by
  rw [hyields.drains_iff h hdrains]
  simp only [and_true]

theorem cancelAt_drains_iff (id : QueueTicketId) (h : controller.Orderly)
    (hdrains : controller.Drains) :
    (controller.cancelAt id now).2.Drains ↔ controller.MeetsTarget (.cancel id now) := by
  rw [(cancelAt_yields id h).drains_iff h hdrains]
  apply forall₂_congr
  intro target htarget
  by_cases hreached : controller.occupancy ≤ target.toNat + controller.due now
  · exact iff_of_true (Or.inl hreached) (Or.inl hreached)
  apply or_congr_right
  apply and_congr_right
  intro hdue
  obtain ⟨f, hsame⟩ := @settle_draining (controller.expireEntries now) now target
    (expireEntries_frees h).allotted htarget (by
      have hsum := @expireEntries_occupancy controller now
      omega)
  have hoffered : (controller.expireAt now).isOffered id = controller.isOffered id := by
    rw [show controller.expireAt now = (controller.expireEntries now).setCounters f from hsame]
    exact isOffered_expireEntries hdue
  rw [hoffered]
  cases controller.isOffered id <;> simp

/-- An operation keeps the allocation prompt exactly under its condition. -/
theorem apply_drains_iff (op : AdmissionOp) (h : controller.Orderly) (hdrains : controller.Drains) :
    (controller.apply op).Drains ↔ controller.MeetsTarget op := by
  cases op with
  | requestJoin request now =>
    have hcounted : controller.countAttempt.Orderly := h.setCounters _
    have hexpired := (expireAt_serves now hcounted).orderly
    have hyields := @decideJoin_yields (controller.countAttempt.expireAt now) now request hexpired
    exact @Yields.drains_iff_of_none controller.countAttempt _ now hcounted hdrains hyields
  | queueStatus id now => exact Yields.refl.drains_iff_of_none h hdrains
  | heartbeat id now =>
    have hyields : Yields (controller.expireAt now) 0 (controller.heartbeatAt id now).2 := by
      unfold heartbeatAt
      dsimp only
      split_ifs
      · exact heartbeat_yields
      · exact .refl
    exact hyields.drains_iff_of_none h hdrains
  | cancel id now => exact cancelAt_drains_iff id h hdrains
  | claimOffer id now => exact (claimOfferAt_yields id h).drains_iff_of_none h hdrains
  | release lease reason now => exact releaseAt_drains_iff lease reason h hdrains
  | resume token principal now =>
    exact (resumeAt_yields token principal h).drains_iff_of_none h hdrains
  | applyCapacity update now => exact applyCapacityAt_drains_iff update h hdrains

/-- Over a run pending targets are applied as soon as they are reached, and no slot is shown that
would be refused, exactly if every operation meets its condition. -/
theorem run_prompt_iff (metadata : AdmissionMetadata) (policy : QueuePolicy)
    (capacity : CapacityUpdate) (counters : UsageCounters) (ops : List AdmissionOp) :
    Transition.Always apply Prompt (new metadata policy capacity counters) ops ↔
      Transition.Meets apply MeetsTarget (new metadata policy capacity counters) ops := by
  have horderly := new_orderly metadata policy capacity counters
  apply Transition.always_iff_meets (J := Orderly)
  · exact fun controller op h => (apply_serves op h).orderly
  · intro controller op h hprompt
    rw [(apply_serves op h).orderly.prompt_iff]
    exact apply_drains_iff op h (h.prompt_iff.mp hprompt)
  · exact horderly
  · rw [horderly.prompt_iff]
    intro target htarget
    cases htarget

end AdmissionController

namespace Sample

/-- The second player cancels the offer, whose permit was the last above the target. -/
def cancelledOffer : List AdmissionOp := contention ++ [.cancel 1 4]

end Sample

/-- The target has been reached and stays pending. -/
theorem AdmissionController.run_not_prompt :
    ¬ ∀ ops, Transition.Always apply Prompt Sample.onePermit ops := by
  intro h
  have hprompt := (h Sample.cancelledOffer).last
  have hpending : (Transition.run apply Sample.onePermit Sample.cancelledOffer).pendingTarget =
      some 0 := by
    decide +kernel
  have hfree : ¬ 0 < (Transition.run apply Sample.onePermit Sample.cancelledOffer).occupied := by
    decide +kernel
  exact hfree (hprompt.target 0 hpending)

end Signalweave
