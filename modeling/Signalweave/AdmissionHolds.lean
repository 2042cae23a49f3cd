import Signalweave.AdmissionLeases

/-!
# Slots that are held

An offer and a reservation each hold a permit until they expire. Whatever else happens before that,
the offer can be claimed and the reservation resumed.
-/

open Std

namespace Signalweave

/-- The operation cancels or claims the ticket. -/
def AdmissionOp.settles (id : QueueTicketId) : AdmissionOp → Prop
  | .cancel other _ | .claimOffer other _ => other = id
  | _ => False

/-- The operation resumes the lease of this token for its holder. -/
def AdmissionOp.resumes (token : ResumeToken) (principal : PrincipalId) : AdmissionOp → Prop
  | .resume other asking _ => other = token ∧ asking = principal
  | _ => False

namespace AdmissionController

variable {controller controller' : AdmissionController} {op : AdmissionOp} {now : Instant}
  {id : QueueTicketId} {entry : TicketEntry} {expires : Instant} {token : ResumeToken}
  {reservation : Reservation}

/-! ## Offers -/

theorem expireEntry_of_offered {policy : QueuePolicy} (hstate : entry.state = .offered expires)
    (hnow : now < expires) : expireEntry policy now entry = entry := by
  rw [expireEntry, hstate]
  exact if_neg (Nat.not_le.mpr hnow)

/-- A promotion offers waiting tickets only. -/
theorem getElem?_promoteAt_of_offered (hentry : controller.tickets[id]? = some entry)
    (hstate : entry.state = .offered expires) :
    (controller.promoteAt now).tickets[id]? = some entry := by
  apply promoteAt_induction (P := fun middle : AdmissionController =>
    middle.tickets[id]? = some entry) _ (fun _ _ h => h) hentry
  intro middle head rest _ hmiddle
  rw [getElem?_offerHead, hmiddle, Option.map_some, if_neg]
  rintro ⟨-, hwaiting⟩
  rw [hstate] at hwaiting
  cases hwaiting

/-- An offer stays until it expires or is settled. -/
theorem AdmissionChange.keeps_offer (h : AdmissionChange op controller controller')
    (hnumbered : controller.Numbered) (hentry : controller.tickets[id]? = some entry)
    (hstate : entry.state = .offered expires) (hnow : op.now < expires)
    (hunsettled : ¬ op.settles id) : controller'.tickets[id]? = some entry := by
  cases h with
  | expire =>
    rw [getElem?_expireEntries, hentry, Option.map_some, expireEntry_of_offered hstate hnow]
  | settle =>
    rw [applyPending_tickets.1]
    exact hentry
  | promote => exact getElem?_promoteAt_of_offered hentry hstate
  | enqueue key asked unfiled alone full =>
    have hlt := hnumbered id (OrderedMap.mem_of_getElem? hentry)
    refine (OrderedMap.getElem?_insert).trans ?_
    exact (if_neg (Nat.ne_of_lt hlt)).trans hentry
  | @heartbeat other now _ waits =>
    show (controller.tickets.modify other fun entry => { entry with lastHeartbeat := now })[id]? = _
    rw [getElem?_heartbeat, hentry, Option.map_some, if_neg]
    rintro rfl
    obtain ⟨found, hfound, hwaiting⟩ := isWaiting_iff.mp waits
    rw [← Option.some.inj (hentry.symm.trans hfound), hstate] at hwaiting
    cases hwaiting
  | @cancel other now _ found hfound live =>
    apply getElem?_promoteAt_of_offered _ hstate
    refine (OrderedMap.getElem?_insert).trans ?_
    exact (if_neg fun heq => hunsettled heq.symm).trans hentry
  | @claim other now _ found expires' hfound offered =>
    refine (OrderedMap.getElem?_insert).trans ?_
    exact (if_neg fun heq => hunsettled heq.symm).trans hentry
  | release removed active found =>
    rw [removeLease_tickets.1]
    exact hentry
  | _ => exact hentry

theorem apply_keeps_offer (hticketed : controller.Ticketed)
    (hentry : controller.tickets[id]? = some entry) (hstate : entry.state = .offered expires)
    (hnow : op.now < expires) (hunsettled : ¬ op.settles id) :
    (controller.apply op).tickets[id]? = some entry := by
  have hkept := (apply_changes controller op).invariant
    (P := fun after => after.Numbered ∧ after.tickets[id]? = some entry) ?_
    ⟨hticketed.numbered, hentry⟩
  · exact hkept.2
  · intro before after hchange hbefore
    exact ⟨hchange.numbered hbefore.1,
      hchange.keeps_offer hbefore.1 hbefore.2 hstate hnow hunsettled⟩

theorem run_keeps_offer (hticketed : controller.Ticketed)
    (hentry : controller.tickets[id]? = some entry) (hstate : entry.state = .offered expires)
    (ops : List AdmissionOp) (hclock : ∀ op ∈ ops, op.now < expires)
    (hunsettled : ∀ op ∈ ops, ¬ op.settles id) :
    (Transition.run apply controller ops).tickets[id]? = some entry := by
  have hstep : ∀ (before : AdmissionController) (op : AdmissionOp),
      before.Ticketed ∧ before.tickets[id]? = some entry → op.now < expires ∧ ¬ op.settles id →
        (before.apply op).Ticketed ∧ (before.apply op).tickets[id]? = some entry := by
    intro before op hbefore hop
    exact ⟨(hbefore.1.step op).1, apply_keeps_offer hbefore.1 hbefore.2 hstate hop.1 hop.2⟩
  have hops : ∀ op ∈ ops, op.now < expires ∧ ¬ op.settles id :=
    fun op hin => ⟨hclock op hin, hunsettled op hin⟩
  exact (Transition.run_invariant_of hstep ⟨hticketed, hentry⟩ hops).2

/-- Until it expires an offer can be claimed, for the principal of its ticket. -/
theorem claimOfferAt_of_offered (hticketed : controller.Ticketed)
    (hentry : controller.tickets[id]? = some entry) (hstate : entry.state = .offered expires)
    (hnow : now < expires) :
    ∃ lease, (controller.claimOfferAt id now).1 = .ok lease ∧
      lease.principal = entry.ticket.principal := by
  have hlapsed : (controller.expireAt now).tickets[id]? = some entry :=
    @apply_keeps_offer controller (.queueStatus id now) id entry expires hticketed hentry
      hstate hnow
      (fun h => h)
  unfold claimOfferAt
  dsimp only
  rw [hlapsed]
  dsimp only
  rw [hstate]
  exact ⟨_, rfl, rfl⟩

/-! ## Reservations -/

/-- A reservation stays until it expires or is resumed. -/
theorem AdmissionChange.keeps_reservation (h : AdmissionChange op controller controller')
    (hleased : controller.Leased) (hfound : controller.reservations[token]? = some reservation)
    (hnow : op.now < reservation.expires) (hunresumed : ¬ op.resumes token reservation.principal) :
    controller'.reservations[token]? = some reservation := by
  cases h with
  | expire => exact OrderedMap.getElem?_filter.mpr ⟨hfound, decide_eq_true hnow⟩
  | settle =>
    rw [applyPending_sameLeases.reservations]
    exact hfound
  | promote =>
    rw [promoteAt_sameLeases.reservations]
    exact hfound
  | @cancel other now _ found hfound' live =>
    rw [promoteAt_sameLeases.reservations]
    exact hfound
  | @release lease reason now _ removed active found =>
    have hne : token ≠ lease.id := by
      rintro rfl
      exact hleased.disjoint _ (OrderedMap.mem_of_getElem? found)
        (OrderedMap.mem_of_getElem? hfound)
    unfold removeLease
    dsimp only
    split
    · refine (OrderedMap.getElem?_insert).trans ?_
      exact (if_neg hne).trans hfound
    · exact hfound
  | @resume other principal now _ found hother own =>
    refine (OrderedMap.getElem?_erase).trans ?_
    refine (if_neg ?_).trans hfound
    rintro rfl
    rw [hfound] at hother
    obtain rfl := Option.some.inj hother
    exact hunresumed ⟨rfl, own.symm⟩
  | _ => exact hfound

theorem apply_keeps_reservation (hleased : controller.Leased)
    (hfound : controller.reservations[token]? = some reservation)
    (hnow : op.now < reservation.expires) (hunresumed : ¬ op.resumes token reservation.principal) :
    (controller.apply op).Leased ∧
      (controller.apply op).reservations[token]? = some reservation := by
  refine (apply_changes controller op).invariant
    (P := fun after => after.Leased ∧ after.reservations[token]? = some reservation) ?_
    ⟨hleased, hfound⟩
  intro before after hchange hbefore
  exact ⟨hchange.leased hbefore.1,
    hchange.keeps_reservation hbefore.1 hbefore.2 hnow hunresumed⟩

theorem run_keeps_reservation (hleased : controller.Leased)
    (hfound : controller.reservations[token]? = some reservation) (ops : List AdmissionOp)
    (hclock : ∀ op ∈ ops, op.now < reservation.expires)
    (hunresumed : ∀ op ∈ ops, ¬ op.resumes token reservation.principal) :
    (Transition.run apply controller ops).Leased ∧
      (Transition.run apply controller ops).reservations[token]? = some reservation := by
  have hops : ∀ op ∈ ops,
      op.now < reservation.expires ∧ ¬ op.resumes token reservation.principal :=
    fun op hin => ⟨hclock op hin, hunresumed op hin⟩
  exact Transition.run_invariant_of
    (P := fun before : AdmissionController =>
      before.Leased ∧ before.reservations[token]? = some reservation)
    (fun _ op hbefore hop => apply_keeps_reservation hbefore.1 hbefore.2 hop.1 hop.2)
    ⟨hleased, hfound⟩ hops

/-- Until it expires a reservation can be resumed by its holder. -/
theorem resumeAt_of_reserved (hleased : controller.Leased)
    (hfound : controller.reservations[token]? = some reservation)
    (hnow : now < reservation.expires) :
    ∃ lease, (controller.resumeAt token reservation.principal now).1 = some lease ∧
      lease.id = token ∧ lease.principal = reservation.principal ∧ lease.resumeToken = token := by
  have hlapsed : (controller.expireAt now).reservations[token]? = some reservation :=
    (@apply_keeps_reservation controller (.queueStatus 0 now) token reservation hleased hfound hnow
      (fun h => h)).2
  unfold resumeAt
  dsimp only
  rw [hlapsed]
  dsimp only
  rw [if_neg (not_not.mpr rfl)]
  exact ⟨_, rfl, rfl, rfl, rfl⟩

/-- A lease that is released unexpectedly is reserved for its holder. -/
theorem releaseAt_reserves {lease : AdmissionLease} (h : controller.hasActiveLease lease = true) :
    (controller.releaseAt lease .unexpected now).reservations[lease.id]? = some
      { principal := lease.principal
        expires := (Instant.checkedAdd now controller.policy.reconnectGrace).getD now } := by
  obtain ⟨removed, hfound, -⟩ : ∃ removed, controller.active[lease.id]? = some removed ∧
      (removed.principal == lease.principal) = true := by
    rw [hasActiveLease, Bool.and_eq_true] at h
    exact (Option.any_eq_true _ _).mp h.2
  rw [releaseAt_eq, releasedLease, h, if_pos rfl, hfound]
  dsimp only
  rw [promoteAt_sameLeases.reservations, applyPending_sameLeases.reservations]
  exact (OrderedMap.getElem?_insert).trans (if_pos rfl)

/-! ## Conversions -/

/-- Two states within their allocations with the same permits in use. -/
theorem occupied_congr (h : controller.Allotted) (h' : controller'.Allotted)
    (hoccupancy : controller'.occupancy = controller.occupancy) :
    controller'.occupied = controller.occupied := by
  apply UInt32.toNat_inj.mp
  rw [h.occupied, h'.occupied, hoccupancy]

/-- The permit of a claimed offer goes to the lease. -/
theorem claimOfferAt_occupied (id : QueueTicketId) (h : controller.Orderly) :
    (controller.claimOfferAt id now).2.occupied = (controller.expireAt now).occupied := by
  have hexpired := (expireAt_serves now h).orderly
  apply occupied_congr hexpired.allotted (apply_serves (.claimOffer id now) h).orderly.allotted
  show (controller.claimOfferAt id now).2.occupancy = _
  unfold claimOfferAt
  dsimp only
  cases hentry : (controller.expireAt now).tickets[id]? with
  | none => rfl
  | some entry =>
    dsimp only
    cases hstate : entry.state with
    | offered expires => exact claimTicket_occupancy hexpired hentry hstate
    | _ => rfl

/-- The permit of a resumed reservation goes to the lease. -/
theorem resumeAt_occupied (token : ResumeToken) (principal : PrincipalId) (h : controller.Orderly) :
    (controller.resumeAt token principal now).2.occupied = (controller.expireAt now).occupied := by
  have hexpired := (expireAt_serves now h).orderly
  apply occupied_congr hexpired.allotted
    (apply_serves (.resume token principal now) h).orderly.allotted
  show (controller.resumeAt token principal now).2.occupancy = _
  unfold resumeAt
  dsimp only
  cases hreserved : (controller.expireAt now).reservations[token]? with
  | none => rfl
  | some reservation =>
    dsimp only
    split_ifs
    · rfl
    · exact resume_occupancy hexpired.leased hreserved

/-- The policy is that of the start. -/
theorem AdmissionChange.policy (h : AdmissionChange op controller controller') :
    controller'.policy = controller.policy := by
  cases h with
  | settle => exact applyPending_sameLeases.policy
  | promote => exact promoteAt_sameLeases.policy
  | @cancel other now _ found hfound live =>
    exact @SameLeases.policy (controller.cancelTicket other found) _ promoteAt_sameLeases
  | release removed active found => rw [removeLease_same]
  | _ => rfl

theorem run_policy (ops : List AdmissionOp) :
    (Transition.run apply controller ops).policy = controller.policy := by
  refine Transition.run_invariant
    (P := fun after : AdmissionController => after.policy = controller.policy) ?_ rfl ops
  intro before op hbefore
  have hstep := (apply_changes before op).relation
    (R := fun before after => after.policy = before.policy) rfl
    fun middle after hchange hmiddle => hchange.policy.trans hmiddle
  exact hstep.trans hbefore

/-- Whatever happens in between, an offer can be claimed until it expires, and a lease that was
released unexpectedly resumed within the grace period, as far as the clock can count it; neither
changes the number of permits in use. -/
theorem run_held_slots (metadata : AdmissionMetadata) (policy : QueuePolicy)
    (capacity : CapacityUpdate) (counters : UsageCounters) (before between : List AdmissionOp)
    (now : Instant) (hclock : ∀ op ∈ between, op.now ≤ now) :
    let held := Transition.run apply (new metadata policy capacity counters) before
    (∀ id entry expires, held.tickets[id]? = some entry → entry.state = .offered expires →
      now < expires → (∀ op ∈ between, ¬ op.settles id) →
        ∃ lease, ((Transition.run apply held between).claimOfferAt id now).1 = .ok lease ∧
          lease.principal = entry.ticket.principal) ∧
      (∀ lease released, held.hasActiveLease lease = true →
        (∀ op ∈ between, ¬ op.resumes lease.id lease.principal) →
        released + policy.reconnectGrace ≤ Instant.max → now < released + policy.reconnectGrace →
        let later := Transition.run apply (held.releaseAt lease .unexpected released) between
        ∃ resumed, (later.resumeAt lease.id lease.principal now).1 = some resumed ∧
          resumed.id = lease.id ∧ resumed.principal = lease.principal ∧
            resumed.resumeToken = lease.id) ∧
      (∀ id, ((Transition.run apply held between).claimOfferAt id now).2.occupied =
        ((Transition.run apply held between).expireAt now).occupied) ∧
      ∀ token principal,
        ((Transition.run apply held between).resumeAt token principal now).2.occupied =
          ((Transition.run apply held between).expireAt now).occupied := by
  intro held
  have hticketed : held.Ticketed := ((new_ticketed metadata policy capacity counters).run before).1
  have horderly : held.Orderly := run_orderly (new_orderly metadata policy capacity counters) before
  have hpolicy : held.policy = policy := run_policy before
  have hlater : (Transition.run apply held between).Orderly := run_orderly horderly between
  refine ⟨?_, ?_, fun id => claimOfferAt_occupied id hlater,
    fun token principal => resumeAt_occupied token principal hlater⟩
  · intro id entry expires hentry hstate hnow hunsettled
    have hkept := run_keeps_offer hticketed hentry hstate between
      (fun op hop => Nat.lt_of_le_of_lt (hclock op hop) hnow) hunsettled
    exact claimOfferAt_of_offered (hticketed.run between).1 hkept hstate hnow
  · intro lease released hactive hunresumed hrepresentable hnow later
    have hreserved := @releaseAt_reserves held released lease hactive
    rw [hpolicy, Instant.checkedAdd, if_pos hrepresentable, Option.getD_some] at hreserved
    have hleased : (held.releaseAt lease .unexpected released).Leased :=
      (apply_serves (.release lease .unexpected released) horderly).orderly.leased
    obtain ⟨hleased', hkept⟩ := run_keeps_reservation hleased hreserved between
      (fun op hop => Nat.lt_of_le_of_lt (hclock op hop) hnow) hunresumed
    exact resumeAt_of_reserved hleased' hkept hnow

end AdmissionController

namespace Sample

/-- Two players, one permit: the second is offered the permit that the first gives up. -/
def offeredPermit : List AdmissionOp :=
  [.requestJoin { principal := ⟨7⟩, idempotencyKey := some firstKey } 0,
    .requestJoin { principal := ⟨8⟩, idempotencyKey := some secondKey } 1,
    .release { id := 1, session := ⟨⟨1⟩, ⟨1⟩⟩, principal := ⟨7⟩, resumeToken := 1 } .intentional 2]

/-- The allocation is lowered to nothing and a third player asks. -/
def crowdedOut : List AdmissionOp :=
  [.applyCapacity { allocatedCcu := 0, revision := 2 } 3,
    .requestJoin { principal := ⟨9⟩, idempotencyKey := some thirdKey } 4]

end Sample

/-- The second player's offer is still open. -/
theorem AdmissionController.run_held_slots_offered :
    let held := Transition.run apply Sample.onePermit Sample.offeredPermit
    ∃ lease, ((Transition.run apply held Sample.crowdedOut).claimOfferAt 1 5).1 = .ok lease ∧
      lease.principal = ⟨8⟩ := by
  have hheld := run_held_slots { nodeId := ⟨1⟩, session := ⟨⟨1⟩, ⟨1⟩⟩ } {}
    { allocatedCcu := 1, revision := 1 } { metadata := { nodeId := ⟨1⟩, session := ⟨⟨1⟩, ⟨1⟩⟩ } }
    Sample.offeredPermit Sample.crowdedOut 5 (by decide)
  obtain ⟨entry, hentry, hstate, hprincipal⟩ : ∃ entry,
      (Transition.run apply Sample.onePermit Sample.offeredPermit).tickets[1]? = some entry ∧
        entry.state = .offered 30000000002 ∧ entry.ticket.principal = ⟨8⟩ :=
    ⟨_, by rfl, by decide +kernel, by decide +kernel⟩
  have hunsettled : ∀ op ∈ Sample.crowdedOut, ¬ op.settles 1 := by
    intro op hop
    rcases List.mem_cons.mp hop with rfl | hop
    · exact fun h => h
    · rcases List.mem_singleton.mp hop with rfl
      exact fun h => h
  obtain ⟨lease, hclaimed, hown⟩ :=
    hheld.1 1 entry 30000000002 hentry hstate (by decide) hunsettled
  exact ⟨lease, hclaimed, hown.trans hprincipal⟩

namespace Sample

/-- One permit, and a grace period that ends after the last reading of the clock. -/
def endlessGrace : AdmissionController :=
  .new { nodeId := ⟨1⟩, session := ⟨⟨1⟩, ⟨1⟩⟩ } { reconnectGrace := 2 ^ 63 * 1000000000 }
    { allocatedCcu := 1, revision := 1 } { metadata := { nodeId := ⟨1⟩, session := ⟨⟨1⟩, ⟨1⟩⟩ } }

end Sample

/-- A grace period that the clock cannot count is over at once. -/
theorem AdmissionController.run_grace_not_honoured :
    let held := Sample.endlessGrace.apply
      (.requestJoin { principal := ⟨7⟩, idempotencyKey := some ⟨"first", by decide⟩ } 0)
    ¬ ∀ lease released now, held.hasActiveLease lease = true → released ≤ now →
      now < released + held.policy.reconnectGrace →
        ∃ resumed, ((held.releaseAt lease .unexpected released).resumeAt lease.id lease.principal
          now).1 = some resumed := by
  intro held h
  obtain ⟨resumed, hresumed⟩ := h
    { id := 1, session := ⟨⟨1⟩, ⟨1⟩⟩, principal := ⟨7⟩, resumeToken := 1 } 1 2 (by decide +kernel)
    (by decide) (by decide +kernel)
  have hnone : ((held.releaseAt
      { id := 1, session := ⟨⟨1⟩, ⟨1⟩⟩, principal := ⟨7⟩, resumeToken := 1 } .unexpected 1).resumeAt
        1 ⟨7⟩ 2).1 = none := by
    decide +kernel
  rw [hnone] at hresumed
  cases hresumed

end Signalweave
