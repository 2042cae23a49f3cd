import Signalweave.AdmissionLeases

/-!
# Who is admitted at once

A request is admitted exactly if nobody is in its way: the session is not paused, neither the key
nor the principal is in the queue, and a permit is free. The lease that it is given is a new one.
-/

open Std

namespace Signalweave

namespace AdmissionController

variable {controller controller' : AdmissionController} {op : AdmissionOp} {now : Instant}
  {principal : PrincipalId} {key : IdempotencyKey} {lease : AdmissionLease}

/-- Once what is due has expired, a permit is free for the principal. -/
def Admits (controller : AdmissionController) (principal : PrincipalId) (key : IdempotencyKey)
    (now : Instant) : Prop :=
  let expired := controller.countAttempt.expireAt now
  expired.admissionLimit ≠ 0 ∧ expired.liveTicket key = none ∧
    expired.hasQueuedPrincipal principal = false ∧ expired.occupied < expired.admissionLimit

/-- What an answer to a request means for the leases. -/
inductive LeaseAnswer (controller : AdmissionController) (principal : PrincipalId) :
    JoinDecision × AdmissionController → Prop
  | admitted (lease : AdmissionLease) (record : ActiveLease) (after : AdmissionController)
      (id : lease.id = controller.nextLease) (session : lease.session = controller.metadata.session)
      (own : lease.principal = principal) (holder : record.principal = lease.principal)
      (active : after.active = controller.active.insert lease.id record) :
      LeaseAnswer controller principal (.admitted lease, after)
  | refused (decision : JoinDecision) (after : AdmissionController)
      (refusal : ∀ lease, decision ≠ .admitted lease) (active : after.active = controller.active) :
      LeaseAnswer controller principal (decision, after)

theorem requestJoinAt_admitted_iff : (∃ lease, (controller.requestJoinAt
      { principal, idempotencyKey := some key } now).1 = .admitted lease) ↔
    controller.Admits principal key now := by
  show (∃ lease, ((controller.countAttempt.expireAt now).decideJoin
    { principal, idempotencyKey := some key } now).1 = .admitted lease) ↔ _
  unfold Admits
  generalize controller.countAttempt.expireAt now = expired
  unfold decideJoin
  dsimp only
  by_cases hpaused : expired.admissionLimit = 0
  · simp [hpaused]
  · rw [if_neg hpaused]
    cases hticket : expired.liveTicket key with
    | some ticket => simp
    | none =>
      dsimp only
      split_ifs with hqueued hroom henabled hdepth
      · simp [hqueued]
      · simp [hpaused, hqueued, hroom]
      · simp [hroom]
      · simp [hroom]
      · simp [hroom]

/-! ## The session of a controller -/

theorem promoteAt_metadata : (controller.promoteAt now).metadata = controller.metadata := by
  apply promoteAt_induction (P := fun after => after.metadata = controller.metadata)
  · exact fun _ _ _ _ h => h
  · exact fun _ _ h => h
  · rfl

theorem applyPending_metadata : controller.applyPending.metadata = controller.metadata := by
  unfold applyPending
  split
  · rfl
  · split <;> rfl

theorem AdmissionChange.metadata (h : AdmissionChange op controller controller') :
    controller'.metadata = controller.metadata := by
  cases h with
  | settle => exact applyPending_metadata
  | promote => exact promoteAt_metadata
  | cancel entry found live => exact promoteAt_metadata
  | release removed active found => rw [removeLease_same]
  | _ => rfl

theorem apply_metadata (controller : AdmissionController) (op : AdmissionOp) :
    (controller.apply op).metadata = controller.metadata :=
  (apply_changes controller op).relation (R := fun before after => after.metadata = before.metadata)
    rfl fun _ _ hchange h => hchange.metadata.trans h

theorem requestJoinAt_leaseAnswer :
    LeaseAnswer controller principal (controller.requestJoinAt
      { principal, idempotencyKey := some key } now) := by
  have hexpired : (controller.countAttempt.expireAt now).active = controller.active ∧
      (controller.countAttempt.expireAt now).nextLease = controller.nextLease ∧
      (controller.countAttempt.expireAt now).metadata = controller.metadata := by
    obtain ⟨hactive, hnext, -⟩ := @expireAt_lapses controller.countAttempt now
    exact ⟨hactive, hnext, apply_metadata controller.countAttempt (.queueStatus 0 now)⟩
  obtain ⟨hactive, hnext, hmetadata⟩ := hexpired
  have hdecides := @decideJoin_decides (controller.countAttempt.expireAt now) now
    { principal, idempotencyKey := some key }
  generalize hresult : controller.requestJoinAt { principal, idempotencyKey := some key } now =
    result
  rw [show (controller.countAttempt.expireAt now).decideJoin _ now = result from hresult]
    at hdecides
  cases hdecides with
  | refused decision count refusal => exact .refused _ _ refusal hactive
  | held ticket => exact .refused _ _ (fun _ => by simp) hactive
  | admitted count room =>
    refine .admitted _ { principal, started := now, usageHandle :=
      ((controller.countAttempt.expireAt now).setCounters count).counters.nextHandle } _ hnext ?_
      rfl rfl ?_
    · exact congrArg AdmissionMetadata.session hmetadata
    · rw [← hactive]
      rfl
  | queued count queued reached => exact .refused _ _ (fun _ => by simp) hactive

/-- A release of one lease leaves the others as they were. -/
theorem active_releaseAt (hactive : controller.hasActiveLease lease = true)
    (reason : ReleaseReason) :
    (controller.releaseAt lease reason now).active = controller.active.erase lease.id := by
  have heffect := @releaseAt_leaseEffect controller now lease reason
  rw [closes, hactive, if_pos rfl] at heffect
  cases heffect with
  | close _ removed _ found active nextLease reservations => exact active

end AdmissionController

end Signalweave
