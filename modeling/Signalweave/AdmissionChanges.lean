import Signalweave.AdmissionQueue

/-!
# The changes an admission operation is made of

Every operation of a controller is a list of elementary changes. Each carries the checks that the
operation has made for it, so that an invariant is proved once for each change.
-/

open Std

namespace Signalweave

/-- The reading of the clock that an operation takes. -/
def AdmissionOp.now : AdmissionOp → Instant
  | .requestJoin _ now | .queueStatus _ now | .heartbeat _ now | .cancel _ now
  | .claimOffer _ now | .release _ _ now | .resume _ _ now | .applyCapacity _ now => now

/-- An event is counted; gauges and open handles stay. -/
structure Counts (f : UsageCounters → UsageCounters) : Prop where
  active : ∀ counters, (f counters).active = counters.active
  nextHandle : ∀ counters, (f counters).nextHandle = counters.nextHandle
  activeCcu : ∀ counters, (f counters).activeCcu = counters.activeCcu
  queueDepth : ∀ counters, (f counters).queueDepth = counters.queueDepth

namespace AdmissionController

/-- A newcomer joins the queue, and the gauge says so beforehand. -/
def enterQueue (controller : AdmissionController) (key : IdempotencyKey) (principal : PrincipalId)
    (now : Instant) : QueueTicket × AdmissionController :=
  (controller.setCounters (·.setQueueDepth (controller.queueDepth + 1))).enqueue key principal now

/-- A reservation becomes an active lease again. -/
def reviveLease (controller : AdmissionController) (token : ResumeToken) (principal : PrincipalId)
    (now : Instant) : AdmissionController :=
  let (usageHandle, counters) := controller.counters.startConnection principal now
  let active := controller.active.insert token { principal, started := now, usageHandle }
  { controller with
    reservations := controller.reservations.erase token
    active := active
    counters := counters.setActiveCcu (saturatingU32 active.size) }

/-- The elementary changes of an operation. -/
inductive AdmissionChange : AdmissionOp → AdmissionController → AdmissionController → Prop
  | count {op controller} (f : UsageCounters → UsageCounters) (counts : Counts f) :
      AdmissionChange op controller (controller.setCounters f)
  | expire {op controller} :
      AdmissionChange op controller (controller.expireEntries op.now)
  | settle {op controller} : AdmissionChange op controller controller.applyPending
  | promote {op controller} : AdmissionChange op controller (controller.promoteAt op.now)
  | grant {request now controller} (key : IdempotencyKey)
      (asked : request.idempotencyKey = some key)
      (unfiled : controller.liveTicket key = none)
      (alone : controller.hasQueuedPrincipal request.principal = false)
      (room : controller.occupied < controller.admissionLimit) :
      AdmissionChange (.requestJoin request now) controller
        (controller.admitAt request.principal now).2
  | enqueue {request now controller} (key : IdempotencyKey)
      (asked : request.idempotencyKey = some key)
      (unfiled : controller.liveTicket key = none)
      (alone : controller.hasQueuedPrincipal request.principal = false)
      (full : ¬ controller.occupied < controller.admissionLimit) :
      AdmissionChange (.requestJoin request now) controller
        (controller.enterQueue key request.principal now).2
  | heartbeat {id now controller} (waits : controller.isWaiting id = true) :
      AdmissionChange (.heartbeat id now) controller
        { controller with
          tickets := controller.tickets.modify id fun entry => { entry with lastHeartbeat := now } }
  | cancel {id now controller} (entry : TicketEntry) (found : controller.tickets[id]? = some entry)
      (live : entry.state.isLive = true) :
      AdmissionChange (.cancel id now) controller ((controller.cancelTicket id entry).promoteAt now)
  | claim {id now controller} (entry : TicketEntry) (expires : Instant)
      (found : controller.tickets[id]? = some entry) (offered : entry.state = .offered expires) :
      AdmissionChange (.claimOffer id now) controller
        ((controller.claimTicket id entry).admitAt entry.ticket.principal now).2
  | release {lease reason now controller} (removed : ActiveLease)
      (active : controller.hasActiveLease lease = true)
      (found : controller.active[lease.id]? = some removed) :
      AdmissionChange (.release lease reason now) controller
        (controller.removeLease lease removed reason now)
  | resume {token principal now controller} (reservation : Reservation)
      (found : controller.reservations[token]? = some reservation)
      (own : reservation.principal = principal) :
      AdmissionChange (.resume token principal now) controller
        (controller.reviveLease token principal now)
  | revise {update now controller} (newer : controller.revision < update.revision) :
      AdmissionChange (.applyCapacity update now) controller (controller.acceptUpdate update)
  | lower {update now controller} (below : update.allocatedCcu < controller.occupied) :
      AdmissionChange (.applyCapacity update now) controller
        { controller with pendingTarget := some update.allocatedCcu }
  | reallocate {update now controller} (room : ¬ update.allocatedCcu < controller.occupied) :
      AdmissionChange (.applyCapacity update now) controller
        { controller with allocatedCcu := update.allocatedCcu, pendingTarget := none }

/-- Any number of changes of one operation. -/
def AdmissionChanges (op : AdmissionOp) : AdmissionController → AdmissionController → Prop :=
  Relation.ReflTransGen (AdmissionChange op)

namespace AdmissionChanges

variable {op : AdmissionOp} {controller controller' controller'' : AdmissionController}

theorem refl : AdmissionChanges op controller controller := Relation.ReflTransGen.refl

theorem tail (h : AdmissionChanges op controller controller')
    (h' : AdmissionChange op controller' controller'') :
    AdmissionChanges op controller controller'' :=
  Relation.ReflTransGen.tail h h'

/-- One more event is counted. -/
theorem count (h : AdmissionChanges op controller controller') {f : UsageCounters → UsageCounters}
    (hf : Counts f) : AdmissionChanges op controller (controller'.setCounters f) :=
  h.tail (.count f hf)

/-- What a change keeps, an operation keeps. -/
theorem invariant {P : AdmissionController → Prop}
    (hchange : ∀ controller controller', AdmissionChange op controller controller' →
      P controller → P controller')
    (h : AdmissionChanges op controller controller') (hp : P controller) : P controller' := by
  induction h with
  | refl => exact hp
  | tail _ hlast ih => exact hchange _ _ hlast ih

/-- What a change keeps of the state before, an operation keeps of it. -/
theorem relation {R : AdmissionController → AdmissionController → Prop}
    (hrefl : R controller controller)
    (hchange : ∀ middle after, AdmissionChange op middle after → R controller middle →
      R controller after)
    (h : AdmissionChanges op controller controller') : R controller controller' :=
  h.invariant (P := R controller) hchange hrefl

end AdmissionChanges

section Operations

variable {controller : AdmissionController} {now : Instant}

theorem expireAt_changes (op : AdmissionOp) :
    AdmissionChanges op controller (controller.expireAt op.now) :=
  ((AdmissionChanges.refl.tail .expire).tail .settle).tail .promote

theorem requestJoin_changes (request : JoinRequest) :
    AdmissionChanges (.requestJoin request now) controller
      (controller.requestJoinAt request now).2 := by
  have hstart : AdmissionChanges (.requestJoin request now) controller controller.countAttempt := by
    apply AdmissionChanges.refl.count
    exact ⟨fun _ => rfl, fun _ => rfl, fun _ => rfl, fun _ => rfl⟩
  have hexpired : AdmissionChanges (.requestJoin request now) controller
      (controller.countAttempt.expireAt now) :=
    hstart.trans (expireAt_changes (.requestJoin request now))
  show AdmissionChanges _ _ ((controller.countAttempt.expireAt now).decideJoin request now).2
  generalize controller.countAttempt.expireAt now = expired at hexpired
  unfold decideJoin
  cases hkey : request.idempotencyKey with
  | none =>
    dsimp only
    apply hexpired.count
    exact ⟨fun _ => rfl, fun _ => rfl, fun _ => rfl, fun _ => rfl⟩
  | some key =>
    dsimp only
    split
    · dsimp only
      apply hexpired.count
      exact ⟨fun _ => rfl, fun _ => rfl, fun _ => rfl, fun _ => rfl⟩
    cases hticket : expired.liveTicket key with
    | some ticket => exact hexpired
    | none =>
      dsimp only
      cases halone : expired.hasQueuedPrincipal request.principal with
      | true =>
        simp only [if_true]
        apply hexpired.count
        exact ⟨fun _ => rfl, fun _ => rfl, fun _ => rfl, fun _ => rfl⟩
      | false =>
        simp only [Bool.false_eq_true, if_false]
        split_ifs with hroom henabled hdepth
        · have hcounted : AdmissionChanges (.requestJoin request now) controller
              (expired.setCounters fun c =>
                { c with immediateAdmissions := c.immediateAdmissions + 1 }) := by
            apply hexpired.count
            exact ⟨fun _ => rfl, fun _ => rfl, fun _ => rfl, fun _ => rfl⟩
          exact hcounted.tail (.grant key hkey hticket halone hroom)
        · dsimp only
          apply hexpired.count
          exact ⟨fun _ => rfl, fun _ => rfl, fun _ => rfl, fun _ => rfl⟩
        · dsimp only
          apply hexpired.count
          exact ⟨fun _ => rfl, fun _ => rfl, fun _ => rfl, fun _ => rfl⟩
        · have hcounted : AdmissionChanges (.requestJoin request now) controller
              (expired.setCounters fun c => { c with queuedJoins := c.queuedJoins + 1 }) := by
            apply hexpired.count
            exact ⟨fun _ => rfl, fun _ => rfl, fun _ => rfl, fun _ => rfl⟩
          exact hcounted.tail (.enqueue key hkey hticket halone hroom)

theorem cancel_changes (id : QueueTicketId) :
    AdmissionChanges (.cancel id now) controller (controller.cancelAt id now).2 := by
  have hexpired : AdmissionChanges (.cancel id now) controller (controller.expireAt now) :=
    expireAt_changes (.cancel id now)
  unfold cancelAt
  dsimp only
  cases hentry : (controller.expireAt now).tickets[id]? with
  | none => exact hexpired
  | some entry =>
    dsimp only
    cases hstate : entry.state with
    | waiting => exact hexpired.tail (.cancel entry hentry (by rw [hstate]; rfl))
    | offered expires => exact hexpired.tail (.cancel entry hentry (by rw [hstate]; rfl))
    | _ => exact hexpired

theorem claimOffer_changes (id : QueueTicketId) :
    AdmissionChanges (.claimOffer id now) controller (controller.claimOfferAt id now).2 := by
  have hexpired : AdmissionChanges (.claimOffer id now) controller (controller.expireAt now) :=
    expireAt_changes (.claimOffer id now)
  unfold claimOfferAt
  dsimp only
  cases hentry : (controller.expireAt now).tickets[id]? with
  | none => exact hexpired
  | some entry =>
    dsimp only
    cases hstate : entry.state with
    | offered expires => exact hexpired.tail (.claim entry expires hentry hstate)
    | _ => exact hexpired

theorem release_changes (lease : AdmissionLease) (reason : ReleaseReason) :
    AdmissionChanges (.release lease reason now) controller
      (controller.releaseAt lease reason now) := by
  rw [releaseAt_eq]
  unfold releasedLease
  cases hactive : controller.hasActiveLease lease with
  | false => exact .refl
  | true =>
    rw [if_pos rfl]
    cases hfound : controller.active[lease.id]? with
    | none => exact .refl
    | some removed =>
      exact ((AdmissionChanges.refl.tail (.release removed hactive hfound)).tail .settle).tail
        (@AdmissionChange.promote (.release lease reason now) _)

theorem resume_changes (token : ResumeToken) (principal : PrincipalId) :
    AdmissionChanges (.resume token principal now) controller
      (controller.resumeAt token principal now).2 := by
  have hexpired : AdmissionChanges (.resume token principal now) controller
      (controller.expireAt now) := expireAt_changes (.resume token principal now)
  unfold resumeAt
  dsimp only
  cases hfound : (controller.expireAt now).reservations[token]? with
  | none => exact hexpired
  | some reservation =>
    dsimp only
    split_ifs with hother
    · exact hexpired
    · have hcounted : AdmissionChanges (.resume token principal now) controller
          ((controller.expireAt now).setCounters fun c =>
            { c with successfulResumes := c.successfulResumes + 1 }) := by
        apply hexpired.count
        exact ⟨fun _ => rfl, fun _ => rfl, fun _ => rfl, fun _ => rfl⟩
      exact hcounted.tail (.resume reservation hfound (not_not.mp hother))

theorem applyCapacity_changes (update : CapacityUpdate) :
    AdmissionChanges (.applyCapacity update now) controller
      (controller.applyCapacityAt update now).2 := by
  rw [applyCapacityAt_eq]
  split_ifs with hstale hbelow
  · exact .refl
  · exact (AdmissionChanges.refl.tail (.revise (Nat.lt_of_not_le hstale))).tail (.lower hbelow)
  · have hrevised := (@AdmissionChanges.refl (.applyCapacity update now) controller).tail
      (.revise (Nat.lt_of_not_le hstale))
    exact (hrevised.tail (.reallocate hbelow)).tail
      (@AdmissionChange.promote (.applyCapacity update now) _)

theorem apply_changes (controller : AdmissionController) (op : AdmissionOp) :
    AdmissionChanges op controller (controller.apply op) := by
  cases op with
  | requestJoin request now => exact requestJoin_changes request
  | queueStatus id now => exact expireAt_changes (.queueStatus id now)
  | heartbeat id now =>
    have hexpired : AdmissionChanges (.heartbeat id now) controller (controller.expireAt now) :=
      expireAt_changes (.heartbeat id now)
    show AdmissionChanges _ _ (controller.heartbeatAt id now).2
    unfold heartbeatAt
    dsimp only
    split_ifs with hwaits
    · exact hexpired.tail (.heartbeat hwaits)
    · exact hexpired
  | cancel id now => exact cancel_changes id
  | claimOffer id now => exact claimOffer_changes id
  | release lease reason now => exact release_changes lease reason
  | resume token principal now => exact resume_changes token principal
  | applyCapacity update now => exact applyCapacity_changes update

end Operations

end AdmissionController

end Signalweave
