import Signalweave.Usage

/-!
# Admission to a session (`admission.rs`)

One controller holds the permits of one session: active leases, reconnect reservations and
outstanding offers. Occupancy is a `u32` sum of capped counts, as in the source. `next_ticket` and
`next_lease`, counters of type `u64`, are natural numbers: runs are shorter than `2^64` operations.
-/

open Std

namespace Signalweave

/-- `IdempotencyKey`: `new` refuses a longer text, so a longer key cannot be built. -/
structure IdempotencyKey where
  key : String
  bounded : key.utf8ByteSize ≤ 256
  deriving DecidableEq

theorem IdempotencyKey.key_injective : Function.Injective IdempotencyKey.key := by
  rintro ⟨a, _⟩ ⟨b, _⟩ rfl
  rfl

instance : Ord IdempotencyKey := ⟨compareOn IdempotencyKey.key⟩
instance : TransOrd IdempotencyKey := inferInstanceAs (TransCmp (compareOn _))
instance : LawfulEqOrd IdempotencyKey := LawfulEqCmp.on IdempotencyKey.key_injective

/-- The settings of the queue of a session, with their defaults. -/
structure QueuePolicy where
  enabled : Bool := true
  maxDepth : Nat := 1024
  ticketTtl : Duration := 900 * 1000000000
  offerTtl : Duration := 30 * 1000000000
  heartbeatTimeout : Duration := 30 * 1000000000
  reconnectGrace : Duration := 20 * 1000000000
  deriving DecidableEq

/-- An allocation from outside: how many players at once, and its revision. -/
structure CapacityUpdate where
  allocatedCcu : UInt32
  revision : Nat
  deriving DecidableEq

/-- Why a join is rejected. -/
inductive RejectionReason where
  | serverPaused
  | queueFull
  | queueDisabled
  | alreadyQueued
  | invalidIdempotencyKey
  deriving DecidableEq

/-- `QueueTicketId`, a newtype over `u64`. -/
abbrev QueueTicketId := Nat

/-- What a player shows to get a reserved permit back: the number of the lease. -/
abbrev ResumeToken := Nat

/-- A place in the queue, for one principal and one idempotency key. -/
structure QueueTicket where
  id : QueueTicketId
  session : SessionKey
  principal : PrincipalId
  idempotencyKey : IdempotencyKey
  deriving DecidableEq

/-- A permit of a session that a principal holds, and the token to resume it with. -/
structure AdmissionLease where
  id : Nat
  session : SessionKey
  principal : PrincipalId
  resumeToken : ResumeToken
  deriving DecidableEq

/-- The answer to a request to join. -/
inductive JoinDecision where
  | admitted (lease : AdmissionLease)
  | queued (ticket : QueueTicket)
  | paused
  | rejected (reason : RejectionReason)
  deriving DecidableEq

/-- Where a ticket stands, as its owner is told. -/
inductive QueueStatus where
  | waiting (position : Nat)
  | offered
  | admitted
  | expired
  | cancelled
  | missing
  deriving DecidableEq

/-- The answer to a cancellation. -/
inductive CancelResult where
  | cancelled
  | missing
  | alreadyAdmitted
  | alreadyExpired
  | alreadyOffered
  deriving DecidableEq

/-- Why an offer cannot be claimed. -/
inductive ClaimError where
  | notOffered
  | missing
  | expired
  | cancelled
  | alreadyAdmitted
  deriving DecidableEq

/-- Whether a lease is given back on purpose or with a lost connection. -/
inductive ReleaseReason where
  | intentional
  | unexpected
  deriving DecidableEq

/-- What a controller reports of its permits. -/
structure AdmissionSnapshot where
  allocatedCcu : UInt32
  activeCcu : UInt32
  reconnectReservations : UInt32
  offeredSlots : UInt32
  availableSlots : UInt32
  queueDepth : Nat
  pendingTarget : Option UInt32
  capacityRevision : Nat
  deriving DecidableEq

/-- The life of a ticket: it waits, is offered a permit until a time, and ends in one of three
ways. -/
inductive TicketState where
  | waiting
  | offered (expires : Instant)
  | expired
  | cancelled
  | admitted
  deriving DecidableEq

/-- `Offered(_)`. -/
def TicketState.isOffered : TicketState → Bool
  | .offered _ => true
  | _ => false

/-- `Waiting | Offered(_)`. -/
def TicketState.isLive : TicketState → Bool
  | .waiting | .offered _ => true
  | _ => false

/-- A ticket with its times and its state. -/
structure TicketEntry where
  ticket : QueueTicket
  created : Instant
  lastHeartbeat : Instant
  state : TicketState
  deriving DecidableEq

/-- A permit that is kept for a principal who has lost the connection. -/
structure Reservation where
  principal : PrincipalId
  expires : Instant
  deriving DecidableEq

/-- A permit in use, and the handle under which its time is counted. -/
structure ActiveLease where
  principal : PrincipalId
  started : Instant
  usageHandle : ConnectionHandle
  deriving DecidableEq

/-- Who wants to join, under which idempotency key. -/
structure JoinRequest where
  principal : PrincipalId
  idempotencyKey : Option IdempotencyKey
  deriving DecidableEq

/-- The permits, tickets and counters of one session. -/
structure AdmissionController where
  metadata : AdmissionMetadata
  policy : QueuePolicy
  allocatedCcu : UInt32
  pendingTarget : Option UInt32 := none
  revision : Nat
  nextTicket : Nat := 1
  nextLease : Nat := 1
  active : ExtTreeMap Nat ActiveLease := ∅
  reservations : ExtTreeMap Nat Reservation := ∅
  tickets : ExtTreeMap QueueTicketId TicketEntry := ∅
  waiting : List QueueTicketId := []
  idempotencyIndex : ExtTreeMap IdempotencyKey QueueTicketId := ∅
  counters : UsageCounters

namespace AdmissionController

/-- A controller with this allocation, and nobody in it. -/
def new (metadata : AdmissionMetadata) (policy : QueuePolicy) (capacity : CapacityUpdate)
    (counters : UsageCounters) : AdmissionController :=
  { metadata, policy, allocatedCcu := capacity.allocatedCcu, revision := capacity.revision,
    counters }

/-- The number of tickets that are `Offered`. -/
def offeredCount (controller : AdmissionController) : Nat :=
  (controller.tickets.toList.filter fun entry => entry.2.state.isOffered).length

/-- `occupied`: the additions are those of `u32`. -/
def occupied (controller : AdmissionController) : UInt32 :=
  saturatingU32 controller.active.size + saturatingU32 controller.reservations.size +
    saturatingU32 controller.offeredCount

/-- Some live ticket is of this principal. -/
def hasQueuedPrincipal (controller : AdmissionController) (principal : PrincipalId) : Bool :=
  controller.tickets.toList.any fun entry =>
    entry.2.ticket.principal == principal && entry.2.state.isLive

/-- The ticket is there and waits. -/
def isWaiting (controller : AdmissionController) (id : QueueTicketId) : Bool :=
  (controller.tickets[id]?).any (·.state == .waiting)

/-- How many of the queued tickets still wait. -/
def queueDepth (controller : AdmissionController) : Nat :=
  (controller.waiting.filter controller.isWaiting).length

/-- The allocation, or the lower one that is still pending. -/
def admissionLimit (controller : AdmissionController) : UInt32 :=
  controller.pendingTarget.getD controller.allocatedCcu

/-- `snapshot`: how the allocation is taken up. -/
def snapshot (controller : AdmissionController) : AdmissionSnapshot :=
  let occupied := controller.occupied
  { allocatedCcu := controller.allocatedCcu
    activeCcu := saturatingU32 controller.active.size
    reconnectReservations := saturatingU32 controller.reservations.size
    offeredSlots := saturatingU32 controller.offeredCount
    availableSlots :=
      if occupied ≤ controller.allocatedCcu then controller.allocatedCcu - occupied else 0
    queueDepth := controller.queueDepth
    pendingTarget := controller.pendingTarget
    capacityRevision := controller.revision }

/-- `has_active_lease`: issued by this session and not released. -/
def hasActiveLease (controller : AdmissionController) (lease : AdmissionLease) : Bool :=
  lease.session == controller.metadata.session &&
    (controller.active[lease.id]?).any (·.principal == lease.principal)

/-- Change the counters of usage only. -/
def setCounters (controller : AdmissionController) (f : UsageCounters → UsageCounters) :
    AdmissionController :=
  { controller with counters := f controller.counters }

/-- `admit`: a new lease, whose time is counted from now on. -/
def admitAt (controller : AdmissionController) (principal : PrincipalId) (now : Instant) :
    AdmissionLease × AdmissionController :=
  let id := controller.nextLease
  let (usageHandle, counters) := controller.counters.startConnection principal now
  let active := controller.active.insert id { principal, started := now, usageHandle }
  ({ id, session := controller.metadata.session, principal, resumeToken := id },
    { controller with
      nextLease := id + 1
      active := active
      counters := counters.setActiveCcu (saturatingU32 active.size) })

/-- A new waiting ticket at the end of the queue. -/
def enqueue (controller : AdmissionController) (idempotencyKey : IdempotencyKey)
    (principal : PrincipalId) (now : Instant) : QueueTicket × AdmissionController :=
  let id := controller.nextTicket
  let ticket : QueueTicket :=
    { id, session := controller.metadata.session, principal, idempotencyKey }
  (ticket, { controller with
    nextTicket := id + 1
    tickets := controller.tickets.insert id
      { ticket, created := now, lastHeartbeat := now, state := .waiting }
    idempotencyIndex := controller.idempotencyIndex.insert idempotencyKey id
    waiting := controller.waiting ++ [id] })

/-- A pending target becomes the allocation as soon as what is occupied fits in it. -/
def applyPending (controller : AdmissionController) : AdmissionController :=
  match controller.pendingTarget with
  | none => controller
  | some target =>
    if controller.occupied ≤ target then
      { controller with allocatedCcu := target, pendingTarget := none }
    else controller

/-- The loop of `promote_at` over the waiting ids, oldest first. -/
def promoteLoop (now : Instant) : List QueueTicketId → AdmissionController → AdmissionController
  | [], controller => controller
  | id :: rest, controller =>
    if 0 < controller.admissionLimit ∧ controller.occupied < controller.admissionLimit then
      promoteLoop now rest
        { controller with
          waiting := rest
          tickets :=
            if controller.isWaiting id then
              controller.tickets.modify id fun entry =>
                { entry with
                  state := .offered
                    ((Instant.checkedAdd now controller.policy.offerTtl).getD now) }
            else controller.tickets }
    else controller

/-- `promote_at`: free permits are offered to those who wait, oldest first. -/
def promoteAt (controller : AdmissionController) (now : Instant) : AdmissionController :=
  let controller := promoteLoop now controller.waiting controller
  controller.setCounters (·.setQueueDepth controller.queueDepth)

/-- What `expire_at` does to one ticket. -/
def expireEntry (policy : QueuePolicy) (now : Instant) (entry : TicketEntry) : TicketEntry :=
  match entry.state with
  | .waiting =>
    if policy.ticketTtl ≤ Instant.saturatingDurationSince now entry.created ∨
        policy.heartbeatTimeout ≤ Instant.saturatingDurationSince now entry.lastHeartbeat then
      { entry with state := .expired }
    else entry
  | .offered expires => if expires ≤ now then { entry with state := .expired } else entry
  | _ => entry

/-- The tickets that were live and that `expire_at` now finds expired. -/
def newlyExpired (controller : AdmissionController) (now : Instant) : List TicketEntry :=
  (controller.tickets.toList.map Prod.snd).filter fun entry : TicketEntry =>
    entry.state.isLive && (expireEntry controller.policy now entry).state == .expired

/-- The two retained tables and the tickets of `expire_at`, before anything is promoted. -/
def expireEntries (controller : AdmissionController) (now : Instant) : AdmissionController :=
  let expired : List TicketEntry := controller.newlyExpired now
  let reservations := controller.reservations.filter fun _ reservation => now < reservation.expires
  let counters := controller.counters
  let controller := { controller with
    reservations := reservations
    tickets := controller.tickets.map fun _ entry => expireEntry controller.policy now entry
    idempotencyIndex := expired.foldl
      (fun index (entry : TicketEntry) => index.erase entry.ticket.idempotencyKey)
      controller.idempotencyIndex
    counters := { counters with
      expiredTickets := counters.expiredTickets +
        (controller.reservations.size - reservations.size) +
        (expired.filter fun entry : TicketEntry => entry.state == TicketState.waiting).length
      abandonedOffers := counters.abandonedOffers +
        (expired.filter fun entry : TicketEntry => entry.state.isOffered).length } }
  let controller := { controller with waiting := controller.waiting.filter controller.isWaiting }
  controller.setCounters (·.setQueueDepth controller.queueDepth)

/-- `expire_at`: what is due expires, a pending target is applied, and permits are offered. -/
def expireAt (controller : AdmissionController) (now : Instant) : AdmissionController :=
  (controller.expireEntries now).applyPending.promoteAt now

/-- The live ticket filed under an idempotency key. -/
def liveTicket (controller : AdmissionController) (key : IdempotencyKey) : Option QueueTicket :=
  match (controller.idempotencyIndex[key]?).bind fun id => controller.tickets[id]? with
  | some entry => if entry.state.isLive then some entry.ticket else none
  | none => none

/-- `request_join_at` once the attempt is counted and what is due has expired. -/
def decideJoin (controller : AdmissionController) (request : JoinRequest) (now : Instant) :
    JoinDecision × AdmissionController :=
  match request.idempotencyKey with
  | none =>
    (.rejected .invalidIdempotencyKey,
      controller.setCounters fun c => { c with authRejections := c.authRejections + 1 })
  | some idempotencyKey =>
    if controller.admissionLimit = 0 then
      (.paused, controller.setCounters fun c =>
        { c with pausedRejections := c.pausedRejections + 1 })
    else
      match controller.liveTicket idempotencyKey with
      | some ticket => (.queued ticket, controller)
      | none =>
        if controller.hasQueuedPrincipal request.principal then
          (.rejected .alreadyQueued, controller.setCounters fun c =>
            { c with queueFullRejections := c.queueFullRejections + 1 })
        else if controller.occupied < controller.admissionLimit then
          let (lease, controller) := (controller.setCounters fun c =>
            { c with immediateAdmissions := c.immediateAdmissions + 1 }).admitAt
              request.principal now
          (.admitted lease, controller)
        else if !controller.policy.enabled then
          (.rejected .queueDisabled, controller.setCounters fun c =>
            { c with queueFullRejections := c.queueFullRejections + 1 })
        else if controller.policy.maxDepth ≤ controller.queueDepth then
          (.rejected .queueFull, controller.setCounters fun c =>
            { c with queueFullRejections := c.queueFullRejections + 1 })
        else
          let (ticket, controller) := (controller.setCounters fun c =>
            { c with queuedJoins := c.queuedJoins + 1 }.setQueueDepth
              (controller.queueDepth + 1)).enqueue idempotencyKey request.principal now
          (.queued ticket, controller)

/-- `request_join_at`: count the attempt, expire what is due, and decide. -/
def requestJoinAt (controller : AdmissionController) (request : JoinRequest) (now : Instant) :
    JoinDecision × AdmissionController :=
  ((controller.setCounters fun c => { c with joinAttempts := c.joinAttempts + 1 }).expireAt
    now).decideJoin request now

/-- `release_at`: a lease is given back, and reserved for a while if it was lost unexpectedly. -/
def releaseAt (controller : AdmissionController) (lease : AdmissionLease) (reason : ReleaseReason)
    (now : Instant) : AdmissionController :=
  if !controller.hasActiveLease lease then controller
  else
    match controller.active[lease.id]? with
    | none => controller
    | some removed =>
      let active := controller.active.erase lease.id
      let controller := { controller with
        active := active
        counters := (controller.counters.endConnection removed.usageHandle now).setActiveCcu
          (saturatingU32 active.size) }
      let controller :=
        if reason = .unexpected then
          { controller with
            reservations := controller.reservations.insert lease.id
              { principal := lease.principal
                expires := (Instant.checkedAdd now controller.policy.reconnectGrace).getD now }
            counters := { controller.counters with
              reconnectReservations := controller.counters.reconnectReservations + 1 } }
        else controller
      controller.applyPending.promoteAt now

/-- `apply_capacity_at`: a newer allocation holds at once, or is pending until it fits. -/
def applyCapacityAt (controller : AdmissionController) (update : CapacityUpdate) (now : Instant) :
    AdmissionSnapshot × AdmissionController :=
  if update.revision ≤ controller.revision then (controller.snapshot, controller)
  else
    let controller := { controller with
      revision := update.revision
      counters := { controller.counters with
        capacityAllocations := controller.counters.capacityAllocations + 1 } }
    let controller :=
      if update.allocatedCcu < controller.occupied then
        { controller with pendingTarget := some update.allocatedCcu }
      else
        { controller with allocatedCcu := update.allocatedCcu, pendingTarget := none }.promoteAt now
    (controller.snapshot, controller)

/-! ## Tickets -/

/-- `status`: the position of a waiting ticket counts from one. -/
def status (controller : AdmissionController) (id : QueueTicketId) : QueueStatus :=
  match controller.tickets[id]? with
  | none => .missing
  | some entry =>
    match entry.state with
    | .waiting => .waiting
        (((controller.waiting.filter controller.isWaiting).idxOf? id).elim 0 (· + 1))
    | .offered _ => .offered
    | .admitted => .admitted
    | .expired => .expired
    | .cancelled => .cancelled

/-- `queue_status_at`. -/
def queueStatusAt (controller : AdmissionController) (id : QueueTicketId) (now : Instant) :
    QueueStatus × AdmissionController :=
  let controller := controller.expireAt now
  (controller.status id, controller)

/-- `heartbeat_at`: a waiting ticket is kept alive. -/
def heartbeatAt (controller : AdmissionController) (id : QueueTicketId) (now : Instant) :
    QueueStatus × AdmissionController :=
  let controller := controller.expireAt now
  let controller :=
    if controller.isWaiting id then
      { controller with
        tickets := controller.tickets.modify id fun entry => { entry with lastHeartbeat := now } }
    else controller
  (controller.status id, controller)

/-- A live ticket is cancelled and leaves the queue. -/
def cancelTicket (controller : AdmissionController) (id : QueueTicketId) (entry : TicketEntry) :
    AdmissionController :=
  { controller with
    tickets := controller.tickets.insert id { entry with state := .cancelled }
    idempotencyIndex := controller.idempotencyIndex.erase entry.ticket.idempotencyKey
    waiting := controller.waiting.filter (· ≠ id)
    counters := { controller.counters with
      cancelledTickets := controller.counters.cancelledTickets + 1 } }

/-- `cancel_at`: a live ticket is cancelled. -/
def cancelAt (controller : AdmissionController) (id : QueueTicketId) (now : Instant) :
    CancelResult × AdmissionController :=
  let controller := controller.expireAt now
  match controller.tickets[id]? with
  | none => (.missing, controller)
  | some entry =>
    match entry.state with
    | .waiting | .offered _ => (.cancelled, (controller.cancelTicket id entry).promoteAt now)
    | .admitted => (.alreadyAdmitted, controller)
    | .expired | .cancelled => (.alreadyExpired, controller)

/-- An offered ticket is claimed. -/
def claimTicket (controller : AdmissionController) (id : QueueTicketId) (entry : TicketEntry) :
    AdmissionController :=
  { controller with
    tickets := controller.tickets.insert id { entry with state := .admitted }
    idempotencyIndex := controller.idempotencyIndex.erase entry.ticket.idempotencyKey
    counters := { controller.counters with
      promotedPlayers := controller.counters.promotedPlayers + 1 } }

/-- `claim_offer_at`: the permit offered to a ticket becomes a lease. -/
def claimOfferAt (controller : AdmissionController) (id : QueueTicketId) (now : Instant) :
    Except ClaimError AdmissionLease × AdmissionController :=
  let controller := controller.expireAt now
  match controller.tickets[id]? with
  | none => (.error .missing, controller)
  | some entry =>
    match entry.state with
    | .offered _ =>
      let (lease, controller) :=
        (controller.claimTicket id entry).admitAt entry.ticket.principal now
      (.ok lease, controller)
    | .waiting => (.error .notOffered, controller)
    | .expired => (.error .expired, controller)
    | .cancelled => (.error .cancelled, controller)
    | .admitted => (.error .alreadyAdmitted, controller)

/-- `resume_at`. The reservation of another principal is put back. -/
def resumeAt (controller : AdmissionController) (token : ResumeToken) (principal : PrincipalId)
    (now : Instant) : Option AdmissionLease × AdmissionController :=
  let controller := controller.expireAt now
  match controller.reservations[token]? with
  | none => (none, controller)
  | some reservation =>
    if reservation.principal ≠ principal then (none, controller)
    else
      let (usageHandle, counters) := ({ controller.counters with
        successfulResumes := controller.counters.successfulResumes + 1 }).startConnection principal
          now
      let active := controller.active.insert token { principal, started := now, usageHandle }
      (some
        { id := token, session := controller.metadata.session, principal, resumeToken := token },
        { controller with
          reservations := controller.reservations.erase token
          active := active
          counters := counters.setActiveCcu (saturatingU32 active.size) })

end AdmissionController

end Signalweave
