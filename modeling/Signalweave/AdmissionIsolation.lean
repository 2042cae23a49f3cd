import Signalweave.AdmissionTickets

/-!
# Tickets of several principals

An idempotency key is looked up before the principal is. What a principal is answered is its own
exactly while nobody asks under the key of another principal's live ticket.
-/

open Std

namespace Signalweave

/-- A controller beside what it has answered to each principal. -/
structure JoinHistory where
  controller : AdmissionController
  answers : List (PrincipalId × JoinDecision)

namespace AdmissionController

variable {controller controller' : AdmissionController} {now : Instant} {request : JoinRequest}

/-! ## Which ticket a key names -/

theorem liveTicket_eq_some {key : IdempotencyKey} {ticket : QueueTicket}
    (h : controller.TicketIndex) :
    controller.liveTicket key = some ticket ↔
      ∃ id entry, controller.LiveAt id entry ∧ entry.ticket.idempotencyKey = key ∧
        entry.ticket = ticket := by
  constructor
  · intro hticket
    unfold liveTicket at hticket
    split at hticket
    · rename_i entry hentry
      obtain ⟨hlive, hsame⟩ := Option.ite_none_right_eq_some.mp hticket
      obtain ⟨id, hid, hentry⟩ := Option.bind_eq_some_iff.mp hentry
      obtain ⟨found, hfound, hkey⟩ := (h.filed key id).mp hid
      obtain rfl := Option.some.inj (hfound.1.symm.trans hentry)
      exact ⟨id, found, hfound, hkey, Option.some.inj hsame⟩
    · cases hticket
  · rintro ⟨id, entry, hlive, hkey, rfl⟩
    have hid := (h.filed key id).mpr ⟨entry, hlive, hkey⟩
    rw [liveTicket, hid, Option.bind_some, hlive.1]
    exact if_pos hlive.2

/-- A promotion leaves a live ticket live. -/
theorem liveAt_promoteAt {id : QueueTicketId} {ticket : QueueTicket} :
    (∃ entry, (controller.promoteAt now).LiveAt id entry ∧ entry.ticket = ticket) ↔
      ∃ entry, controller.LiveAt id entry ∧ entry.ticket = ticket := by
  apply promoteAt_induction (P := fun middle : AdmissionController =>
    (∃ entry, middle.LiveAt id entry ∧ entry.ticket = ticket) ↔
      ∃ entry, controller.LiveAt id entry ∧ entry.ticket = ticket) _ (fun _ _ h => h) Iff.rfl
  intro middle head rest _ hmiddle
  rw [← hmiddle]
  have hdata : ∀ entry : TicketEntry, ∀ expires : Instant,
      (if id = head ∧ entry.state = .waiting then { entry with state := .offered expires }
        else entry).ticket = entry.ticket ∧
      (if id = head ∧ entry.state = .waiting then { entry with state := .offered expires }
        else entry).state.isLive = entry.state.isLive := by
    intro entry expires
    split
    · rename_i hhead
      rw [hhead.2]
      exact ⟨rfl, rfl⟩
    · exact ⟨rfl, rfl⟩
  unfold LiveAt
  rw [getElem?_offerHead]
  constructor
  · rintro ⟨entry, ⟨hentry, hlive⟩, rfl⟩
    obtain ⟨before, hbefore, rfl⟩ := Option.map_eq_some_iff.mp hentry
    exact ⟨before, ⟨hbefore, (hdata before _).2.symm.trans hlive⟩, (hdata before _).1.symm⟩
  · rintro ⟨entry, ⟨hentry, hlive⟩, rfl⟩
    rw [hentry]
    exact ⟨_, ⟨rfl, (hdata entry _).2.trans hlive⟩, (hdata entry _).1⟩

/-- The tickets that are live after `expire_at` were live and are not due. -/
theorem liveAt_expireAt {id : QueueTicketId} {ticket : QueueTicket} :
    (∃ entry, (controller.expireAt now).LiveAt id entry ∧ entry.ticket = ticket) ↔
      ∃ entry, controller.LiveAt id entry ∧ expireEntry controller.policy now entry = entry ∧
        entry.ticket = ticket := by
  have hpending : ∀ entry, (controller.expireEntries now).applyPending.LiveAt id entry ↔
      controller.LiveAt id entry ∧ expireEntry controller.policy now entry = entry := by
    intro entry
    rw [← liveAt_expireEntries]
    unfold LiveAt
    rw [applyPending_tickets.1]
  rw [expireAt, liveAt_promoteAt]
  simp only [hpending, and_assoc]

theorem admissionLimit_expireAt :
    (controller.expireAt now).admissionLimit = controller.admissionLimit := by
  have hpending : (controller.expireEntries now).applyPending.admissionLimit =
      controller.admissionLimit := by
    unfold applyPending
    split
    · rfl
    · rename_i target htarget
      split
      · show target = controller.pendingTarget.getD controller.allocatedCcu
        rw [show controller.pendingTarget = some target from htarget]
        rfl
      · rfl
  rw [← hpending, expireAt]
  apply promoteAt_induction (P := fun middle : AdmissionController =>
    middle.admissionLimit = (controller.expireEntries now).applyPending.admissionLimit)
  · exact fun _ _ _ _ h => h
  · exact fun _ _ h => h
  · rfl

/-! ## What a request is answered -/

/-- A live ticket under the requested key is the principal's own, whenever the request comes to
be looked up. -/
def OwnKey (controller : AdmissionController) : AdmissionOp → Prop
  | .requestJoin request now => ∀ id entry, controller.LiveAt id entry →
      expireEntry controller.policy now entry = entry → controller.admissionLimit ≠ 0 →
        request.idempotencyKey = some entry.ticket.idempotencyKey →
          entry.ticket.principal = request.principal
  | _ => True

/-- A ticket in an answer is the one filed under the key, or one that was just issued. -/
inductive Answers (controller : AdmissionController) (request : JoinRequest) :
    JoinDecision × AdmissionController → Prop
  | refused (decision : JoinDecision) (after : AdmissionController)
      (noLease : ∀ lease, decision ≠ .admitted lease)
      (noTicket : ∀ ticket, decision ≠ .queued ticket) :
      Answers controller request (decision, after)
  | filed (key : IdempotencyKey) (ticket : QueueTicket) (asked : request.idempotencyKey = some key)
      (opened : controller.admissionLimit ≠ 0) (found : controller.liveTicket key = some ticket) :
      Answers controller request (.queued ticket, controller)
  | admitted (lease : AdmissionLease) (after : AdmissionController)
      (own : lease.principal = request.principal) :
      Answers controller request (.admitted lease, after)
  | queued (entry : TicketEntry) (after : AdmissionController)
      (own : entry.ticket.principal = request.principal)
      (held : after.tickets[entry.ticket.id]? = some entry) :
      Answers controller request (.queued entry.ticket, after)

theorem decideJoin_answers (request : JoinRequest) :
    Answers controller request (controller.decideJoin request now) := by
  unfold decideJoin
  cases hkey : request.idempotencyKey with
  | none => exact .refused _ _ (fun _ => by simp) (fun _ => by simp)
  | some key =>
    dsimp only
    by_cases hpaused : controller.admissionLimit = 0
    · rw [if_pos hpaused]
      exact .refused _ _ (fun _ => by simp) (fun _ => by simp)
    rw [if_neg hpaused]
    cases hticket : controller.liveTicket key with
    | some ticket => exact .filed key ticket hkey hpaused hticket
    | none =>
      dsimp only
      split_ifs with hqueued hroom henabled hdepth
      · exact .refused _ _ (fun _ => by simp) (fun _ => by simp)
      · exact .admitted _ _ rfl
      · exact .refused _ _ (fun _ => by simp) (fun _ => by simp)
      · exact .refused _ _ (fun _ => by simp) (fun _ => by simp)
      · exact .queued
          { ticket := (controller.enterQueue key request.principal now).1, created := now
            lastHeartbeat := now, state := .waiting } _ rfl
          ((OrderedMap.getElem?_insert).trans (if_pos rfl))

theorem decideJoin_of_filed {key : IdempotencyKey} {ticket : QueueTicket}
    (hkey : request.idempotencyKey = some key) (hopen : controller.admissionLimit ≠ 0)
    (hfound : controller.liveTicket key = some ticket) :
    controller.decideJoin request now = (.queued ticket, controller) := by
  unfold decideJoin
  rw [hkey]
  dsimp only
  rw [if_neg hopen, hfound]

/-- What has expired before the request is decided. -/
theorem Ticketed.lapse (h : controller.Ticketed) :
    (controller.countAttempt.expireAt now).Ticketed := by
  have hcounted : controller.countAttempt.Ticketed :=
    ⟨h.numbered, ⟨h.index.filed, h.index.alone, h.index.own⟩⟩
  exact (hcounted.step (.queueStatus 0 now)).1

theorem admissionLimit_lapse :
    (controller.countAttempt.expireAt now).admissionLimit = controller.admissionLimit :=
  admissionLimit_expireAt

theorem requestJoinAt_answers (request : JoinRequest) :
    Answers (controller.countAttempt.expireAt now) request (controller.requestJoinAt request now) :=
  decideJoin_answers request

/-- The request is answered with the live ticket that is filed under its key. -/
theorem requestJoinAt_of_live {id : QueueTicketId} {entry : TicketEntry} (h : controller.Ticketed)
    (hlive : controller.LiveAt id entry) (hdue : expireEntry controller.policy now entry = entry)
    (hopen : controller.admissionLimit ≠ 0)
    (hkey : request.idempotencyKey = some entry.ticket.idempotencyKey) :
    (controller.requestJoinAt request now).1 = .queued entry.ticket := by
  have hlater : ∃ found, (controller.countAttempt.expireAt now).LiveAt id found ∧
      found.ticket = entry.ticket := liveAt_expireAt.mpr ⟨entry, hlive, hdue, rfl⟩
  obtain ⟨found, hfound, hsame⟩ := hlater
  have hticket : (controller.countAttempt.expireAt now).liveTicket entry.ticket.idempotencyKey =
      some entry.ticket :=
    (liveTicket_eq_some h.lapse.index).mpr ⟨id, found, hfound, by rw [hsame], hsame⟩
  have hlimit : (controller.countAttempt.expireAt now).admissionLimit ≠ 0 :=
    admissionLimit_lapse.trans_ne hopen
  exact congrArg Prod.fst (decideJoin_of_filed hkey hlimit hticket)

theorem requestJoinAt_lease {lease : AdmissionLease}
    (hadmitted : (controller.requestJoinAt request now).1 = .admitted lease) :
    lease.principal = request.principal := by
  have hanswers := @requestJoinAt_answers controller now request
  generalize controller.requestJoinAt request now = result at hanswers hadmitted
  cases hanswers with
  | refused decision after noLease noTicket => exact absurd hadmitted (noLease lease)
  | filed key ticket asked opened found => cases hadmitted
  | admitted other after own =>
    cases hadmitted
    exact own
  | queued entry after own held => cases hadmitted

/-- The ticket in an answer is in the table. -/
theorem requestJoinAt_held {ticket : QueueTicket} (h : controller.Ticketed)
    (hqueued : (controller.requestJoinAt request now).1 = .queued ticket) :
    ∃ entry, (controller.requestJoinAt request now).2.tickets[ticket.id]? = some entry ∧
      entry.ticket = ticket := by
  have hanswers := @requestJoinAt_answers controller now request
  have hlapse : (controller.countAttempt.expireAt now).TicketIndex := h.lapse.index
  generalize controller.requestJoinAt request now = result at hanswers hqueued ⊢
  cases hanswers with
  | refused decision after noLease noTicket => exact absurd hqueued (noTicket ticket)
  | filed key other asked opened found =>
    cases hqueued
    obtain ⟨id, entry, hlive, -, rfl⟩ := (liveTicket_eq_some hlapse).mp found
    have hid : entry.ticket.id = id := hlapse.own id entry hlive.1
    exact ⟨entry, hid ▸ hlive.1, rfl⟩
  | admitted lease after own => cases hqueued
  | queued entry after own held =>
    cases hqueued
    exact ⟨entry, held, rfl⟩

/-- While principals ask under their own keys, so are the tickets they are answered. -/
theorem requestJoinAt_ticket {ticket : QueueTicket} (h : controller.Ticketed)
    (hown : controller.OwnKey (.requestJoin request now))
    (hqueued : (controller.requestJoinAt request now).1 = .queued ticket) :
    ticket.principal = request.principal := by
  have hanswers := @requestJoinAt_answers controller now request
  generalize controller.requestJoinAt request now = result at hanswers hqueued
  cases hanswers with
  | refused decision after noLease noTicket => exact absurd hqueued (noTicket ticket)
  | filed key other asked opened found =>
    cases hqueued
    obtain ⟨id, entry, hlive, hkey, rfl⟩ := (liveTicket_eq_some h.lapse.index).mp found
    obtain ⟨before, hbefore, hdue, hsame⟩ := liveAt_expireAt.mp ⟨entry, hlive, rfl⟩
    rw [← hsame]
    apply hown id before hbefore hdue
    · exact admissionLimit_lapse.symm.trans_ne opened
    · rw [asked, hsame, hkey]
  | admitted lease after own => cases hqueued
  | queued entry after own held =>
    cases hqueued
    exact own

/-- Two waiting tickets have two positions. -/
theorem Orderly.status_injective {id other : QueueTicketId} {position : Nat}
    (h : controller.Orderly) (hid : controller.status id = .waiting position)
    (hother : controller.status other = .waiting position) : id = other := by
  have hindex : ∀ {id}, controller.status id = .waiting position →
      controller.waiting.idxOf? id = some (position - 1) := by
    intro id hstatus
    have hwaiting : controller.isWaiting id = true := by
      unfold status at hstatus
      split at hstatus
      · cases hstatus
      · rename_i entry hentry
        split at hstatus
        · rename_i hstate
          exact isWaiting_iff.mpr ⟨entry, hentry, hstate⟩
        · cases hstatus
        · cases hstatus
        · cases hstatus
        · cases hstatus
    have hposition := h.firstComeFirstServed.position id hwaiting
    rw [hstatus] at hposition
    obtain rfl := QueueStatus.waiting.inj hposition
    rw [idxOf?_of_sorted h.queued.sorted ((h.queued.listed id).mpr hwaiting),
      h.queued.length_filter]
    rfl
  obtain ⟨_, hfirst, -⟩ := List.idxOf?_eq_some_iff.mp (hindex hid)
  obtain ⟨_, hsecond, -⟩ := List.idxOf?_eq_some_iff.mp (hindex hother)
  exact hfirst.symm.trans hsecond

end AdmissionController

namespace JoinHistory

open AdmissionController

variable {history : JoinHistory}

/-- The answer to a request is recorded for the principal that made it. -/
def step (history : JoinHistory) (op : AdmissionOp) : JoinHistory :=
  { controller := history.controller.apply op
    answers := history.answers ++ match op with
      | .requestJoin request now =>
        [(request.principal, (history.controller.requestJoinAt request now).1)]
      | _ => [] }

/-- What principals are answered is their own, and they share no live ticket and no position in
the queue. -/
structure Isolated (history : JoinHistory) : Prop where
  lease : ∀ principal lease, (principal, .admitted lease) ∈ history.answers →
    lease.principal = principal
  ticket : ∀ principal ticket, (principal, .queued ticket) ∈ history.answers →
    ticket.principal = principal
  unshared : ∀ principal other ticket ticket' entry, (principal, .queued ticket) ∈ history.answers →
    (other, .queued ticket') ∈ history.answers → history.controller.LiveAt ticket.id entry →
      ticket.id = ticket'.id → principal = other
  positions : ∀ principal other ticket ticket' position,
    (principal, .queued ticket) ∈ history.answers → (other, .queued ticket') ∈ history.answers →
      history.controller.status ticket.id = .waiting position →
        history.controller.status ticket'.id = .waiting position → principal = other

/-- What every history has: the tickets in the answers are in the table, with the same data. -/
structure Sound (history : JoinHistory) : Prop where
  ticketed : history.controller.Ticketed
  orderly : history.controller.Orderly
  issued : ∀ principal ticket, (principal, .queued ticket) ∈ history.answers →
    ∃ entry, history.controller.tickets[ticket.id]? = some entry ∧ entry.ticket = ticket

theorem mem_answers_step {op : AdmissionOp} {principal : PrincipalId} {decision : JoinDecision} :
    (principal, decision) ∈ (history.step op).answers ↔
      (principal, decision) ∈ history.answers ∨ ∃ request now, op = .requestJoin request now ∧
        request.principal = principal ∧
          (history.controller.requestJoinAt request now).1 = decision := by
  unfold step
  rw [List.mem_append]
  apply or_congr_right
  cases op with
  | requestJoin request now =>
    rw [List.mem_singleton, Prod.mk.injEq]
    constructor
    · rintro ⟨rfl, rfl⟩
      exact ⟨request, now, rfl, rfl, rfl⟩
    · rintro ⟨_, _, hop, hprincipal, hdecision⟩
      cases hop
      exact ⟨hprincipal.symm, hdecision.symm⟩
  | _ => simp

theorem Sound.step (h : history.Sound) (op : AdmissionOp) : (history.step op).Sound := by
  obtain ⟨hticketed, hmoves⟩ := h.ticketed.step op
  refine ⟨hticketed, (apply_serves op h.orderly).orderly, ?_⟩
  intro principal ticket hanswer
  rcases mem_answers_step.mp hanswer with hbefore | ⟨request, now, rfl, -, hdecision⟩
  · obtain ⟨entry, hentry, rfl⟩ := h.issued principal ticket hbefore
    obtain ⟨entry', hentry', hsame, -⟩ := hmoves.moves _ entry hentry
    exact ⟨entry', hentry', hsame⟩
  · exact requestJoinAt_held h.ticketed hdecision

/-- A history in which everybody is answered what is theirs is isolated. -/
theorem Sound.isolated (h : history.Sound)
    (hlease : ∀ principal lease, (principal, .admitted lease) ∈ history.answers →
      lease.principal = principal)
    (hticket : ∀ principal ticket, (principal, .queued ticket) ∈ history.answers →
      ticket.principal = principal) : history.Isolated := by
  have hunshared : ∀ principal other ticket ticket',
      (principal, .queued ticket) ∈ history.answers → (other, .queued ticket') ∈ history.answers →
        ticket.id = ticket'.id → principal = other := by
    intro principal other ticket ticket' hfirst hsecond hid
    obtain ⟨entry, hentry, rfl⟩ := h.issued principal ticket hfirst
    obtain ⟨entry', hentry', rfl⟩ := h.issued other ticket' hsecond
    rw [hid, hentry'] at hentry
    obtain rfl := Option.some.inj hentry
    rw [← hticket principal _ hfirst, hticket other _ hsecond]
  refine ⟨hlease, hticket, ?_, ?_⟩
  · intro principal other ticket ticket' entry hfirst hsecond _ hid
    exact hunshared principal other ticket ticket' hfirst hsecond hid
  · intro principal other ticket ticket' position hfirst hsecond hstatus hstatus'
    have hid := h.orderly.status_injective hstatus hstatus'
    exact hunshared principal other ticket ticket' hfirst hsecond hid

/-- A request under another principal's key breaks the isolation, and nothing else does. -/
theorem Isolated.step_iff (h : history.Sound) (hisolated : history.Isolated) (op : AdmissionOp) :
    (history.step op).Isolated ↔ history.controller.OwnKey op := by
  constructor
  · intro hafter
    cases op with
    | requestJoin request now =>
      intro id entry hlive hdue hopen hkey
      have hdecision := requestJoinAt_of_live h.ticketed hlive hdue hopen hkey
      exact hafter.ticket request.principal entry.ticket
        (mem_answers_step.mpr (.inr ⟨request, now, rfl, rfl, hdecision⟩))
    | _ => trivial
  · intro hown
    apply (h.step op).isolated
    · intro principal lease hanswer
      rcases mem_answers_step.mp hanswer with hbefore | ⟨request, now, -, rfl, hdecision⟩
      · exact hisolated.lease principal lease hbefore
      · exact requestJoinAt_lease hdecision
    · intro principal ticket hanswer
      rcases mem_answers_step.mp hanswer with hbefore | ⟨request, now, rfl, rfl, hdecision⟩
      · exact hisolated.ticket principal ticket hbefore
      · exact requestJoinAt_ticket h.ticketed hown hdecision

/-- Principals are isolated throughout a run exactly if nobody asks under the key of another
principal's live ticket. -/
theorem run_isolated_iff (metadata : AdmissionMetadata) (policy : QueuePolicy)
    (capacity : CapacityUpdate) (counters : UsageCounters) (ops : List AdmissionOp) :
    Transition.Always step Isolated ⟨.new metadata policy capacity counters, []⟩ ops ↔
      Transition.Meets step (fun history op => history.controller.OwnKey op)
        ⟨.new metadata policy capacity counters, []⟩ ops := by
  apply Transition.always_iff_meets (J := Sound)
  · exact fun history op h => h.step op
  · exact fun history op h hisolated => hisolated.step_iff h op
  · exact ⟨new_ticketed _ _ _ _, new_orderly _ _ _ _, fun _ _ hanswer => by cases hanswer⟩
  · constructor
    · exact fun _ _ hanswer => by cases hanswer
    · exact fun _ _ hanswer => by cases hanswer
    · exact fun _ _ _ _ _ hanswer => by cases hanswer
    · exact fun _ _ _ _ _ hanswer => by cases hanswer

end JoinHistory

namespace Sample

/-- Three players ask for one permit under the same key. -/
def sharedKey : List AdmissionOp :=
  [.requestJoin { principal := ⟨7⟩, idempotencyKey := some ⟨"key", by decide⟩ } 0,
    .requestJoin { principal := ⟨8⟩, idempotencyKey := some ⟨"key", by decide⟩ } 1,
    .requestJoin { principal := ⟨9⟩, idempotencyKey := some ⟨"key", by decide⟩ } 2]

end Sample

/-- The third player is answered the ticket of the second. -/
theorem JoinHistory.run_not_isolated :
    ¬ ∀ ops, Transition.Always step Isolated ⟨Sample.onePermit, []⟩ ops := by
  intro h
  have hisolated := (h Sample.sharedKey).last
  have hanswer : ((⟨9⟩ : PrincipalId), JoinDecision.queued
      { id := 1, session := ⟨⟨1⟩, ⟨1⟩⟩, principal := ⟨8⟩, idempotencyKey := ⟨"key", by decide⟩ }) ∈
      (Transition.run step ⟨Sample.onePermit, []⟩ Sample.sharedKey).answers := by
    decide +kernel
  have hprincipal := hisolated.ticket _ _ hanswer
  cases hprincipal

end Signalweave
