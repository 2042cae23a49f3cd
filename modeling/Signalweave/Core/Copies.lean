import Signalweave.Core.Isolation
import Signalweave.Core.Reliable
import Signalweave.QueueHistories

/-!
# How often a message waits

An accepted publication puts each message of its plan into a queue once at most, and nothing else
ever puts a message there. What a queue holds is counted along its ledger: a loss lowers the count,
and a drain leaves nothing to count.
-/

open Std

namespace Signalweave

open Stateful WovenCore

variable {p : OutboundMessage → Bool} {n : Nat} {message : OutboundMessage}

/-! ## Ledgers -/

namespace Ledger

open Marking LedgerEntry

variable {ledger : Ledger} {fate : Fate}

/-- How many messages of a kind wait. -/
def copies (p : OutboundMessage → Bool) (ledger : Ledger) : Nat :=
  ledger.countP fun entry => entry.isQueued && p entry.message

theorem not_copied_mark (h : fate ≠ .queued) (entry : LedgerEntry)
    (hmarked : ((entry.mark fate).isQueued && p (entry.mark fate).message) = true) :
    (entry.isQueued && p entry.message) = true := by
  simp [isQueued, h] at hmarked

theorem copies_evict (eviction : QueueEviction) :
    (ledger.evict eviction).copies p ≤ ledger.copies p := by
  cases eviction with
  | latest key => exact countP_markAll_le (not_copied_mark nofun)
  | bestEffort => exact countP_markFirst_le (not_copied_mark nofun)

theorem copies_lose (result : QueuePush) :
    (ledger.lose message result).copies p ≤ ledger.copies p := by
  cases result with
  | queuedCriticalAfterEviction eviction => exact copies_evict eviction
  | replacedLatest =>
    show (message.scopedCoalesceKey.elim ledger _).copies p ≤ _
    cases message.scopedCoalesceKey with
    | none => exact Nat.le_refl _
    | some key => exact countP_markAll_le (not_copied_mark nofun)
  | evictedLatest key => exact copies_evict (.latest key)
  | evictedBestEffortForLatest => exact copies_evict .bestEffort
  | _ => exact Nat.le_refl _

theorem copies_record :
    (ledger.record message fate).copies p ≤ ledger.copies p + [message].countP p := by
  unfold copies record
  rw [List.countP_append]
  refine Nat.add_le_add_left ?_ _
  rw [List.countP_singleton, List.countP_singleton]
  split <;> simp_all

theorem copies_push (answer : Except QueueError (QueuePush × OutboundQueue)) :
    (ledger.push message answer).copies p ≤ ledger.copies p + [message].countP p := by
  cases answer with
  | error => exact copies_record
  | ok answer =>
    exact Nat.le_trans copies_record (Nat.add_le_add_right (copies_lose answer.1) _)

theorem copies_purge {shouldRemove : OutboundMessage → Bool} :
    (ledger.purge shouldRemove).copies p ≤ ledger.copies p :=
  countP_markAll_le (not_copied_mark nofun)

theorem copies_drain : ledger.drain.copies p = 0 := by
  unfold copies drain markAll
  rw [List.countP_map, List.countP_eq_zero]
  intro entry _
  rw [Function.comp_apply]
  split <;> simp_all [isQueued]

theorem countP_queue : ledger.queue.countP p = ledger.copies p := by
  rw [queue_perm.countP_eq, List.countP_map, List.countP_filter]
  apply List.countP_congr
  intro entry _
  rw [Function.comp_apply, Bool.and_comm]

end Ledger

/-! ## Queues -/

namespace OutboundQueue

variable {queue queue' : OutboundQueue}

/-- The queue holds at most a number of messages of a kind. -/
def Carries (queue : OutboundQueue) (p : OutboundMessage → Bool) (n : Nat) : Prop :=
  ∃ ledger, queue.Agrees ledger ∧ ledger.copies p ≤ n

theorem Carries.mono {m : Nat} (h : queue.Carries p n) (hle : n ≤ m) : queue.Carries p m := by
  obtain ⟨ledger, hagrees, hcopies⟩ := h
  exact ⟨ledger, hagrees, Nat.le_trans hcopies hle⟩

theorem Carries.start (config : OutboundQueueConfig) : Carries { config } p n :=
  ⟨[], ⟨rfl, ⟨rfl, nofun⟩, rfl⟩, Nat.zero_le n⟩

theorem Carries.push {result : QueuePush} (h : queue.Carries p n) (hw : queue.WellFormed)
    (hpush : queue.push message = .ok (result, queue')) :
    queue'.Carries p (n + [message].countP p) := by
  obtain ⟨ledger, hagrees, hcopies⟩ := h
  have hpushed := hagrees.push hw message
  have hnext : queue.apply (.push message) = queue' := by
    simp only [OutboundQueue.apply, hpush]
  rw [hnext] at hpushed
  exact ⟨_, hpushed, Nat.le_trans (Ledger.copies_push _) (Nat.add_le_add_right hcopies _)⟩

theorem Carries.purge {shouldRemove : OutboundMessage → Bool} (h : queue.Carries p n) :
    (queue.purge shouldRemove).Carries p n := by
  obtain ⟨ledger, hagrees, hcopies⟩ := h
  exact ⟨_, hagrees.purge, Nat.le_trans Ledger.copies_purge hcopies⟩

/-- A drain hands all of it out. -/
theorem Carries.drain (h : queue.Carries p n) (hw : queue.WellFormed) :
    queue.drain.1.countP p ≤ n ∧ queue.drain.2.Carries p 0 := by
  obtain ⟨ledger, hagrees, hcopies⟩ := h
  obtain ⟨hdrained, hleft⟩ := hagrees.drain hw
  refine ⟨?_, _, hleft, Nat.le_of_eq Ledger.copies_drain⟩
  rw [hdrained, Ledger.countP_queue]
  exact hcopies

end OutboundQueue

open OutboundQueue

/-- What does not publish puts nothing into a queue. -/
theorem QueueChange.carries {op : Op} {queue queue' : OutboundQueue}
    (h : QueueChange op queue queue')
    (hop : ¬ op.publishes) (hw : queue.WellFormed) (hcarries : queue.Carries p n) :
    queue'.Carries p n := by
  cases h with
  | same => exact hcarries
  | purge q asked => exact hcarries.purge
  | push message result queue' asked pushed => exact absurd asked hop
  | drain asked => exact (hcarries.drain hw).2.mono (Nat.zero_le n)
  | start config asked => exact .start config

/-! ## The core -/

/-- Nothing comes into a queue but messages of a list, each as often as it is listed. -/
def Brings (core : WovenCore) (messages : List OutboundMessage) (core' : WovenCore) : Prop :=
  ∀ c p n, (core.connectionAt c).outbound.Carries p n →
    (core'.connectionAt c).outbound.Carries p (n + messages.countP p)

variable {core core' core'' : WovenCore} {messages messages' : List OutboundMessage} {op : Op}

theorem Brings.refl : Brings core [] core := fun _ _ _ h => h

theorem Brings.trans (h : Brings core messages core') (h' : Brings core' messages' core'') :
    Brings core (messages ++ messages') core'' := by
  intro c p n hcarries
  rw [List.countP_append, ← Nat.add_assoc]
  exact h' c p _ (h c p n hcarries)

theorem Brings.of_queues
    (h : ∀ c, (core'.connectionAt c).outbound = (core.connectionAt c).outbound) :
    Brings core [] core' := by
  intro c p n hcarries
  rw [h]
  exact hcarries

theorem Change.brings (h : Change op core core') (hsound : core.Sound) (hop : ¬ op.publishes) :
    Brings core [] core' :=
  fun c _ _ hcarries => (h.outbound c).carries hop (hsound.wellFormed c) hcarries

theorem brings_loseAll (hsound : core.Sound) (slow : List ConnectionId) (clock : ReleaseClock) :
    Brings core [] (core.loseAll slow clock) := by
  refine loseAll_induction (P := Brings core []) hsound slow clock .refl ?_
  intro connection before after hbefore hchange _ hbrings
  exact hbrings.trans (hchange.brings hbefore not_false)

section FanOut

variable {request : PublishRequest} {now : Instant} {call : Nat} {clock : ReleaseClock}
  {start : WovenCore} {expected come : ConnectionId → List OutboundMessage} {fan : FanOut}
  {plan : PublishPlan}

/-- What has come to each connection along a fan-out. -/
def Came (start : WovenCore) (come : ConnectionId → List OutboundMessage) (core : WovenCore) :
    Prop :=
  ∀ c p n, (start.connectionAt c).outbound.Carries p n →
    (core.connectionAt c).outbound.Carries p (n + (come c).countP p)

theorem Came.more (h : Came start come core) (more : ConnectionId → List OutboundMessage) :
    Came start (fun c => come c ++ more c) core := by
  intro c p n hcarries
  refine (h c p n hcarries).mono ?_
  rw [List.countP_append]
  omega

theorem deliver_came {recipient : ConnectionId} (hsound : start.Sound)
    (h : FannedOut (.publishAt request now call clock) request.session start expected fan core)
    (hcame : Came start come core) :
    Ends (deliver request.session message fan recipient) core
      (fun _ => Came start fun c => come c ++ put start request.session message recipient c)
      fun _ _ => True := by
  have hmay : core.mayReceive request.session recipient message =
      start.mayReceive request.session recipient message := by
    rw [mayReceive, h.connections, mayReceive]
  unfold deliver
  rw [ends_bind, ends_get]
  cases hattempt : fan.attempts core request.session message recipient with
  | none => exact hcame.more _
  | some connection =>
    obtain ⟨-, hlive, rfl, hreads⟩ := attempts_eq_some hattempt
    dsimp only
    cases hpush : (core.connectionAt recipient).outbound.push message with
    | error error => trivial
    | ok answer =>
      rw [ends_bind, ends_set]
      intro c p n hcarries
      have hwellFormed := (h.changes.sound hsound).wellFormed c
      have hbefore := hcame c p n hcarries
      rw [connectionAt_modifyConnection]
      split
      · rename_i hc
        obtain ⟨rfl, -⟩ := hc
        have hput : put start request.session message c c = [message] := by
          rw [put, if_pos rfl, List.filter_cons_of_pos (hmay ▸ hreads), List.filter_nil]
        dsimp only
        rw [hput, List.countP_append, ← Nat.add_assoc]
        exact hbefore.push hwellFormed hpush
      · refine hbefore.mono ?_
        rw [List.countP_append]
        omega

/-- Each message of a plan comes to a connection once at most. -/
theorem fanOut_came (now : Instant) (call : Nat) (clock : ReleaseClock) {count : Nat}
    (hsound : start.Sound)
    (hmessages : ∀ message ∈ plan.messages, validateCoalesceKey message = .ok () ∧
      (start.sessionAt request.session).InScope message.space message.spaceEpoch message.entity) :
    Ends ((plan.outbound request.session).foldlM (deliverAll request.session)
        { outcome := { authorizedMessages := count } }) start
      (fun _ => Came start fun c =>
        (plan.outbound request.session).filter (start.reaches request.session c))
      fun _ _ => False := by
  suffices hboth : Ends ((plan.outbound request.session).foldlM (deliverAll request.session)
      { outcome := { authorizedMessages := count } }) start
      (fun fan core => FannedOut (.publishAt request now call clock) request.session start
        (fun c => ((plan.outbound request.session).filter
          (start.reaches request.session c)).filter fun message => message.delivery.isCritical)
            fan core ∧
        Came start (fun c =>
          (plan.outbound request.session).filter (start.reaches request.session c)) core)
      fun _ _ => False from hboth.mono (fun _ _ h => h.2) fun _ _ => id
  apply fanOut_reaches (R := fun come fan core =>
    FannedOut (.publishAt request now call clock) request.session start
      (fun c => (come c).filter fun message => message.delivery.isCritical) fan core ∧
    Came start come core) hsound.consistent
  · exact fun come fan core h => h.1.sessions
  · intro outbound hin recipient hsubscribed come fan core h
    obtain ⟨message, hmessage, rfl⟩ := List.mem_map.mp hin
    obtain ⟨hcoalesce, hscope⟩ := hmessages message hmessage
    simp only [List.filter_append, filter_put]
    exact (deliver_ends hsound hscope hcoalesce hsubscribed h.1).and (deliver_came hsound h.1 h.2)
  · exact ⟨FannedOut.refl start, fun c p n h => h⟩

theorem brings_of_returns {outcome : PublishOutcome} (hsound : core.Sound)
    (h : Returns (publishAt request now call clock) core outcome core') :
    ∃ plan, acceptedPlan core request now call clock = some plan ∧
      Brings core (plan.outbound request.session) core' := by
  have hreturns := h
  rw [publishAt_eq, returns_bind] at h
  obtain ⟨plan, limited, hplanAt, hcommit⟩ := h
  obtain ⟨limiter, rfl, hplan⟩ := planAt_returns hplanAt
  have hlimit : Change (.publishAt request now call clock) core
      (core.limited request.connection limiter) := .limit request now call clock limiter
  have hlimited := hlimit.sound hsound
  have hcommitted := (Change.commit request now call clock plan hplan).sound hlimited
  have hqueues : ∀ c, (((core.limited request.connection limiter).commitPlan request.session
      plan).connectionAt c).outbound = (core.connectionAt c).outbound :=
    fun _ => outbound_limited
  refine ⟨plan, acceptedPlan_of_returns hreturns hplanAt, ?_⟩
  have hends : Ends (commitPublish request.session plan clock)
      (core.limited request.connection limiter)
      (fun _ => Brings core (plan.outbound request.session)) fun _ _ => False := by
    apply commitPublish_fans now hlimited hplan
    intro fan fanned hfold hfanned _
    have hcame := (fanOut_came now call clock hcommitted
      (deliverable_of_planPublish hplan)).returns hfold
    have hlost := brings_loseAll (hfanned.changes.sound hcommitted) fan.disconnected.toList clock
    intro c p n hcarries
    refine (hlost c p _ (hcame c p n (hqueues c ▸ hcarries))).mono ?_
    rw [List.countP_nil, Nat.add_zero]
    exact Nat.add_le_add_left List.filter_sublist.countP_le n
  exact hends.returns hcommit

end FanOut

/-- An operation brings what it accepts. -/
theorem brings_step (hsound : core.Sound) (op : Op) :
    Brings core (op.accepted core) (step core op) := by
  by_cases hop : op.publishes
  · cases op with
    | publishAt request now call clock =>
      rw [step_publishAt]
      rcases returns_or_fails (publishAt request now call clock) core with
        ⟨outcome, hends⟩ | ⟨e, hends⟩
      · obtain ⟨plan, hplan, hbrings⟩ := brings_of_returns hsound hends
        rw [Op.accepted, hplan]
        exact hbrings
      · have hnone : Op.accepted core (.publishAt request now call clock) = [] := by
          rw [Op.accepted, acceptedPlan]
          rw [show publishAt request now call clock core = .error e _ from hends]
          rfl
        rw [hnone]
        rcases publishAt_refused hsound hends with hsame | ⟨limiter, hlimited⟩
        · rw [hsame]
          exact .refl
        · rw [hlimited]
          exact .of_queues fun c => outbound_limited
    | _ => exact hop.elim
  · have hnone : op.accepted core = [] := by
      cases op <;> first | rfl | exact absurd trivial hop
    rw [hnone]
    have hboth := (changes_step hsound op).invariant
      (P := fun after => after.Sound ∧ Brings core [] after) ?_ ⟨hsound, .refl⟩
    · exact hboth.2
    · rintro before after hchange ⟨hbefore, hbrings⟩
      exact ⟨hchange.sound hbefore, hbrings.trans (hchange.brings hbefore hop)⟩

/-! ## What a drain would hand out -/

theorem Reachable.carries (h : Reachable core) (c : ConnectionId) (p : OutboundMessage → Bool) :
    ∃ n, (core.connectionAt c).outbound.Carries p n := by
  have hboth : core.Sound ∧ ∃ n, (core.connectionAt c).outbound.Carries p n := by
    refine Transition.Reachable.invariant
      (P := fun core => core.Sound ∧ ∃ n, (core.connectionAt c).outbound.Carries p n) ?_ ?_ h
    · intro core hinitial
      refine ⟨hinitial.empty.sound, 0, ?_⟩
      rw [hinitial.empty.connectionAt]
      exact .start _
    · rintro core op ⟨hsound, n, hcarries⟩
      exact ⟨sound_step hsound op, _, brings_step hsound op c p n hcarries⟩
  exact hboth.2

theorem carries_zero (hcore : Reachable core) (c : ConnectionId)
    (hnone : ∀ message ∈ (core.connectionAt c).outbound.drain.1, p message = false) :
    (core.connectionAt c).outbound.Carries p 0 := by
  obtain ⟨n, ledger, hagrees, -⟩ := hcore.carries c p
  refine ⟨ledger, hagrees, ?_⟩
  rw [← Ledger.countP_queue, ← (hagrees.drain (hcore.sound.wellFormed c)).1]
  refine Nat.le_of_eq (List.countP_eq_zero.mpr fun message hin hp => ?_)
  exact Bool.false_ne_true ((hnone message hin).symm.trans hp)

/-- What waits has waited before, or is brought. -/
theorem Brings.drained (h : Brings core messages core') (hcore : Reachable core)
    (hcore' : Reachable core') {c : ConnectionId}
    (hin : message ∈ (core'.connectionAt c).outbound.drain.1) :
    message ∈ (core.connectionAt c).outbound.drain.1 ∨ message ∈ messages := by
  by_contra hnot
  obtain ⟨hbefore, hbrought⟩ := not_or.mp hnot
  have hcarries : (core.connectionAt c).outbound.Carries (· == message) 0 := by
    refine carries_zero hcore c fun other hother => ?_
    exact beq_eq_false_iff_ne.mpr fun heq => hbefore (heq ▸ hother)
  have hafter := h c _ 0 hcarries
  have hnone : messages.countP (· == message) = 0 := by
    refine List.countP_eq_zero.mpr fun other hother heq => ?_
    exact hbrought (beq_iff_eq.mp heq ▸ hother)
  rw [hnone] at hafter
  have hcount := (hafter.drain (hcore'.sound.wellFormed c)).1
  have hpos : 0 < (core'.connectionAt c).outbound.drain.1.countP (· == message) :=
    List.countP_pos_iff.mpr ⟨message, hin, beq_self_eq_true message⟩
  omega

end Signalweave
