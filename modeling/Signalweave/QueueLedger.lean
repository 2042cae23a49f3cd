import Signalweave.QueueRuns
import Signalweave.Library.Marking

/-!
# What becomes of every pushed message

A ledger lists the messages pushed to a queue in the order of their pushes, each with its fate.
It is kept from the operations and their answers alone: a push marks the loss that its answer
names. The queue then holds exactly the messages that the ledger says are queued, in ledger order.
-/

open Std

namespace Signalweave

/-- The class of the queue that a message goes to. -/
inductive QueueClass where
  | critical
  | latest
  | bestEffort
  deriving DecidableEq

/-- The class of the queue in which a message waits. -/
def OutboundMessage.queueClass (message : OutboundMessage) : QueueClass :=
  if message.delivery.isCritical then .critical
  else if message.delivery.isReplaceable then .latest
  else .bestEffort

/-- What has become of a pushed message. -/
inductive Fate where
  | queued
  | popped
  | purged
  | replaced
  | evicted
  | refused
  deriving DecidableEq

/-- A message that was put to the queue, and what has become of it. -/
structure LedgerEntry where
  message : OutboundMessage
  fate : Fate
  deriving DecidableEq

namespace LedgerEntry

/-- The message still waits. -/
def isQueued (entry : LedgerEntry) : Bool := entry.fate == .queued

/-- The entry waits in a class of the queue. -/
def waits (c : QueueClass) (entry : LedgerEntry) : Bool :=
  entry.isQueued && entry.message.queueClass == c

/-- What has become of the message. -/
def mark (fate : Fate) (entry : LedgerEntry) : LedgerEntry := { entry with fate }

/-- The entry waits in the latest-value class under a key. -/
def keeps (key : ScopedCoalesceKey) (entry : LedgerEntry) : Bool :=
  entry.waits .latest && entry.message.scopedCoalesceKey == some key

/-- The entry is a critical message that has been popped. -/
def poppedCritical (entry : LedgerEntry) : Bool :=
  entry.fate == .popped && entry.message.delivery.isCritical

@[simp] theorem mark_message {fate : Fate} {entry : LedgerEntry} :
    (entry.mark fate).message = entry.message := rfl

@[simp] theorem mark_fate {fate : Fate} {entry : LedgerEntry} : (entry.mark fate).fate = fate := rfl

end LedgerEntry

/-- The messages pushed to a queue, in the order of their pushes. -/
abbrev Ledger := List LedgerEntry

namespace Ledger

open Marking

/-- The messages that wait in a class, in the order of their pushes. -/
def queued (ledger : Ledger) (c : QueueClass) : List OutboundMessage :=
  (ledger.filter (LedgerEntry.waits c)).map LedgerEntry.message

/-- Everything that waits, in the order in which it is popped. -/
def queue (ledger : Ledger) : List OutboundMessage :=
  ledger.queued .critical ++ ledger.queued .latest ++ ledger.queued .bestEffort

/-- The loss that an eviction names: the value under a key, or the oldest best-effort message. -/
def evict (ledger : Ledger) : QueueEviction → Ledger
  | .latest key => markAll (LedgerEntry.keeps key) (LedgerEntry.mark .evicted) ledger
  | .bestEffort => markFirst (LedgerEntry.waits .bestEffort) (LedgerEntry.mark .evicted) ledger

/-- The loss that the answer to a push names. -/
def lose (ledger : Ledger) (message : OutboundMessage) : QueuePush → Ledger
  | .queued | .droppedLatest | .droppedBestEffort | .criticalCapacityExhausted => ledger
  | .queuedCriticalAfterEviction eviction => ledger.evict eviction
  | .evictedLatest key => ledger.evict (.latest key)
  | .evictedBestEffortForLatest => ledger.evict .bestEffort
  | .replacedLatest =>
    message.scopedCoalesceKey.elim ledger fun key =>
      markAll (LedgerEntry.keeps key) (LedgerEntry.mark .replaced) ledger

end Ledger

/-- What the answer to a push says of the pushed message itself. -/
def QueuePush.fate : QueuePush → Fate
  | .droppedLatest | .droppedBestEffort | .criticalCapacityExhausted => .refused
  | _ => .queued

namespace Ledger

open Marking

/-- One more message and its fate. -/
def record (ledger : Ledger) (message : OutboundMessage) (fate : Fate) : Ledger :=
  ledger ++ [⟨message, fate⟩]

/-- The ledger after a push. -/
def push (ledger : Ledger) (message : OutboundMessage) :
    Except QueueError (QueuePush × OutboundQueue) → Ledger
  | .ok (result, _) => (ledger.lose message result).record message result.fate
  | .error _ => ledger.record message .refused

/-- The class that is popped next: critical before latest values before best effort. -/
def nextClass (ledger : Ledger) : QueueClass :=
  if ledger.queued .critical ≠ [] then .critical
  else if ledger.queued .latest ≠ [] then .latest
  else .bestEffort

/-- The ledger after a pop: the oldest message of the next class is popped. -/
def pop (ledger : Ledger) : Ledger :=
  markFirst (LedgerEntry.waits ledger.nextClass) (LedgerEntry.mark .popped) ledger

/-- The messages that wait and meet the condition are purged. -/
def purge (ledger : Ledger) (shouldRemove : OutboundMessage → Bool) : Ledger :=
  markAll (fun entry => entry.isQueued && shouldRemove entry.message) (LedgerEntry.mark .purged)
    ledger

/-- The messages that wait are handed out. -/
def drain (ledger : Ledger) : Ledger :=
  markAll LedgerEntry.isQueued (LedgerEntry.mark .popped) ledger

end Ledger

/-- A queue with what has been pushed to it and what it has handed out. -/
structure QueueHistory where
  queue : OutboundQueue
  ledger : Ledger := []
  popped : List OutboundMessage := []

/-- The history after an operation of the queue. -/
def QueueHistory.step (history : QueueHistory) (op : QueueOp) : QueueHistory :=
  match op with
  | .push message =>
    { history with
      queue := history.queue.apply op
      ledger := history.ledger.push message (history.queue.push message) }
  | .pop =>
    { queue := history.queue.apply op
      ledger := history.ledger.pop
      popped := history.popped ++ history.queue.pop.1.toList }
  | .purge shouldRemove =>
    { history with
      queue := history.queue.apply op
      ledger := history.ledger.purge shouldRemove }
  | .drain =>
    { queue := history.queue.apply op
      ledger := history.ledger.drain
      popped := history.popped ++ history.queue.drain.1 }

/-! ## What a mark does to the waiting messages -/

namespace Ledger

open Marking LedgerEntry

variable {ledger : Ledger} {c c' : QueueClass} {fate : Fate} {message : OutboundMessage}

theorem waits_eq {entry : LedgerEntry} :
    entry.waits c = true ↔ entry.fate = .queued ∧ entry.message.queueClass = c := by
  simp [waits, isQueued]

theorem waits_mark {entry : LedgerEntry} (h : fate ≠ .queued) :
    (entry.mark fate).waits c = false := by
  simp [waits, isQueued, h]

theorem mem_queued : message ∈ ledger.queued c ↔
    ∃ entry ∈ ledger, entry.waits c = true ∧ entry.message = message := by
  simp [queued, and_assoc]

theorem queueClass_of_mem_queued (h : message ∈ ledger.queued c) : message.queueClass = c := by
  obtain ⟨entry, -, hwaits, rfl⟩ := mem_queued.mp h
  exact (waits_eq.mp hwaits).2

theorem queued_record_queued :
    (ledger.record message .queued).queued c =
      ledger.queued c ++ if message.queueClass = c then [message] else [] := by
  by_cases h : message.queueClass = c <;> simp [record, queued, waits, isQueued, h]

theorem queued_record_refused : (ledger.record message .refused).queued c = ledger.queued c := by
  simp [record, queued, waits, isQueued]

theorem queued_markFirst_self (h : fate ≠ .queued) :
    queued (markFirst (waits c) (mark fate) ledger) c = (ledger.queued c).tail := by
  rw [queued, filter_markFirst_self fun _ _ => waits_mark h, List.map_tail, ← queued]

theorem queued_markFirst_other (h : fate ≠ .queued) (hne : c' ≠ c) :
    queued (markFirst (waits c) (mark fate) ledger) c' = ledger.queued c' := by
  rw [queued, filter_markFirst_other ?_, ← queued]
  intro entry hwaits
  refine ⟨?_, waits_mark h⟩
  rw [Bool.eq_false_iff]
  intro hother
  exact hne ((waits_eq.mp hother).2.symm.trans (waits_eq.mp hwaits).2)

/-- Marks on all entries that a test of the message selects. -/
theorem queued_markAll {p : LedgerEntry → Bool} {r : OutboundMessage → Bool} (h : fate ≠ .queued)
    (hp : ∀ entry, entry.waits c = true → p entry = r entry.message) :
    queued (markAll p (mark fate) ledger) c = (ledger.queued c).filter fun m => !r m := by
  rw [queued, filter_markAll_leave fun _ _ => waits_mark h, queued, List.filter_map,
    List.filter_filter]
  congr 1
  apply List.filter_congr
  intro entry _
  cases hwaits : entry.waits c with
  | true => simp [hp entry hwaits]
  | false => simp

theorem queued_keeps (h : fate ≠ .queued) {key : ScopedCoalesceKey} :
    queued (markAll (keeps key) (mark fate) ledger) .latest =
      (ledger.queued .latest).filter fun m => m.scopedCoalesceKey ≠ some key := by
  rw [queued_markAll (r := fun m => m.scopedCoalesceKey == some key) h]
  · apply List.filter_congr
    intro m _
    rw [decide_not, ← beq_eq_decide]
  · intro entry hwaits
    rw [keeps, hwaits, Bool.true_and]

theorem queue_head : ledger.queue.head? = (ledger.queued ledger.nextClass).head? := by
  unfold queue nextClass
  cases hcritical : ledger.queued .critical with
  | cons message rest => rw [if_pos (by simp), hcritical]; rfl
  | nil =>
    rw [if_neg (by simp), List.nil_append]
    cases hlatest : ledger.queued .latest with
    | cons message rest => rw [if_pos (by simp), hlatest]; rfl
    | nil => rw [if_neg (by simp), List.nil_append]

/-- What waits after a pop is what waited without its first message. -/
theorem queue_pop : ledger.pop.queue = ledger.queue.tail := by
  unfold queue pop nextClass
  cases hcritical : ledger.queued .critical with
  | cons message rest =>
    rw [if_pos (by simp), queued_markFirst_self (by simp),
      queued_markFirst_other (by simp) (by simp),
      queued_markFirst_other (by simp) (by simp), hcritical]
    rfl
  | nil =>
    rw [if_neg (by simp), List.nil_append]
    cases hlatest : ledger.queued .latest with
    | cons message rest =>
      rw [if_pos (by simp), queued_markFirst_self (by simp),
        queued_markFirst_other (by simp) (by simp), queued_markFirst_other (by simp) (by simp),
        hcritical, hlatest]
      rfl
    | nil =>
      rw [if_neg (by simp), queued_markFirst_self (by simp),
        queued_markFirst_other (by simp) (by simp), queued_markFirst_other (by simp) (by simp),
        hcritical, hlatest]
      rfl

end Ledger

end Signalweave
