import Signalweave.QueueSemantics

/-!
# Histories of the outbound queue

What the ledger of a run says: critical messages leave in the order they came, the value that
waits under a key is the last one pushed for it, and the popped entries are the messages handed
out.
-/

open Std

namespace Signalweave

open Marking LedgerEntry

/-- The key of the latest value that a push has evicted, where it has evicted one. -/
def QueuePush.evictedKey : QueuePush → Option ScopedCoalesceKey
  | .evictedLatest key | .queuedCriticalAfterEviction (.latest key) => some key
  | _ => none

namespace Ledger

/-- A later entry is a newer value for the key of an earlier one that still waits. -/
def Superseded (earlier later : LedgerEntry) : Prop :=
  earlier.waits .latest = true ∧ later.message.queueClass = .latest ∧
    later.message.scopedCoalesceKey = earlier.message.scopedCoalesceKey

/-- A later critical entry has been popped before an earlier one that still waits. -/
def Overtaken (earlier later : LedgerEntry) : Prop :=
  earlier.waits .critical = true ∧ later.poppedCritical = true

/-- What the ledger says of the messages handed out so far. -/
structure Sequenced (ledger : Ledger) (popped : List OutboundMessage) : Prop where
  fifo : popped.filter (fun message => message.delivery.isCritical) =
    (ledger.filter poppedCritical).map LedgerEntry.message
  answered : popped.Perm
    ((ledger.filter fun entry => entry.fate == .popped).map LedgerEntry.message)
  ordered : ledger.Pairwise fun earlier later => ¬ Overtaken earlier later
  newest : ledger.Pairwise fun earlier later => ¬ Superseded earlier later
  kept : ∀ entry ∈ ledger, entry.message.queueClass = .critical →
    entry.fate ≠ .replaced ∧ entry.fate ≠ .evicted

theorem Sequenced.start : Sequenced [] [] where
  fifo := rfl
  answered := .nil
  ordered := .nil
  newest := .nil
  kept := by simp

variable {ledger : Ledger} {popped : List OutboundMessage} {message : OutboundMessage}
  {fate : Fate} {p : LedgerEntry → Bool}

theorem isCritical_iff : message.delivery.isCritical = true ↔ message.queueClass = .critical := by
  unfold OutboundMessage.queueClass
  cases hcritical : message.delivery.isCritical with
  | true => simp
  | false => cases message.delivery.isReplaceable <;> simp

/-! ## Marks that are no pop -/

theorem waits_of_marked {c : QueueClass} {entry : LedgerEntry} (h : fate ≠ .queued)
    (hwaits : (if p entry then entry.mark fate else entry).waits c = true) :
    p entry = false ∧ entry.waits c = true := by
  cases hp : p entry with
  | true => simp [hp, waits_mark h] at hwaits
  | false => exact ⟨rfl, by simpa [hp] using hwaits⟩

theorem marked_message {entry : LedgerEntry} :
    (if p entry then entry.mark fate else entry).message = entry.message := by
  split <;> rfl

/-- A mark takes no value out of the order in which values were pushed. -/
theorem not_superseded_marked {a b : LedgerEntry} (h : fate ≠ .queued) (hab : ¬ Superseded a b) :
    ¬ Superseded (if p a then a.mark fate else a) (if p b then b.mark fate else b) := by
  rintro ⟨hwaits, hclass, hkey⟩
  rw [marked_message] at hclass
  rw [marked_message, marked_message] at hkey
  exact hab ⟨(waits_of_marked h hwaits).2, hclass, hkey⟩

theorem poppedCritical_marked {entry : LedgerEntry} (h : fate ≠ .popped)
    (hpopped : (if p entry then entry.mark fate else entry).poppedCritical = true) :
    entry.poppedCritical = true := by
  cases hp : p entry with
  | true => simp [hp, poppedCritical, h] at hpopped
  | false => simpa [hp] using hpopped

theorem not_overtaken_marked {a b : LedgerEntry} (h : fate ≠ .queued) (hpopped : fate ≠ .popped)
    (hab : ¬ Overtaken a b) :
    ¬ Overtaken (if p a then a.mark fate else a) (if p b then b.mark fate else b) := by
  rintro ⟨hwaits, hlater⟩
  exact hab ⟨(waits_of_marked h hwaits).2, poppedCritical_marked hpopped hlater⟩

/-- Waiting entries that are marked as lost leave what was handed out as it was. -/
theorem Sequenced.markAll (h : ledger.Sequenced popped) (hqueued : fate ≠ .queued)
    (hpopped : fate ≠ .popped) (hp : ∀ entry, p entry = true → entry.isQueued = true)
    (hkept : ∀ entry ∈ ledger, p entry = true → entry.message.queueClass = .critical →
      fate ≠ .replaced ∧ fate ≠ .evicted) :
    Sequenced (Marking.markAll p (mark fate) ledger) popped := by
  have hother : ∀ entry : LedgerEntry, p entry = true →
      (entry.fate == .popped) = false ∧ ((entry.mark fate).fate == .popped) = false := by
    intro entry hentry
    have hfate := hp entry hentry
    simp only [isQueued, beq_iff_eq] at hfate
    simp [hfate, hpopped]
  refine ⟨?_, ?_, ?_, ?_, ?_⟩
  · rw [filter_markAll_other fun entry hentry => ?_]
    · exact h.fifo
    · obtain ⟨hbefore, hafter⟩ := hother entry hentry
      exact ⟨by rw [poppedCritical, hbefore, Bool.false_and],
        by rw [poppedCritical, hafter, Bool.false_and]⟩
  · rw [filter_markAll_other hother]
    exact h.answered
  · exact pairwise_markAll h.ordered fun a b => not_overtaken_marked hqueued hpopped
  · exact pairwise_markAll h.newest fun a b => not_superseded_marked hqueued
  · intro entry hentry hclass
    rcases mem_markAll hentry with hentry | ⟨before, hbefore, hmarked, rfl⟩
    · exact h.kept entry hentry hclass
    · exact hkept before hbefore hmarked hclass

theorem Sequenced.markFirst (h : ledger.Sequenced popped) (hqueued : fate ≠ .queued)
    (hpopped : fate ≠ .popped) (hp : ∀ entry, p entry = true → entry.isQueued = true)
    (hkept : ∀ entry ∈ ledger, p entry = true → entry.message.queueClass = .critical →
      fate ≠ .replaced ∧ fate ≠ .evicted) :
    Sequenced (Marking.markFirst p (mark fate) ledger) popped := by
  have hother : ∀ entry : LedgerEntry, p entry = true →
      (entry.fate == .popped) = false ∧ ((entry.mark fate).fate == .popped) = false := by
    intro entry hentry
    have hfate := hp entry hentry
    simp only [isQueued, beq_iff_eq] at hfate
    simp [hfate, hpopped]
  refine ⟨?_, ?_, ?_, ?_, ?_⟩
  · rw [filter_markFirst_other fun entry hentry => ?_]
    · exact h.fifo
    · obtain ⟨hbefore, hafter⟩ := hother entry hentry
      exact ⟨by rw [poppedCritical, hbefore, Bool.false_and],
        by rw [poppedCritical, hafter, Bool.false_and]⟩
  · rw [filter_markFirst_other hother]
    exact h.answered
  · apply pairwise_markFirst h.ordered
    · rintro a b - hab ⟨hwaits, -⟩
      rw [waits_mark hqueued] at hwaits
      cases hwaits
    · rintro a b - - hab ⟨-, hlater⟩
      simp [poppedCritical, hpopped] at hlater
  · apply pairwise_markFirst h.newest
    · rintro a b - hab ⟨hwaits, -⟩
      rw [waits_mark hqueued] at hwaits
      cases hwaits
    · exact fun a b _ _ hab => hab
  · intro entry hentry hclass
    rcases mem_markFirst hentry with hentry | ⟨before, hbefore, hmarked, rfl⟩
    · exact h.kept entry hentry hclass
    · exact hkept before hbefore hmarked hclass

/-! ## A push -/

theorem Sequenced.evict (h : ledger.Sequenced popped) (eviction : QueueEviction) :
    (ledger.evict eviction).Sequenced popped := by
  cases eviction with
  | latest key =>
    apply h.markAll (by simp) (by simp)
    · intro entry hentry
      simp only [keeps, waits, Bool.and_eq_true] at hentry
      exact hentry.1.1
    · intro entry _ hentry hclass
      simp [keeps, waits, hclass] at hentry
  | bestEffort =>
    apply h.markFirst (by simp) (by simp)
    · intro entry hentry
      simp only [waits, Bool.and_eq_true] at hentry
      exact hentry.1
    · intro entry _ hentry hclass
      simp [waits, hclass] at hentry

theorem Sequenced.lose (h : ledger.Sequenced popped) (message : OutboundMessage)
    (result : QueuePush) : (ledger.lose message result).Sequenced popped := by
  cases result with
  | queuedCriticalAfterEviction eviction => exact h.evict eviction
  | evictedLatest key => exact h.evict (.latest key)
  | evictedBestEffortForLatest => exact h.evict .bestEffort
  | replacedLatest =>
    unfold Ledger.lose
    cases hkey : message.scopedCoalesceKey with
    | none => exact h
    | some key =>
      apply h.markAll (by simp) (by simp)
      · intro entry hentry
        simp only [keeps, waits, Bool.and_eq_true] at hentry
        exact hentry.1.1
      · intro entry _ hentry hclass
        simp [keeps, waits, hclass] at hentry
  | queued => exact h
  | droppedLatest => exact h
  | droppedBestEffort => exact h
  | criticalCapacityExhausted => exact h

/-- A new entry that is queued or refused; no value waits under its key. -/
theorem Sequenced.record (h : ledger.Sequenced popped)
    (hfate : fate = .queued ∨ fate = .refused)
    (hfresh : message.queueClass = .latest → ∀ other ∈ ledger.queued .latest,
      message.scopedCoalesceKey ≠ other.scopedCoalesceKey) :
    (ledger.record message fate).Sequenced popped := by
  have hnot : fate ≠ .popped ∧ fate ≠ .replaced ∧ fate ≠ .evicted := by
    rcases hfate with rfl | rfl <;> simp
  refine ⟨?_, ?_, ?_, ?_, ?_⟩
  · simp [Ledger.record, poppedCritical, hnot.1, h.fifo]
  · simpa [Ledger.record, hnot.1] using h.answered
  · refine List.pairwise_append.mpr ⟨h.ordered, List.pairwise_singleton _ _, ?_⟩
    rintro a - b hb ⟨-, hlater⟩
    obtain rfl := List.mem_singleton.mp hb
    simp [poppedCritical, hnot.1] at hlater
  · refine List.pairwise_append.mpr ⟨h.newest, List.pairwise_singleton _ _, ?_⟩
    rintro a ha b hb ⟨hwaits, hclass, hkey⟩
    obtain rfl := List.mem_singleton.mp hb
    exact hfresh hclass a.message (mem_queued.mpr ⟨a, ha, hwaits, rfl⟩) hkey
  · intro entry hentry hclass
    rcases List.mem_append.mp hentry with hentry | hentry
    · exact h.kept entry hentry hclass
    · obtain rfl := List.mem_singleton.mp hentry
      exact hnot.2

/-! ## A pop and a drain -/

/-- The entry that a pop marks, and the message it hands out. -/
theorem head_marked : ((ledger.filter (waits ledger.nextClass)).head?.map (mark .popped)).map
    LedgerEntry.message = ledger.queue.head? := by
  rw [queue_head, queued, List.head?_map, Option.map_map]
  rfl

theorem queueClass_of_head (h : message ∈ ledger.queue.head?) :
    message.queueClass = ledger.nextClass := by
  rw [queue_head] at h
  exact queueClass_of_mem_queued (List.mem_of_mem_head? h)

theorem not_popped_of_isQueued {entry : LedgerEntry} (h : entry.isQueued = true) :
    (entry.fate == .popped) = false := by
  simp only [isQueued, beq_iff_eq] at h
  rw [h]
  rfl

theorem isQueued_of_waits {c : QueueClass} {entry : LedgerEntry} (h : entry.waits c = true) :
    entry.isQueued = true := by
  simp only [waits, Bool.and_eq_true] at h
  exact h.1

/-- A popped critical message comes after all those popped before it. -/
theorem Sequenced.fifo_pop (h : ledger.Sequenced popped) :
    (ledger.pop.filter poppedCritical).map LedgerEntry.message =
      (ledger.filter poppedCritical).map LedgerEntry.message ++
        ledger.queue.head?.toList.filter fun message => message.delivery.isCritical := by
  have hclasses : ∀ m ∈ ledger.queue.head?.toList, m.queueClass = ledger.nextClass :=
    fun m hm => queueClass_of_head (Option.mem_toList.mp hm)
  unfold Ledger.pop
  by_cases hclass : ledger.nextClass = .critical
  · rw [filter_markFirst_enter, List.map_append, ← Option.toList_map, head_marked]
    · congr 1
      refine (List.filter_eq_self.mpr fun m hm => ?_).symm
      exact isCritical_iff.mpr ((hclasses m hm).trans hclass)
    · intro entry hwaits
      rw [poppedCritical, not_popped_of_isQueued (isQueued_of_waits hwaits), Bool.false_and]
    · intro entry hwaits
      have hcritical := (waits_eq.mp hwaits).2.trans hclass
      simp [poppedCritical, isCritical_iff.mpr hcritical]
    · refine h.ordered.imp fun {a b} hab hwaits => ?_
      rw [hclass] at hwaits
      exact Bool.eq_false_iff.mpr fun hpopped => hab ⟨hwaits, hpopped⟩
  · have hnone : (ledger.queue.head?.toList.filter fun message =>
        message.delivery.isCritical) = [] := by
      refine List.filter_eq_nil_iff.mpr fun m hm hcritical => ?_
      exact hclass ((hclasses m hm).symm.trans (isCritical_iff.mp hcritical))
    rw [hnone, List.append_nil, filter_markFirst_other]
    intro entry hwaits
    refine ⟨?_, ?_⟩
    · rw [poppedCritical, not_popped_of_isQueued (isQueued_of_waits hwaits), Bool.false_and]
    · rw [Bool.eq_false_iff]
      intro hpopped
      simp only [poppedCritical, Bool.and_eq_true] at hpopped
      exact hclass ((waits_eq.mp hwaits).2.symm.trans (isCritical_iff.mp hpopped.2))

/-- The next waiting entry is handed out. -/
theorem Sequenced.pop (h : ledger.Sequenced popped) :
    ledger.pop.Sequenced (popped ++ ledger.queue.head?.toList) := by
  refine ⟨?_, ?_, ?_, ?_, ?_⟩
  · rw [List.filter_append, h.fifo, h.fifo_pop]
  · have hmarked := @filter_markFirst_perm _ (waits ledger.nextClass)
      (fun entry => entry.fate == .popped) (mark .popped) ledger
      (fun entry hwaits => not_popped_of_isQueued (isQueued_of_waits hwaits)) (by simp)
    refine (h.answered.append_right _).trans ?_
    refine .trans ?_ (hmarked.map LedgerEntry.message).symm
    rw [List.map_append, ← Option.toList_map, head_marked]
  · apply pairwise_markFirst h.ordered
    · rintro a b - - ⟨hwaits, -⟩
      rw [waits_mark (by simp)] at hwaits
      cases hwaits
    · -- A critical entry in front of the marked one would have been popped before it.
      rintro a b hfirst hmarked hab ⟨hwaits, hpopped⟩
      have hcritical : b.message.queueClass = .critical := by
        simp only [poppedCritical, Bool.and_eq_true] at hpopped
        exact isCritical_iff.mp hpopped.2
      have hclass := (waits_eq.mp hmarked).2.symm.trans hcritical
      rw [hclass, hwaits] at hfirst
      cases hfirst
  · apply pairwise_markFirst h.newest
    · rintro a b - - ⟨hwaits, -⟩
      rw [waits_mark (by simp)] at hwaits
      cases hwaits
    · exact fun a b _ _ hab => hab
  · intro entry hentry hclass
    rcases mem_markFirst hentry with hentry | ⟨before, -, -, rfl⟩
    · exact h.kept entry hentry hclass
    · simp

theorem filter_queue_critical : (ledger.queue.filter fun message => message.delivery.isCritical) =
    ledger.queued .critical := by
  have hkeep : ∀ m ∈ ledger.queued .critical, m.delivery.isCritical = true :=
    fun m hm => isCritical_iff.mpr (queueClass_of_mem_queued hm)
  have hdrop : ∀ c, c ≠ .critical → ∀ m ∈ ledger.queued c, ¬ m.delivery.isCritical = true :=
    fun c hc m hm hcritical =>
      hc ((queueClass_of_mem_queued hm).symm.trans (isCritical_iff.mp hcritical))
  rw [queue, List.filter_append, List.filter_append, List.filter_eq_self.mpr hkeep,
    List.filter_eq_nil_iff.mpr (hdrop .latest (by simp)),
    List.filter_eq_nil_iff.mpr (hdrop .bestEffort (by simp)), List.append_nil, List.append_nil]

/-- The three classes together are all waiting entries. -/
theorem classes_perm : (ledger.filter (waits .critical) ++ ledger.filter (waits .latest) ++
    ledger.filter (waits .bestEffort)).Perm (ledger.filter isQueued) := by
  induction ledger with
  | nil => exact .nil
  | cons entry rest ih =>
    cases hqueued : entry.isQueued with
    | false =>
      have hnone : ∀ c, entry.waits c = false := fun c => by rw [waits, hqueued, Bool.false_and]
      simpa [List.filter_cons, hnone, hqueued] using ih
    | true =>
      have hat : ∀ c, entry.waits c = (entry.message.queueClass == c) := fun c => by
        rw [waits, hqueued, Bool.true_and]
      rw [List.filter_cons_of_pos hqueued]
      cases hclass : entry.message.queueClass with
      | critical =>
        rw [List.filter_cons_of_pos (by simp [hat, hclass]),
          List.filter_cons_of_neg (by simp [hat, hclass]),
          List.filter_cons_of_neg (by simp [hat, hclass])]
        exact ih.cons entry
      | latest =>
        rw [List.filter_cons_of_neg (by simp [hat, hclass]),
          List.filter_cons_of_pos (by simp [hat, hclass]),
          List.filter_cons_of_neg (by simp [hat, hclass])]
        exact (List.perm_middle.append_right _).trans (ih.cons entry)
      | bestEffort =>
        rw [List.filter_cons_of_neg (by simp [hat, hclass]),
          List.filter_cons_of_neg (by simp [hat, hclass]),
          List.filter_cons_of_pos (by simp [hat, hclass])]
        exact List.perm_middle.trans (ih.cons entry)

theorem queue_perm :
    ledger.queue.Perm ((ledger.filter isQueued).map LedgerEntry.message) := by
  have hclasses := (@classes_perm ledger).map LedgerEntry.message
  rwa [List.map_append, List.map_append] at hclasses

/-- Every waiting entry is handed out. -/
theorem Sequenced.drain (h : ledger.Sequenced popped) :
    ledger.drain.Sequenced (popped ++ ledger.queue) := by
  have hgone : ∀ c (entry : LedgerEntry), (if entry.isQueued then entry.mark .popped
      else entry).waits c = false := by
    intro c entry
    rw [Bool.eq_false_iff]
    intro hwaits
    obtain ⟨hnot, hwaits⟩ := waits_of_marked (by simp) hwaits
    rw [isQueued_of_waits hwaits] at hnot
    cases hnot
  refine ⟨?_, ?_, ?_, ?_, ?_⟩
  · rw [List.filter_append, h.fifo, filter_queue_critical, Ledger.drain, filter_markAll_enter,
      List.map_append, List.map_map]
    · congr 1
      rw [queued]
      congr 1
      apply List.filter_congr
      intro entry _
      rw [waits, poppedCritical, mark_fate, mark_message, beq_self_eq_true, Bool.true_and]
      congr 1
      rw [Bool.eq_iff_iff, isCritical_iff, beq_iff_eq]
    · intro entry hqueued
      rw [poppedCritical, not_popped_of_isQueued hqueued, Bool.false_and]
    · refine h.ordered.imp fun {a b} hab hqueued hcritical => ?_
      have hwaits : a.waits .critical = true := by
        simp only [poppedCritical, mark_message, Bool.and_eq_true] at hcritical
        rw [waits, hqueued, Bool.true_and, beq_iff_eq]
        exact isCritical_iff.mp hcritical.2
      exact Bool.eq_false_iff.mpr fun hpopped => hab ⟨hwaits, hpopped⟩
  · have hmarked := @filter_markAll_perm _ isQueued (fun entry => entry.fate == .popped)
      (mark .popped) ledger (fun entry => not_popped_of_isQueued) (by simp)
    refine (h.answered.append queue_perm).trans ?_
    refine .trans ?_ (hmarked.map LedgerEntry.message).symm
    rw [List.map_append, List.map_map]
    rfl
  · apply pairwise_markAll h.ordered
    rintro a b - ⟨hwaits, -⟩
    rw [hgone] at hwaits
    cases hwaits
  · apply pairwise_markAll h.newest
    rintro a b - ⟨hwaits, -⟩
    rw [hgone] at hwaits
    cases hwaits
  · intro entry hentry hclass
    rcases mem_markAll hentry with hentry | ⟨before, -, -, rfl⟩
    · exact h.kept entry hentry hclass
    · simp

end Ledger

/-! ## The histories of a queue -/

open OutboundQueue

/-- The messages pushed by a list of operations. -/
def QueueOp.pushes : List QueueOp → List OutboundMessage
  | [] => []
  | .push message :: rest => message :: pushes rest
  | _ :: rest => pushes rest

namespace QueueHistory

/-- The queue is regular and agrees with a ledger whose entries left in their order. -/
structure Kept (history : QueueHistory) : Prop where
  regular : history.queue.Regular
  agrees : history.queue.Agrees history.ledger
  sequenced : history.ledger.Sequenced history.popped

variable {history : QueueHistory}

theorem Kept.start {config : OutboundQueueConfig} {queue : OutboundQueue}
    (h : OutboundQueue.new config = .ok queue) : Kept { queue } := by
  refine ⟨.start h, ?_, .start⟩
  obtain rfl := new_eq_ok h
  exact ⟨rfl, ⟨rfl, by simp [Ledger.queued]⟩, rfl⟩

/-- A value whose key is in the map replaces the value there. -/
theorem push_of_mem {queue : OutboundQueue} {message : OutboundMessage} {key : ScopedCoalesceKey}
    (hclass : message.queueClass = .latest) (hkey : message.scopedCoalesceKey = some key)
    (hin : key ∈ queue.latest) : ∃ queue', queue.push message = .ok (.replacedLatest, queue') := by
  have hcritical : ¬ message.delivery.isCritical = true := by
    rw [Ledger.isCritical_iff, hclass]
    simp
  have hreplaceable : message.delivery.isReplaceable = true := by
    by_contra hnot
    simp [OutboundMessage.queueClass, hcritical, hnot] at hclass
  rw [OutboundQueue.push, if_neg hcritical, if_pos hreplaceable, pushLatest, hkey, Option.okOr_some]
  simp only [bind, Except.bind, pure, Except.pure]
  rw [if_pos hin]
  exact ⟨_, rfl⟩

/-- The messages of a class with distinct keys. -/
theorem key_ne_of_agrees {queue : OutboundQueue} {ledger : Ledger} {message : OutboundMessage}
    (h : queue.Agrees (ledger.record message .queued)) (hw : queue.WellFormed)
    (hclass : message.queueClass = .latest) :
    ∀ other ∈ ledger.queued .latest, message.scopedCoalesceKey ≠ other.scopedCoalesceKey := by
  intro other hother heq
  have horder := h.latest.order
  rw [Ledger.queued_record_queued, if_pos hclass, List.map_append] at horder
  have hnodup : (queue.latestOrder.map some).Nodup :=
    hw.nodup.map (Option.some_injective _)
  rw [horder] at hnodup
  exact (List.nodup_append.mp hnodup).2.2 _ (List.mem_map_of_mem hother) _
    (List.mem_map_of_mem (List.mem_singleton_self message)) heq.symm

/-- A refused push leaves the ledger of the earlier messages as it was. -/
theorem lose_of_refused {ledger : Ledger} {message : OutboundMessage} {result : QueuePush}
    (h : result.fate = .refused) : ledger.lose message result = ledger := by
  cases result with
  | droppedLatest => rfl
  | droppedBestEffort => rfl
  | criticalCapacityExhausted => rfl
  | queued => cases h
  | queuedCriticalAfterEviction => cases h
  | replacedLatest => cases h
  | evictedLatest => cases h
  | evictedBestEffortForLatest => cases h

theorem fate_cases (result : QueuePush) : result.fate = .queued ∨ result.fate = .refused := by
  cases result with
  | droppedLatest => exact .inr rfl
  | droppedBestEffort => exact .inr rfl
  | criticalCapacityExhausted => exact .inr rfl
  | queued => exact .inl rfl
  | queuedCriticalAfterEviction => exact .inl rfl
  | replacedLatest => exact .inl rfl
  | evictedLatest => exact .inl rfl
  | evictedBestEffortForLatest => exact .inl rfl

/-- No value waits under the key of a message that a push has stored or refused. -/
theorem Kept.push (h : history.Kept) (message : OutboundMessage) :
    (history.ledger.push message (history.queue.push message)).Sequenced history.popped := by
  have hw := h.regular.wellFormed
  have hafter := h.agrees.push hw message
  cases hpush : history.queue.push message with
  | error error =>
    refine h.sequenced.record (.inr rfl) fun hclass other hother heq => ?_
    obtain ⟨key, hkey, hin⟩ := h.agrees.latest.key_mem hw hother
    obtain ⟨queue', hstored⟩ := push_of_mem hclass (heq.trans hkey) hin
    rw [hpush] at hstored
    cases hstored
  | ok answer =>
    have hnext : history.queue.apply (.push message) = answer.2 := by
      simp only [OutboundQueue.apply, hpush]
    rw [hpush, hnext] at hafter
    refine (h.sequenced.lose message answer.1).record (fate_cases _) fun hclass => ?_
    rcases fate_cases answer.1 with hfate | hfate
    · rw [Ledger.push, hfate] at hafter
      exact key_ne_of_agrees hafter (pushes_of_push hw hpush).wellFormed hclass
    · intro other hother heq
      rw [lose_of_refused hfate] at hother
      obtain ⟨key, hkey, hin⟩ := h.agrees.latest.key_mem hw hother
      obtain ⟨queue', hstored⟩ := push_of_mem hclass (heq.trans hkey) hin
      rw [hpush] at hstored
      rw [Except.ok.inj hstored] at hfate
      cases hfate

theorem Kept.step (h : history.Kept) (op : QueueOp) : (history.step op).Kept := by
  have hw := h.regular.wellFormed
  cases op with
  | push message =>
    exact ⟨h.regular.apply (.push message), h.agrees.push hw message, h.push message⟩
  | pop =>
    obtain ⟨hanswer, hagrees⟩ := h.agrees.pop hw
    refine ⟨h.regular.apply .pop, hagrees, ?_⟩
    change history.ledger.pop.Sequenced (history.popped ++ history.queue.pop.1.toList)
    rw [hanswer]
    exact h.sequenced.pop
  | purge shouldRemove =>
    refine ⟨h.regular.apply (.purge shouldRemove), h.agrees.purge, ?_⟩
    apply h.sequenced.markAll (by simp) (by simp)
    · intro entry hentry
      rw [Bool.and_eq_true] at hentry
      exact hentry.1
    · intros
      simp
  | drain =>
    obtain ⟨hanswer, hagrees⟩ := h.agrees.drain hw
    refine ⟨h.regular.apply .drain, hagrees, ?_⟩
    change history.ledger.drain.Sequenced (history.popped ++ history.queue.drain.1)
    rw [hanswer]
    exact h.sequenced.drain

theorem Kept.run (h : history.Kept) (ops : List QueueOp) :
    (Transition.run QueueHistory.step history ops).Kept :=
  Transition.run_invariant (fun _ op hkept => hkept.step op) h ops

/-- The queue of a history is the queue of the run. -/
theorem queue_run (history : QueueHistory) (ops : List QueueOp) :
    (Transition.run QueueHistory.step history ops).queue =
      Transition.run OutboundQueue.apply history.queue ops := by
  induction ops generalizing history with
  | nil => rfl
  | cons op rest ih =>
    rw [Transition.run_cons, Transition.run_cons, ih]
    cases op <;> rfl

theorem ledger_step (history : QueueHistory) (op : QueueOp) :
    (history.step op).ledger.map LedgerEntry.message =
      history.ledger.map LedgerEntry.message ++ QueueOp.pushes [op] := by
  have hmark : ∀ fate (entry : LedgerEntry), (entry.mark fate).message = entry.message :=
    fun _ _ => rfl
  have hevict : ∀ (ledger : Ledger) eviction,
      (ledger.evict eviction).map LedgerEntry.message = ledger.map LedgerEntry.message := by
    intro ledger eviction
    cases eviction with
    | latest key => exact map_markAll (hmark _)
    | bestEffort => exact map_markFirst (hmark _)
  cases op with
  | push message =>
    change (history.ledger.push message (history.queue.push message)).map _ = _
    cases history.queue.push message with
    | error => simp [Ledger.push, Ledger.record, QueueOp.pushes]
    | ok answer =>
      have hlose : (history.ledger.lose message answer.1).map LedgerEntry.message =
          history.ledger.map LedgerEntry.message := by
        unfold Ledger.lose
        cases answer.1 with
        | queuedCriticalAfterEviction eviction => exact hevict _ eviction
        | evictedLatest key => exact hevict _ (.latest key)
        | evictedBestEffortForLatest => exact hevict _ .bestEffort
        | replacedLatest =>
          cases message.scopedCoalesceKey with
          | none => rfl
          | some key => exact map_markAll (hmark _)
        | queued => rfl
        | droppedLatest => rfl
        | droppedBestEffort => rfl
        | criticalCapacityExhausted => rfl
      simp [Ledger.push, Ledger.record, QueueOp.pushes, hlose]
  | pop =>
    simp only [QueueOp.pushes, List.append_nil]
    exact map_markFirst (hmark _)
  | purge shouldRemove =>
    simp only [QueueOp.pushes, List.append_nil]
    exact map_markAll (hmark _)
  | drain =>
    simp only [QueueOp.pushes, List.append_nil]
    exact map_markAll (hmark _)

/-- Every pushed message has one entry, in the order of the pushes. -/
theorem ledger_run (history : QueueHistory) (ops : List QueueOp) :
    (Transition.run QueueHistory.step history ops).ledger.map LedgerEntry.message =
      history.ledger.map LedgerEntry.message ++ QueueOp.pushes ops := by
  induction ops generalizing history with
  | nil => simp [QueueOp.pushes]
  | cons op rest ih =>
    rw [Transition.run_cons, ih, ledger_step, List.append_assoc]
    cases op <;> rfl

/-- What a run of the queue delivers: `pushed` are the messages pushed so far. -/
structure Delivers (config : OutboundQueueConfig) (pushed : List OutboundMessage)
    (history : QueueHistory) : Prop where
  configured : history.queue.config = config
  regular : history.queue.Regular
  conserved : history.ledger.map LedgerEntry.message = pushed
  agrees : history.queue.Agrees history.ledger
  sequenced : history.ledger.Sequenced history.popped
  pop : history.queue.pop.1 = history.ledger.queue.head?
  drain : history.queue.drain.1 = history.ledger.queue
  evictsOldest : ∀ message result queue' key,
    history.queue.push message = .ok (result, queue') → result.evictedKey = some key →
      ((history.ledger.queued .latest).head?.bind OutboundMessage.scopedCoalesceKey) = some key
  refusesCritical : ∀ message result queue', message.delivery.isCritical = true →
    history.queue.push message = .ok (result, queue') →
      (result.fate = .refused ↔ history.queue.critical.length = config.criticalCapacity)

theorem evictForCritical_key {queue : OutboundQueue} {key : ScopedCoalesceKey}
    (h : queue.evictForCritical.1 = some (.latest key)) :
    ∃ queue', queue.evictOldestLatest = some (key, queue') := by
  unfold OutboundQueue.evictForCritical at h
  by_cases hfull : queue.len = queue.config.totalCapacity
  · rw [if_pos hfull] at h
    cases hlatest : queue.evictOldestLatest with
    | some evicted =>
      rw [hlatest] at h
      cases h
      exact ⟨_, rfl⟩
    | none =>
      rw [hlatest] at h
      cases hbest : queue.evictBestEffort <;> simp [hbest] at h
  · rw [if_neg hfull] at h
    cases h

theorem pushLatest_key {queue queue' : OutboundQueue} {message : OutboundMessage}
    {result : QueuePush} {key : ScopedCoalesceKey}
    (hpush : queue.pushLatest message = .ok (result, queue'))
    (hkey : result.evictedKey = some key) :
    ∃ queue', queue.evictOldestLatest = some (key, queue') := by
  unfold OutboundQueue.pushLatest at hpush
  simp only [Except.bind_eq_ok, Option.okOr_eq_ok] at hpush
  obtain ⟨own, -, hpush⟩ := hpush
  by_cases hin : own ∈ queue.latest
  · rw [if_pos hin] at hpush
    cases hpush
    cases hkey
  rw [if_neg hin] at hpush
  by_cases hzero : queue.config.latestCapacity = 0
  · rw [if_pos hzero] at hpush
    cases hpush
    cases hkey
  rw [if_neg hzero] at hpush
  cases hevict : queue.evictOldestLatest with
  | some evicted =>
    -- Whichever branch evicts a value evicts this one.
    by_cases hfull : queue.latest.size = queue.config.latestCapacity
    · rw [if_pos hfull, hevict] at hpush
      cases hpush
      cases hkey
      exact ⟨_, rfl⟩
    rw [if_neg hfull] at hpush
    by_cases hcrowded : queue.len = queue.config.totalCapacity
    · rw [if_pos hcrowded, hevict] at hpush
      cases hpush
      cases hkey
      exact ⟨_, rfl⟩
    · rw [if_neg hcrowded] at hpush
      cases hpush
      cases hkey
  | none =>
    by_cases hfull : queue.latest.size = queue.config.latestCapacity
    · rw [if_pos hfull, hevict] at hpush
      cases hpush
    rw [if_neg hfull] at hpush
    by_cases hcrowded : queue.len = queue.config.totalCapacity
    · rw [if_pos hcrowded, hevict] at hpush
      cases hbest : queue.evictBestEffort with
      | some freed =>
        rw [hbest] at hpush
        cases hpush
        cases hkey
      | none =>
        rw [hbest] at hpush
        cases hpush
        cases hkey
    · rw [if_neg hcrowded] at hpush
      cases hpush
      cases hkey

/-- The latest value that a push evicts is the oldest one. -/
theorem evicted_oldest {queue queue' : OutboundQueue} {ledger : Ledger} {message : OutboundMessage}
    {result : QueuePush} {key : ScopedCoalesceKey} (h : queue.Agrees ledger)
    (hw : queue.WellFormed) (hpush : queue.push message = .ok (result, queue'))
    (hkey : result.evictedKey = some key) :
    ((ledger.queued .latest).head?.bind OutboundMessage.scopedCoalesceKey) = some key := by
  suffices hevicts : ∃ queue', queue.evictOldestLatest = some (key, queue') by
    obtain ⟨queue'', hevict⟩ := hevicts
    exact (h.latest.evict hw hevict).1
  unfold OutboundQueue.push at hpush
  split at hpush
  · obtain rfl : (queue.pushCritical message).1 = result := congrArg Prod.fst (Except.ok.inj hpush)
    unfold OutboundQueue.pushCritical at hkey
    by_cases hfull : queue.critical.length = queue.config.criticalCapacity
    · rw [if_pos hfull] at hkey
      cases hkey
    · rw [if_neg hfull] at hkey
      change (queue.evictForCritical.1.elim QueuePush.queued
        QueuePush.queuedCriticalAfterEviction).evictedKey = some key at hkey
      cases heviction : queue.evictForCritical.1 with
      | none =>
        rw [heviction] at hkey
        cases hkey
      | some eviction =>
        rw [heviction] at hkey
        cases eviction with
        | latest other =>
          cases hkey
          exact evictForCritical_key heviction
        | bestEffort => cases hkey
  split at hpush
  · exact pushLatest_key hpush hkey
  · obtain rfl : (queue.pushBestEffort message).1 = result :=
      congrArg Prod.fst (Except.ok.inj hpush)
    unfold OutboundQueue.pushBestEffort at hkey
    split at hkey <;> cases hkey

theorem refused_critical {queue queue' : OutboundQueue} {message : OutboundMessage}
    {result : QueuePush} (hcritical : message.delivery.isCritical = true)
    (hpush : queue.push message = .ok (result, queue')) :
    result.fate = .refused ↔ queue.critical.length = queue.config.criticalCapacity := by
  rw [OutboundQueue.push, if_pos hcritical] at hpush
  obtain rfl : (queue.pushCritical message).1 = result := congrArg Prod.fst (Except.ok.inj hpush)
  unfold OutboundQueue.pushCritical
  by_cases hfull : queue.critical.length = queue.config.criticalCapacity
  · rw [if_pos hfull]
    exact iff_of_true rfl hfull
  · rw [if_neg hfull]
    refine iff_of_false ?_ hfull
    cases heviction : queue.evictForCritical.1 with
    | none => simp [heviction, QueuePush.fate]
    | some eviction => simp [heviction, QueuePush.fate]

theorem Kept.delivers {config : OutboundQueueConfig} {pushed : List OutboundMessage}
    (h : history.Kept) (hconfig : history.queue.config = config)
    (hpushed : history.ledger.map LedgerEntry.message = pushed) :
    history.Delivers config pushed where
  configured := hconfig
  regular := h.regular
  conserved := hpushed
  agrees := h.agrees
  sequenced := h.sequenced
  pop := (h.agrees.pop h.regular.wellFormed).1
  drain := (h.agrees.drain h.regular.wellFormed).1
  evictsOldest _ _ _ _ hpush hkey := evicted_oldest h.agrees h.regular.wellFormed hpush hkey
  refusesCritical _ _ _ hcritical hpush := hconfig ▸ refused_critical hcritical hpush

/-- After any operations every pushed message has one fate, which the answers have named; what is
queued is what they left; pops prefer critical messages to latest values to best-effort messages,
each in the order of the pushes. -/
theorem run_delivers {config : OutboundQueueConfig} {queue : OutboundQueue}
    (h : OutboundQueue.new config = .ok queue) (ops : List QueueOp) :
    let history := Transition.run QueueHistory.step { queue } ops
    history.queue = Transition.run OutboundQueue.apply queue ops ∧
      history.Delivers config (QueueOp.pushes ops) := by
  intro history
  have hkept : history.Kept := (Kept.start h).run ops
  refine ⟨queue_run _ ops, hkept.delivers ?_ ?_⟩
  · rw [queue_run]
    refine ((Regular.start h).config_run ops).trans ?_
    rw [new_eq_ok h]
  · exact ledger_run _ ops

theorem run_delivers_crowded :
    let history := Transition.run QueueHistory.step { queue := { config := Sample.oneMessage } }
      Sample.crowded
    history.queue = Transition.run OutboundQueue.apply { config := Sample.oneMessage }
        Sample.crowded ∧
      history.Delivers Sample.oneMessage (QueueOp.pushes Sample.crowded) :=
  run_delivers (show OutboundQueue.new Sample.oneMessage = .ok _ from rfl) Sample.crowded

/-- The first value is replaced, the second evicted by the critical message, which is popped. -/
example : (Transition.run QueueHistory.step { queue := { config := Sample.oneMessage } }
    Sample.crowded).ledger.map LedgerEntry.fate = [.replaced, .evicted, .popped] := by
  decide +kernel

end QueueHistory

end Signalweave
