import Signalweave.QueueLedger

/-!
# The outbound queue keeps its ledger

The queue and the ledger agree after every operation. From this agreement come the order of the
answers, the losses that the answers name, and that no message is lost without a trace.
-/

open Std

namespace Signalweave

open Marking LedgerEntry

namespace OutboundQueue

variable {queue queue' : OutboundQueue} {message : OutboundMessage} {key : ScopedCoalesceKey}
  {messages : List OutboundMessage}

/-! ## The latest-value class as a list -/

/-- The latest-value class holds these messages, in this order. -/
structure Lists (queue : OutboundQueue) (messages : List OutboundMessage) : Prop where
  order : queue.latestOrder.map some = messages.map OutboundMessage.scopedCoalesceKey
  values : ∀ message ∈ messages, ∀ key, message.scopedCoalesceKey = some key →
    queue.latest[key]? = some message

theorem Lists.key_mem (h : queue.Lists messages) (hw : queue.WellFormed)
    (hmessage : message ∈ messages) :
    ∃ key, message.scopedCoalesceKey = some key ∧ key ∈ queue.latest := by
  have hin : message.scopedCoalesceKey ∈ queue.latestOrder.map some := by
    rw [h.order]
    exact List.mem_map_of_mem hmessage
  obtain ⟨key, hkey, heq⟩ := List.mem_map.mp hin
  exact ⟨key, heq.symm, (hw.ordered key).mp hkey⟩

/-- A key that the map does not have is the key of no message. -/
theorem Lists.key_ne (h : queue.Lists messages) (hw : queue.WellFormed) (hkey : key ∉ queue.latest)
    (hmessage : message ∈ messages) : message.scopedCoalesceKey ≠ some key := by
  intro heq
  obtain ⟨found, hfound, hin⟩ := h.key_mem hw hmessage
  rw [heq] at hfound
  exact hkey (Option.some.inj hfound ▸ hin)

/-- The order is cut as the messages are cut. -/
theorem filter_order {order : List ScopedCoalesceKey} {messages : List OutboundMessage}
    {r : ScopedCoalesceKey → Bool} {q : OutboundMessage → Bool}
    (h : order.map some = messages.map OutboundMessage.scopedCoalesceKey)
    (hr : ∀ message ∈ messages, ∀ key, message.scopedCoalesceKey = some key → r key = q message) :
    (order.filter r).map some = (messages.filter q).map OutboundMessage.scopedCoalesceKey := by
  induction messages generalizing order with
  | nil =>
    obtain rfl := List.map_eq_nil_iff.mp h
    rfl
  | cons message rest ih =>
    cases order with
    | nil => cases h
    | cons key keys =>
      obtain ⟨hkey, hkeys⟩ := List.cons.inj h
      have hhead : r key = q message := hr message List.mem_cons_self key hkey.symm
      have htail := ih hkeys fun m hm => hr m (List.mem_cons_of_mem _ hm)
      rw [List.filter_cons, List.filter_cons, hhead]
      split
      · rw [List.map_cons, List.map_cons, htail, hkey]
      · exact htail

/-- The oldest value is evicted: the first of the list, and the only one of its key. -/
theorem Lists.evict (h : queue.Lists messages) (hw : queue.WellFormed)
    (hevict : queue.evictOldestLatest = some (key, queue')) :
    (messages.head?.bind OutboundMessage.scopedCoalesceKey) = some key ∧
      messages.filter (fun m => m.scopedCoalesceKey ≠ some key) = messages.tail ∧
        queue'.Lists messages.tail := by
  unfold evictOldestLatest at hevict
  split at hevict
  · cases hevict
  rename_i first keys horder
  obtain ⟨rfl, rfl⟩ := by simpa using hevict
  obtain ⟨hkeys, hvalues⟩ := h
  rw [horder, List.map_cons] at hkeys
  have hnodup := hw.nodup
  rw [horder, List.nodup_cons] at hnodup
  cases messages with
  | nil => cases hkeys
  | cons message rest =>
    obtain ⟨hfirst, hrest⟩ := List.cons.inj hkeys
    have hother : ∀ m ∈ rest, m.scopedCoalesceKey ≠ some first := by
      intro m hm heq
      have hin : some first ∈ keys.map some := by
        rw [hrest, ← heq]
        exact List.mem_map_of_mem hm
      exact hnodup.1 (by simpa using hin)
    refine ⟨hfirst.symm, ?_, hrest, ?_⟩
    · rw [List.filter_cons_of_neg (by simp [← hfirst]), List.tail_cons]
      exact List.filter_eq_self.mpr fun m hm => by simp [hother m hm]
    · intro m hm k hk
      rw [OrderedMap.getElem?_erase, if_neg ?_]
      · exact hvalues m (List.mem_cons_of_mem _ hm) k hk
      · rintro rfl
        exact hother m hm hk

theorem Lists.insertLatest (h : queue.Lists messages) (hw : queue.WellFormed)
    (hkey : message.scopedCoalesceKey = some key) (hfresh : key ∉ queue.latest) :
    (queue.insertLatest key message).Lists (messages ++ [message]) := by
  refine ⟨?_, ?_⟩
  · rw [OutboundQueue.insertLatest, List.map_append, List.map_append, h.order]
    simp [hkey]
  · intro m hm k hk
    rw [OutboundQueue.insertLatest, OrderedMap.getElem?_insert]
    rcases List.mem_append.mp hm with hm | hm
    · rw [if_neg ?_]
      · exact h.values m hm k hk
      · rintro rfl
        exact h.key_ne hw hfresh hm hk
    · obtain rfl := List.mem_singleton.mp hm
      rw [hkey] at hk
      rw [if_pos (Option.some.inj hk).symm]

theorem Lists.replace (h : queue.Lists messages) (hkey : message.scopedCoalesceKey = some key) :
    Lists { queue with
        latest := queue.latest.insert key message
        latestOrder := queue.latestOrder.filter (· ≠ key) ++ [key] }
      (messages.filter (fun m => m.scopedCoalesceKey ≠ some key) ++ [message]) := by
  refine ⟨?_, ?_⟩
  · rw [List.map_append, List.map_append]
    congr 1
    · apply filter_order h.order
      intro m _ k hk
      simp [hk]
    · simp [hkey]
  · intro m hm k hk
    rw [OrderedMap.getElem?_insert]
    rcases List.mem_append.mp hm with hm | hm
    · obtain ⟨hm, hne⟩ := List.mem_filter.mp hm
      rw [if_neg ?_]
      · exact h.values m hm k hk
      · rintro rfl
        simp [hk] at hne
    · obtain rfl := List.mem_singleton.mp hm
      rw [hkey] at hk
      rw [if_pos (Option.some.inj hk).symm]

theorem Lists.purge {p : OutboundMessage → Bool} (h : queue.Lists messages) :
    (queue.purge p).Lists (messages.filter fun m => !p m) := by
  have hvalue : ∀ m ∈ messages, ∀ k, m.scopedCoalesceKey = some k → ∀ other : OutboundMessage,
      (queue.latest.filter fun _ message => !p message)[k]? = some other ↔
        m = other ∧ p other = false := by
    intro m hm k hk other
    rw [OrderedMap.getElem?_filter, h.values m hm k hk]
    simp
  refine ⟨?_, ?_⟩
  · apply filter_order h.order
    intro m hm k hk
    cases hp : p m with
    | true =>
      rw [Bool.not_true, decide_eq_false_iff_not]
      intro hin
      obtain ⟨other, hother⟩ := OrderedMap.exists_of_mem hin
      obtain ⟨rfl, hkept⟩ := (hvalue m hm k hk other).mp hother
      rw [hp] at hkept
      cases hkept
    | false =>
      have hin := OrderedMap.mem_of_getElem? ((hvalue m hm k hk m).mpr ⟨rfl, hp⟩)
      simpa using hin
  · intro m hm k hk
    obtain ⟨hm, hkept⟩ := List.mem_filter.mp hm
    exact (hvalue m hm k hk m).mpr ⟨rfl, by simpa using hkept⟩

/-- The messages that the latest-value class lists are all it holds. -/
theorem Lists.pop_value (h : queue.Lists messages) {first : ScopedCoalesceKey}
    {keys : List ScopedCoalesceKey} (horder : queue.latestOrder = first :: keys) :
    ∃ message rest, messages = message :: rest ∧ queue.latest[first]? = some message := by
  have hkeys := h.order
  rw [horder, List.map_cons] at hkeys
  cases messages with
  | nil => cases hkeys
  | cons message rest =>
    exact ⟨message, rest, rfl,
      h.values message List.mem_cons_self first (List.cons.inj hkeys).1.symm⟩

/-! ## The queue and the ledger -/

/-- The queue holds what the ledger says is queued, class by class and in its order. -/
structure Agrees (queue : OutboundQueue) (ledger : Ledger) : Prop where
  critical : queue.critical = ledger.queued .critical
  latest : queue.Lists (ledger.queued .latest)
  bestEffort : queue.bestEffort = ledger.queued .bestEffort

variable {ledger : Ledger}

theorem Agrees.record_refused (h : queue.Agrees ledger) :
    queue.Agrees (ledger.record message .refused) := by
  obtain ⟨hcritical, hlatest, hbest⟩ := h
  rw [← @Ledger.queued_record_refused ledger _ message] at hcritical hlatest hbest
  exact ⟨hcritical, hlatest, hbest⟩

theorem Agrees.record_critical (h : queue.Agrees ledger) (hclass : message.queueClass = .critical) :
    Agrees { queue with critical := queue.critical ++ [message] }
      (ledger.record message .queued) := by
  refine ⟨?_, ?_, ?_⟩
  · rw [Ledger.queued_record_queued, if_pos hclass, h.critical]
  · rw [Ledger.queued_record_queued, hclass, if_neg (by simp), List.append_nil]
    exact ⟨h.latest.order, h.latest.values⟩
  · rw [Ledger.queued_record_queued, hclass, if_neg (by simp), List.append_nil]
    exact h.bestEffort

theorem Agrees.record_bestEffort (h : queue.Agrees ledger)
    (hclass : message.queueClass = .bestEffort) :
    Agrees { queue with bestEffort := queue.bestEffort ++ [message] }
      (ledger.record message .queued) := by
  refine ⟨?_, ?_, ?_⟩
  · rw [Ledger.queued_record_queued, hclass, if_neg (by simp), List.append_nil]
    exact h.critical
  · rw [Ledger.queued_record_queued, hclass, if_neg (by simp), List.append_nil]
    exact ⟨h.latest.order, h.latest.values⟩
  · rw [Ledger.queued_record_queued, if_pos hclass, h.bestEffort]

theorem Agrees.record_latest (h : queue.Agrees ledger) (hw : queue.WellFormed)
    (hclass : message.queueClass = .latest) (hkey : message.scopedCoalesceKey = some key)
    (hfresh : key ∉ queue.latest) :
    (queue.insertLatest key message).Agrees (ledger.record message .queued) := by
  refine ⟨?_, ?_, ?_⟩
  · rw [Ledger.queued_record_queued, hclass, if_neg (by simp), List.append_nil]
    exact h.critical
  · rw [Ledger.queued_record_queued, if_pos hclass]
    exact h.latest.insertLatest hw hkey hfresh
  · rw [Ledger.queued_record_queued, hclass, if_neg (by simp), List.append_nil]
    exact h.bestEffort

theorem Agrees.evict_latest (h : queue.Agrees ledger) (hw : queue.WellFormed)
    (hevict : queue.evictOldestLatest = some (key, queue')) :
    queue'.Agrees (ledger.evict (.latest key)) := by
  obtain ⟨-, hfilter, hlists⟩ := h.latest.evict hw hevict
  have hsame : queue'.critical = queue.critical ∧ queue'.bestEffort = queue.bestEffort := by
    unfold evictOldestLatest at hevict
    split at hevict
    · cases hevict
    · obtain ⟨rfl, rfl⟩ := by simpa using hevict
      exact ⟨rfl, rfl⟩
  have hother : ∀ c, c ≠ .latest → (ledger.evict (.latest key)).queued c = ledger.queued c := by
    intro c hc
    rw [Ledger.evict, Ledger.queued_markAll (r := fun _ => false) (by simp)]
    · simp
    · intro entry hwaits
      have hclass := (Ledger.waits_eq.mp hwaits).2
      simp [keeps, waits, hclass, hc]
  refine ⟨?_, ?_, ?_⟩
  · rw [hother _ (by simp), hsame.1, h.critical]
  · rw [Ledger.evict, Ledger.queued_keeps (by simp), hfilter]
    exact hlists
  · rw [hother _ (by simp), hsame.2, h.bestEffort]

theorem Agrees.evict_bestEffort (h : queue.Agrees ledger)
    (hevict : queue.evictBestEffort = some queue') :
    queue'.Agrees (ledger.evict .bestEffort) := by
  unfold evictBestEffort at hevict
  split at hevict
  · cases hevict
  rename_i first rest hqueue
  obtain rfl := by simpa using hevict
  refine ⟨?_, ?_, ?_⟩
  · rw [Ledger.evict, Ledger.queued_markFirst_other (by simp) (by simp)]
    exact h.critical
  · rw [Ledger.evict, Ledger.queued_markFirst_other (by simp) (by simp)]
    exact ⟨h.latest.order, h.latest.values⟩
  · rw [Ledger.evict, Ledger.queued_markFirst_self (by simp), ← h.bestEffort, hqueue,
      List.tail_cons]

/-! ## A push -/

theorem queueClass_critical (h : message.delivery.isCritical = true) :
    message.queueClass = .critical := by
  rw [OutboundMessage.queueClass, if_pos h]

theorem queueClass_latest (h : message.delivery.isCritical = false)
    (hreplaceable : message.delivery.isReplaceable = true) : message.queueClass = .latest := by
  rw [OutboundMessage.queueClass, if_neg (by simp [h]), if_pos hreplaceable]

theorem queueClass_bestEffort (h : message.delivery.isCritical = false)
    (hreplaceable : message.delivery.isReplaceable = false) :
    message.queueClass = .bestEffort := by
  rw [OutboundMessage.queueClass, if_neg (by simp [h]), if_neg (by simp [hreplaceable])]

/-- The ledger after a push with a result. -/
def Ledgered (ledger : Ledger) (message : OutboundMessage) (result : QueuePush)
    (queue' : OutboundQueue) : Prop :=
  queue'.Agrees ((ledger.lose message result).record message result.fate)

/-- The eviction of a critical push loses what it names. -/
theorem Agrees.evictForCritical (h : queue.Agrees ledger) (hw : queue.WellFormed) :
    queue.evictForCritical.2.Agrees (queue.evictForCritical.1.elim ledger ledger.evict) := by
  unfold OutboundQueue.evictForCritical
  by_cases hfull : queue.len = queue.config.totalCapacity
  · rw [if_pos hfull]
    cases hlatest : queue.evictOldestLatest with
    | some evicted => exact h.evict_latest hw hlatest
    | none =>
      cases hbest : queue.evictBestEffort with
      | some queue' => exact h.evict_bestEffort hbest
      | none => exact h
  · rw [if_neg hfull]
    exact h

theorem Agrees.pushCritical (h : queue.Agrees ledger) (hw : queue.WellFormed)
    (hclass : message.queueClass = .critical) :
    Ledgered ledger message (queue.pushCritical message).1 (queue.pushCritical message).2 := by
  unfold OutboundQueue.pushCritical
  by_cases hfull : queue.critical.length = queue.config.criticalCapacity
  · rw [if_pos hfull]
    have hrefused := @Agrees.record_refused queue message ledger h
    exact ⟨hrefused.critical, ⟨hrefused.latest.order, hrefused.latest.values⟩,
      hrefused.bestEffort⟩
  · rw [if_neg hfull]
    have hevicted := (h.evictForCritical hw).record_critical hclass
    cases heviction : queue.evictForCritical.1 with
    | none =>
      rw [heviction] at hevicted
      simp only [Ledgered, heviction]
      exact hevicted
    | some eviction =>
      rw [heviction] at hevicted
      simp only [Ledgered, heviction]
      exact hevicted

theorem Agrees.pushBestEffort (h : queue.Agrees ledger)
    (hclass : message.queueClass = .bestEffort) :
    Ledgered ledger message (queue.pushBestEffort message).1
      (queue.pushBestEffort message).2 := by
  unfold OutboundQueue.pushBestEffort
  split
  · exact h.record_refused
  · exact h.record_bestEffort hclass

theorem Agrees.replace (h : queue.Agrees ledger) (hclass : message.queueClass = .latest)
    (hkey : message.scopedCoalesceKey = some key) :
    Ledgered ledger message .replacedLatest
      { queue with
        latest := queue.latest.insert key message
        latestOrder := queue.latestOrder.filter (· ≠ key) ++ [key] } := by
  have hlose : ledger.lose message .replacedLatest =
      markAll (keeps key) (mark .replaced) ledger := by
    rw [Ledger.lose, hkey, Option.elim_some]
  have hother : ∀ c, c ≠ .latest →
      (ledger.lose message .replacedLatest).queued c = ledger.queued c := by
    intro c hc
    rw [hlose, Ledger.queued_markAll (r := fun _ => false) (by simp)]
    · simp
    · intro entry hwaits
      have hwaited := (Ledger.waits_eq.mp hwaits).2
      simp [keeps, waits, hwaited, hc]
  have hfate : QueuePush.replacedLatest.fate = .queued := rfl
  refine ⟨?_, ?_, ?_⟩
  · rw [hfate, Ledger.queued_record_queued, hclass, if_neg (by simp), List.append_nil,
      hother _ (by simp), h.critical]
  · rw [hfate, Ledger.queued_record_queued, if_pos hclass, hlose,
      Ledger.queued_keeps (by simp)]
    exact h.latest.replace hkey
  · rw [hfate, Ledger.queued_record_queued, hclass, if_neg (by simp), List.append_nil,
      hother _ (by simp), h.bestEffort]

theorem Agrees.pushLatest {result : QueuePush} (h : queue.Agrees ledger) (hw : queue.WellFormed)
    (hclass : message.queueClass = .latest)
    (hpush : queue.pushLatest message = .ok (result, queue')) :
    Ledgered ledger message result queue' := by
  unfold OutboundQueue.pushLatest at hpush
  cases hkey : message.scopedCoalesceKey with
  | none => simp [hkey] at hpush
  | some key =>
    rw [hkey, Option.okOr_some] at hpush
    simp only [bind, Except.bind, pure, Except.pure] at hpush
    by_cases hin : key ∈ queue.latest
    · rw [if_pos hin] at hpush
      cases hpush
      exact h.replace hclass hkey
    rw [if_neg hin] at hpush
    by_cases hzero : queue.config.latestCapacity = 0
    · rw [if_pos hzero] at hpush
      cases hpush
      exact h.record_refused
    rw [if_neg hzero] at hpush
    by_cases hfull : queue.latest.size = queue.config.latestCapacity
    · rw [if_pos hfull] at hpush
      obtain ⟨evicted, freed, hevict⟩ := hw.evictOldestLatest_isSome (by omega)
      rw [hevict] at hpush
      cases hpush
      exact (h.evict_latest hw hevict).record_latest (evictOldestLatest_evicts hw hevict).wellFormed
        hclass hkey (evictOldestLatest_latest hevict hin)
    rw [if_neg hfull] at hpush
    by_cases hcrowded : queue.len = queue.config.totalCapacity
    · rw [if_pos hcrowded] at hpush
      cases hevict : queue.evictOldestLatest with
      | some evicted =>
        rw [hevict] at hpush
        cases hpush
        exact (h.evict_latest hw hevict).record_latest
          (evictOldestLatest_evicts hw hevict).wellFormed hclass hkey
          (evictOldestLatest_latest hevict hin)
      | none =>
        cases hbest : queue.evictBestEffort with
        | some freed =>
          rw [hevict, hbest] at hpush
          cases hpush
          exact (h.evict_bestEffort hbest).record_latest
            (evictBestEffort_evicts hw hbest).wellFormed
            hclass hkey (evictBestEffort_latest hbest ▸ hin)
        | none =>
          rw [hevict, hbest] at hpush
          cases hpush
          exact h.record_refused
    · rw [if_neg hcrowded] at hpush
      cases hpush
      exact h.record_latest hw hclass hkey hin

/-- The answer to a push names what the push has lost. -/
theorem Agrees.push (h : queue.Agrees ledger) (hw : queue.WellFormed) (message : OutboundMessage) :
    (queue.apply (.push message)).Agrees (ledger.push message (queue.push message)) := by
  cases hpush : queue.push message with
  | error =>
    have hsame : queue.apply (.push message) = queue := by simp only [OutboundQueue.apply, hpush]
    rw [hsame]
    exact h.record_refused
  | ok answer =>
    have hnext : queue.apply (.push message) = answer.2 := by
      simp only [OutboundQueue.apply, hpush]
    rw [hnext]
    unfold OutboundQueue.push at hpush
    cases hcritical : message.delivery.isCritical with
    | true =>
      rw [if_pos hcritical] at hpush
      obtain rfl := Except.ok.inj hpush
      exact h.pushCritical hw (queueClass_critical hcritical)
    | false =>
      rw [if_neg (by simp [hcritical])] at hpush
      cases hreplaceable : message.delivery.isReplaceable with
      | true =>
        rw [if_pos hreplaceable] at hpush
        exact h.pushLatest hw (queueClass_latest hcritical hreplaceable) hpush
      | false =>
        rw [if_neg (by simp [hreplaceable])] at hpush
        obtain rfl := Except.ok.inj hpush
        exact h.pushBestEffort (queueClass_bestEffort hcritical hreplaceable)

/-! ## The other operations -/

theorem pop_critical {rest : List OutboundMessage} (h : queue.critical = message :: rest) :
    queue.pop = (some message, { queue with critical := rest }) := by
  simp only [OutboundQueue.pop, h]

theorem pop_latest {keys : List ScopedCoalesceKey} (hcritical : queue.critical = [])
    (h : queue.latestOrder = key :: keys) :
    queue.pop = (queue.latest[key]?, { queue with
      latestOrder := keys, latest := queue.latest.erase key }) := by
  simp only [OutboundQueue.pop, hcritical, h]

theorem pop_bestEffort {rest : List OutboundMessage} (hcritical : queue.critical = [])
    (horder : queue.latestOrder = []) (h : queue.bestEffort = message :: rest) :
    queue.pop = (some message, { queue with bestEffort := rest }) := by
  simp only [OutboundQueue.pop, hcritical, horder, h]

theorem pop_empty (hcritical : queue.critical = []) (horder : queue.latestOrder = [])
    (h : queue.bestEffort = []) : queue.pop = (none, queue) := by
  simp only [OutboundQueue.pop, hcritical, horder, h]

/-- A pop answers with the first message of the first class that has one. -/
theorem Agrees.pop (h : queue.Agrees ledger) (hw : queue.WellFormed) :
    queue.pop.1 = ledger.queue.head? ∧ queue.pop.2.Agrees ledger.pop := by
  obtain ⟨hcritical, hlatest, hbest⟩ := h
  unfold Ledger.pop Ledger.nextClass Ledger.queue
  cases hqueue : queue.critical with
  | cons message rest =>
    rw [pop_critical hqueue]
    rw [hqueue] at hcritical
    rw [← hcritical, if_pos (by simp)]
    refine ⟨rfl, ?_, ?_, ?_⟩
    · rw [Ledger.queued_markFirst_self (by simp), ← hcritical, List.tail_cons]
    · rw [Ledger.queued_markFirst_other (by simp) (by simp)]
      exact ⟨hlatest.order, hlatest.values⟩
    · rw [Ledger.queued_markFirst_other (by simp) (by simp)]
      exact hbest
  | nil =>
    rw [← hcritical, hqueue, if_neg (by simp), List.nil_append]
    cases horder : queue.latestOrder with
    | cons key keys =>
      obtain ⟨message, rest, hmessages, hvalue⟩ := hlatest.pop_value horder
      have hevict : queue.evictOldestLatest = some (key, { queue with
          latestOrder := keys, latest := queue.latest.erase key }) := by
        rw [evictOldestLatest, horder]
      obtain ⟨-, -, hlists⟩ := hlatest.evict hw hevict
      rw [pop_latest hqueue horder, hvalue, hmessages, if_pos (by simp)]
      refine ⟨rfl, ?_, ?_, ?_⟩
      · rw [Ledger.queued_markFirst_other (by simp) (by simp)]
        exact hcritical
      · rw [Ledger.queued_markFirst_self (by simp)]
        exact hlists
      · rw [Ledger.queued_markFirst_other (by simp) (by simp)]
        exact hbest
    | nil =>
      have hnone : ledger.queued .latest = [] := by
        have hkeys := hlatest.order
        rw [horder] at hkeys
        exact List.map_eq_nil_iff.mp hkeys.symm
      rw [hnone, if_neg (by simp), List.nil_append]
      cases hrest : queue.bestEffort with
      | cons message rest =>
        rw [pop_bestEffort hqueue horder hrest, ← hbest, hrest]
        refine ⟨rfl, ?_, ?_, ?_⟩
        · rw [Ledger.queued_markFirst_other (by simp) (by simp)]
          exact hcritical
        · rw [Ledger.queued_markFirst_other (by simp) (by simp)]
          exact ⟨hlatest.order, hlatest.values⟩
        · rw [Ledger.queued_markFirst_self (by simp), ← hbest, hrest, List.tail_cons]
      | nil =>
        rw [pop_empty hqueue horder hrest, ← hbest, hrest]
        refine ⟨rfl, ?_, ?_, ?_⟩
        · rw [Ledger.queued_markFirst_other (by simp) (by simp)]
          exact hcritical
        · rw [Ledger.queued_markFirst_other (by simp) (by simp)]
          exact hlatest
        · rw [Ledger.queued_markFirst_self (by simp), ← hbest, hrest, List.tail_nil]

theorem Agrees.purge {p : OutboundMessage → Bool} (h : queue.Agrees ledger) :
    (queue.purge p).Agrees (ledger.purge p) := by
  have hqueued : ∀ c, (ledger.purge p).queued c = (ledger.queued c).filter fun m => !p m := by
    intro c
    rw [Ledger.purge, Ledger.queued_markAll (r := p) (by simp)]
    intro entry hwaits
    simp [isQueued, (Ledger.waits_eq.mp hwaits).1]
  refine ⟨?_, ?_, ?_⟩
  · rw [hqueued, ← h.critical]
    rfl
  · rw [hqueued]
    exact h.latest.purge
  · rw [hqueued, ← h.bestEffort]
    rfl

/-- Popping everything leaves a queue that agrees with a ledger that has nothing waiting. -/
theorem Agrees.drainLoop {fuel : Nat} (h : queue.Agrees ledger) (hw : queue.WellFormed)
    (hfuel : queue.rounds < fuel) (messages : List OutboundMessage) :
    ∃ queue', drainLoop fuel queue messages = (messages ++ ledger.queue, queue') ∧
      queue'.WellFormed ∧ queue'.rounds = 0 := by
  induction fuel generalizing queue ledger messages with
  | zero => omega
  | succ fuel ih =>
    unfold OutboundQueue.drainLoop
    obtain ⟨hanswer, hafter⟩ := h.pop hw
    rcases pop_pops hw with ⟨hpop, hrounds⟩ | ⟨message, popped, hpop, hpops⟩
    · rw [hpop] at hanswer
      have hnothing : ledger.queue = [] := List.head?_eq_none_iff.mp hanswer.symm
      refine ⟨queue, ?_, hw, hrounds⟩
      rw [hpop, hnothing, List.append_nil]
    · rw [hpop] at hanswer hafter
      have hrounds := hpops.rounds
      have hless : popped.rounds < fuel := by omega
      obtain ⟨queue', hloop, hrest⟩ := ih hafter hpops.wellFormed hless (messages ++ [message])
      refine ⟨queue', ?_, hrest⟩
      have hqueue : ledger.queue = message :: ledger.pop.queue := by
        rw [Ledger.queue_pop]
        exact List.eq_cons_of_mem_head? hanswer.symm
      rw [hpop]
      simp only
      rw [hloop, hqueue, List.append_assoc, List.singleton_append]

theorem Agrees.drain (h : queue.Agrees ledger) (hw : queue.WellFormed) :
    queue.drain.1 = ledger.queue ∧ queue.drain.2.Agrees ledger.drain := by
  obtain ⟨queue', hloop, hw', hrounds⟩ := h.drainLoop hw (Nat.lt_succ_self _) []
  have hdrain : queue.drain = (ledger.queue, queue') := hloop
  have hnone : ∀ c, ledger.drain.queued c = [] := by
    intro c
    rw [Ledger.drain, Ledger.queued_markAll (r := fun _ => true) (by simp)]
    · simp
    · intro entry hwaits
      simp [isQueued, (Ledger.waits_eq.mp hwaits).1]
  unfold rounds at hrounds
  have hcritical : queue'.critical = [] := List.eq_nil_of_length_eq_zero (by omega)
  have horder : queue'.latestOrder = [] := List.eq_nil_of_length_eq_zero (by omega)
  have hbest : queue'.bestEffort = [] := List.eq_nil_of_length_eq_zero (by omega)
  rw [hdrain]
  refine ⟨rfl, ?_, ⟨?_, ?_⟩, ?_⟩
  · rw [hnone, hcritical]
  · rw [hnone, horder]
    rfl
  · rw [hnone]
    simp
  · rw [hnone, hbest]

end OutboundQueue

end Signalweave
