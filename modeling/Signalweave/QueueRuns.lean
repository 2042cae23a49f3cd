import Signalweave.QueueProps
import Signalweave.Library.Transition

/-!
# Runs of the outbound queue

A queue starts from a validated configuration and takes any list of operations. Its classes and
their sum stay within the configured capacities, and the order of the latest-value class is a
permutation of its keys; so no eviction fails and no pop misses.
-/

open Std

namespace Signalweave

/-- The operations of a queue. -/
inductive QueueOp where
  | push (message : OutboundMessage)
  | pop
  | purge (shouldRemove : OutboundMessage → Bool)
  | drain

namespace OutboundQueue

/-- The queue after an operation. A failing push leaves it as it was. -/
def apply (queue : OutboundQueue) : QueueOp → OutboundQueue
  | .push message =>
    match queue.push message with
    | .ok (_, queue') => queue'
    | .error _ => queue
  | .pop => queue.pop.2
  | .purge shouldRemove => queue.purge shouldRemove
  | .drain => queue.drain.2

/-- The classes and their sum stay within the capacities. -/
structure Bounded (queue : OutboundQueue) : Prop where
  critical : queue.critical.length ≤ queue.config.criticalCapacity
  latest : queue.latest.size ≤ queue.config.latestCapacity
  bestEffort : queue.bestEffort.length ≤ queue.config.bestEffortCapacity
  total : queue.len ≤ queue.config.totalCapacity
  classes : queue.config.criticalCapacity ≤ queue.config.totalCapacity

theorem Bounded.start {config : OutboundQueueConfig} {queue : OutboundQueue}
    (h : new config = .ok queue) : queue.Bounded := by
  have hvalid := h
  obtain rfl := new_eq_ok h
  simp only [new, OutboundQueueConfig.validate, Except.bind_eq_ok, Except.ite_eq_ok, reduceCtorEq,
    and_false, false_or, Except.ok.injEq, Except.pure_eq_ok] at hvalid
  obtain ⟨_, ⟨-, -, hclasses, rfl⟩, -⟩ := hvalid
  refine ⟨Nat.zero_le _, ?_, Nat.zero_le _, ?_, ?_⟩
  · simp
  · simp [len]
  · change config.criticalCapacity ≤ config.totalCapacity
    omega

variable {queue queue' : OutboundQueue} {message : OutboundMessage}

/-! ## Evicting -/

/-- What an eviction frees: one place of the latest-value or the best-effort class. -/
structure Frees (queue queue' : OutboundQueue) : Prop where
  config : queue'.config = queue.config
  critical : queue'.critical = queue.critical
  latest : queue'.latest.size ≤ queue.latest.size
  bestEffort : queue'.bestEffort.length ≤ queue.bestEffort.length
  freed : queue'.len + 1 = queue.len

theorem evictOldestLatest_frees {key : ScopedCoalesceKey} (h : queue.WellFormed)
    (hevict : queue.evictOldestLatest = some (key, queue')) :
    Frees queue queue' ∧ queue'.latest.size + 1 = queue.latest.size := by
  unfold evictOldestLatest at hevict
  split at hevict
  · cases hevict
  rename_i first rest horder
  obtain ⟨rfl, rfl⟩ := by simpa using hevict
  have hin : first ∈ queue.latest := (h.ordered first).mp (horder ▸ List.mem_cons_self)
  have hpos : 0 < queue.latest.size := by
    rw [← h.length_latestOrder, horder]
    exact Nat.succ_pos _
  have hsize : (queue.latest.erase first).size = queue.latest.size - 1 := by
    simp [ExtTreeMap.size_erase, hin]
  refine ⟨⟨rfl, rfl, ?_, Nat.le_refl _, ?_⟩, ?_⟩
  · change (queue.latest.erase first).size ≤ _
    omega
  · change queue.critical.length + (queue.latest.erase first).size + queue.bestEffort.length + 1 =
      queue.critical.length + queue.latest.size + queue.bestEffort.length
    omega
  · change (queue.latest.erase first).size + 1 = _
    omega

theorem evictBestEffort_frees (hevict : queue.evictBestEffort = some queue') :
    Frees queue queue' := by
  unfold evictBestEffort at hevict
  split at hevict
  · cases hevict
  rename_i first rest hqueue
  obtain rfl := by simpa using hevict
  refine ⟨rfl, rfl, Nat.le_refl _, ?_, ?_⟩
  · simp [hqueue]
  · simp only [len, hqueue, List.length_cons]
    omega

/-- Where nothing can be evicted, only critical messages are queued. -/
theorem len_of_not_evicted (hw : queue.WellFormed) (hlatest : queue.evictOldestLatest = none)
    (hbest : queue.evictBestEffort = none) : queue.len = queue.critical.length := by
  have horder : queue.latestOrder = [] := by
    unfold evictOldestLatest at hlatest
    split at hlatest
    · assumption
    · cases hlatest
  have hqueue : queue.bestEffort = [] := by
    unfold evictBestEffort at hbest
    split at hbest
    · assumption
    · cases hbest
  have hsize := hw.length_latestOrder
  rw [horder, List.length_nil] at hsize
  rw [len, hqueue, ← hsize]
  rfl

/-- A critical push at full capacity finds something to evict. -/
theorem Bounded.evicts (h : queue.Bounded) (hw : queue.WellFormed)
    (hroom : queue.critical.length ≠ queue.config.criticalCapacity)
    (hfull : queue.len = queue.config.totalCapacity) :
    queue.evictForCritical.1.isSome = true ∧ Frees queue queue.evictForCritical.2 := by
  unfold evictForCritical
  rw [if_pos hfull]
  cases hlatest : queue.evictOldestLatest with
  | some evicted => exact ⟨rfl, (evictOldestLatest_frees hw hlatest).1⟩
  | none =>
    cases hbest : queue.evictBestEffort with
    | some queue' => exact ⟨rfl, evictBestEffort_frees hbest⟩
    | none =>
      have hlen := len_of_not_evicted hw hlatest hbest
      have hcritical := h.critical
      have hclasses := h.classes
      omega

/-! ## What each operation keeps -/

theorem Bounded.pushCritical (h : queue.Bounded) (hw : queue.WellFormed) :
    (queue.pushCritical message).2.Bounded := by
  unfold OutboundQueue.pushCritical
  split
  · exact ⟨h.critical, h.latest, h.bestEffort, h.total, h.classes⟩
  · rename_i hroom
    have hcritical := h.critical
    have hlatest := h.latest
    have hbest := h.bestEffort
    have htotal := h.total
    by_cases hfull : queue.len = queue.config.totalCapacity
    · obtain ⟨-, hfrees⟩ := h.evicts hw hroom hfull
      obtain ⟨hconfig, hsame, hlatest', hbest', hfreed⟩ := hfrees
      rw [← hconfig] at hcritical hlatest hbest htotal
      refine ⟨?_, by exact Nat.le_trans hlatest' hlatest, by exact Nat.le_trans hbest' hbest,
        ?_, ?_⟩
      · change (queue.evictForCritical.2.critical ++ [message]).length ≤
          queue.evictForCritical.2.config.criticalCapacity
        rw [hsame, List.length_append, List.length_singleton]
        rw [← hconfig] at hroom
        omega
      · change (queue.evictForCritical.2.critical ++ [message]).length +
          queue.evictForCritical.2.latest.size + queue.evictForCritical.2.bestEffort.length ≤
            queue.evictForCritical.2.config.totalCapacity
        unfold len at hfreed htotal
        rw [List.length_append, List.length_singleton]
        omega
      · change queue.evictForCritical.2.config.criticalCapacity ≤
          queue.evictForCritical.2.config.totalCapacity
        rw [hconfig]
        exact h.classes
    · have hnone : queue.evictForCritical = (none, queue) := if_neg hfull
      rw [hnone]
      refine ⟨?_, hlatest, hbest, ?_, h.classes⟩
      · simp only [List.length_append, List.length_singleton]
        omega
      · unfold len at hfull htotal ⊢
        simp only [List.length_append, List.length_singleton]
        omega

/-- A value of a new key, where there is room for it. -/
theorem Bounded.insertLatest {key : ScopedCoalesceKey} (h : queue.Bounded)
    (hfresh : key ∉ queue.latest) (hroom : queue.latest.size + 1 ≤ queue.config.latestCapacity)
    (htotal : queue.len + 1 ≤ queue.config.totalCapacity) :
    (queue.insertLatest key message).Bounded := by
  have hsize : (queue.latest.insert key message).size = queue.latest.size + 1 := by
    simp [ExtTreeMap.size_insert, hfresh]
  refine ⟨h.critical, ?_, h.bestEffort, ?_, h.classes⟩
  · change (queue.latest.insert key message).size ≤ queue.config.latestCapacity
    omega
  · change queue.critical.length + (queue.latest.insert key message).size +
      queue.bestEffort.length ≤ queue.config.totalCapacity
    unfold len at htotal
    omega

theorem Frees.bounded (hfrees : Frees queue queue') (h : queue.Bounded) : queue'.Bounded := by
  obtain ⟨hconfig, hcritical, hlatest, hbest, hfreed⟩ := hfrees
  have htotal := h.total
  refine ⟨?_, ?_, ?_, ?_, ?_⟩
  · rw [hcritical, hconfig]
    exact h.critical
  · rw [hconfig]
    exact Nat.le_trans hlatest h.latest
  · rw [hconfig]
    exact Nat.le_trans hbest h.bestEffort
  · rw [hconfig]
    omega
  · rw [hconfig]
    exact h.classes

theorem Bounded.pushLatest {result : QueuePush} (h : queue.Bounded) (hw : queue.WellFormed)
    (hpush : queue.pushLatest message = .ok (result, queue')) : queue'.Bounded := by
  unfold OutboundQueue.pushLatest at hpush
  cases hkey : message.scopedCoalesceKey with
  | none => simp [hkey] at hpush
  | some key =>
    rw [hkey, Option.okOr_some] at hpush
    simp only [bind, Except.bind, pure, Except.pure] at hpush
    have hlatest := h.latest
    have htotal := h.total
    by_cases hin : key ∈ queue.latest
    · rw [if_pos hin] at hpush
      cases hpush
      have hsize : (queue.latest.insert key message).size = queue.latest.size := by
        simp [ExtTreeMap.size_insert, hin]
      refine ⟨h.critical, ?_, h.bestEffort, ?_, h.classes⟩
      · change (queue.latest.insert key message).size ≤ queue.config.latestCapacity
        omega
      · change _ + (queue.latest.insert key message).size + _ ≤ _
        rw [hsize]
        exact htotal
    rw [if_neg hin] at hpush
    by_cases hzero : queue.config.latestCapacity = 0
    · rw [if_pos hzero] at hpush
      cases hpush
      exact h
    rw [if_neg hzero] at hpush
    by_cases hfull : queue.latest.size = queue.config.latestCapacity
    · rw [if_pos hfull] at hpush
      obtain ⟨evicted, freed, hevict⟩ := hw.evictOldestLatest_isSome (by omega)
      rw [hevict] at hpush
      cases hpush
      obtain ⟨hfrees, hsmaller⟩ := evictOldestLatest_frees hw hevict
      have hfreed := hfrees.freed
      refine (hfrees.bounded h).insertLatest (evictOldestLatest_latest hevict hin) ?_ ?_
      · rw [hfrees.config]
        omega
      · rw [hfrees.config]
        omega
    rw [if_neg hfull] at hpush
    by_cases hcrowded : queue.len = queue.config.totalCapacity
    · rw [if_pos hcrowded] at hpush
      cases hevict : queue.evictOldestLatest with
      | some evicted =>
        rw [hevict] at hpush
        cases hpush
        obtain ⟨hfrees, hsmaller⟩ := evictOldestLatest_frees hw hevict
        have hfreed := hfrees.freed
        refine (hfrees.bounded h).insertLatest (evictOldestLatest_latest hevict hin) ?_ ?_
        · rw [hfrees.config]
          omega
        · rw [hfrees.config]
          omega
      | none =>
        cases hbest : queue.evictBestEffort with
        | some freed =>
          rw [hevict, hbest] at hpush
          cases hpush
          have hfrees := evictBestEffort_frees hbest
          have hfreed := hfrees.freed
          have hsame := evictBestEffort_latest hbest
          refine (hfrees.bounded h).insertLatest (hsame ▸ hin) ?_ ?_
          · rw [hfrees.config, hsame]
            omega
          · rw [hfrees.config]
            omega
        | none =>
          rw [hevict, hbest] at hpush
          cases hpush
          exact h
    · rw [if_neg hcrowded] at hpush
      cases hpush
      exact h.insertLatest hin (by omega) (by omega)

theorem Bounded.pushBestEffort (h : queue.Bounded) : (queue.pushBestEffort message).2.Bounded := by
  unfold OutboundQueue.pushBestEffort
  split
  · exact h
  · rename_i hroom
    have hbest := h.bestEffort
    have htotal := h.total
    refine ⟨h.critical, h.latest, ?_, ?_, h.classes⟩
    · simp only [List.length_append, List.length_singleton]
      omega
    · unfold len at hroom htotal ⊢
      simp only [List.length_append, List.length_singleton]
      omega

theorem Bounded.push {result : QueuePush} (h : queue.Bounded) (hw : queue.WellFormed)
    (hpush : queue.push message = .ok (result, queue')) : queue'.Bounded := by
  unfold OutboundQueue.push at hpush
  split at hpush
  · obtain rfl : (queue.pushCritical message).2 = queue' := congrArg Prod.snd (Except.ok.inj hpush)
    exact h.pushCritical hw
  split at hpush
  · exact h.pushLatest hw hpush
  · obtain rfl : (queue.pushBestEffort message).2 = queue' :=
      congrArg Prod.snd (Except.ok.inj hpush)
    exact h.pushBestEffort

theorem Bounded.pop (h : queue.Bounded) (hw : queue.WellFormed) : queue.pop.2.Bounded := by
  have hcritical := h.critical
  have hbest := h.bestEffort
  have htotal := h.total
  unfold OutboundQueue.pop
  split
  · rename_i message rest hqueue
    rw [hqueue, List.length_cons] at hcritical
    refine ⟨by exact Nat.le_of_succ_le hcritical, h.latest, hbest, ?_, h.classes⟩
    unfold len at htotal ⊢
    rw [hqueue, List.length_cons] at htotal
    change rest.length + queue.latest.size + queue.bestEffort.length ≤ queue.config.totalCapacity
    omega
  · rename_i key rest _ horder
    have hevict : queue.evictOldestLatest = some (key, { queue with
        latestOrder := rest, latest := queue.latest.erase key }) := by
      rw [evictOldestLatest, horder]
    exact (evictOldestLatest_frees hw hevict).1.bounded h
  · rename_i message rest _ _ hqueue
    have hevict : queue.evictBestEffort = some { queue with bestEffort := rest } := by
      rw [evictBestEffort, hqueue]
    exact (evictBestEffort_frees hevict).bounded h
  · exact h

theorem Bounded.purge {p : OutboundMessage → Bool} (h : queue.Bounded) :
    (queue.purge p).Bounded := by
  have hcritical : (queue.purge p).critical.length ≤ queue.critical.length :=
    List.length_filter_le _ _
  have hbest : (queue.purge p).bestEffort.length ≤ queue.bestEffort.length :=
    List.length_filter_le _ _
  have hlatest : (queue.purge p).latest.size ≤ queue.latest.size := ExtTreeMap.size_filter_le_size
  have htotal := h.total
  refine ⟨Nat.le_trans hcritical h.critical, Nat.le_trans hlatest h.latest,
    Nat.le_trans hbest h.bestEffort, ?_, h.classes⟩
  change (queue.purge p).len ≤ queue.config.totalCapacity
  unfold len at htotal ⊢
  omega

theorem Bounded.drainLoop {fuel : Nat} (h : queue.Bounded) (hw : queue.WellFormed)
    (messages : List OutboundMessage) : (drainLoop fuel queue messages).2.Bounded := by
  induction fuel generalizing queue messages with
  | zero => exact h
  | succ fuel ih =>
    unfold OutboundQueue.drainLoop
    have hpopped := h.pop hw
    rcases pop_pops hw with ⟨hpop, -⟩ | ⟨message, popped, hpop, hpops⟩
    · rw [hpop]
      exact h
    · rw [hpop] at hpopped ⊢
      exact ih hpopped hpops.wellFormed _

/-! ## Runs -/

/-- The queue is in order and within its capacities. -/
structure Regular (queue : OutboundQueue) : Prop where
  wellFormed : queue.WellFormed
  bounded : queue.Bounded

theorem Regular.start {config : OutboundQueueConfig} {queue : OutboundQueue}
    (h : new config = .ok queue) : queue.Regular :=
  ⟨new_eq_ok h ▸ wellFormed_start config, Bounded.start h⟩

theorem Regular.apply (h : queue.Regular) (op : QueueOp) : (queue.apply op).Regular := by
  obtain ⟨hw, hb⟩ := h
  cases op with
  | push message =>
    cases hpush : queue.push message with
    | error =>
      have hsame : queue.apply (.push message) = queue := by simp only [OutboundQueue.apply, hpush]
      rw [hsame]
      exact ⟨hw, hb⟩
    | ok answer =>
      have hnext : queue.apply (.push message) = answer.2 := by
        simp only [OutboundQueue.apply, hpush]
      rw [hnext]
      exact ⟨(pushes_of_push hw hpush).wellFormed, hb.push hw hpush⟩
  | pop =>
    refine ⟨?_, hb.pop hw⟩
    change queue.pop.2.WellFormed
    rcases pop_pops hw with ⟨hpop, -⟩ | ⟨message, popped, hpop, hpops⟩
    · rw [hpop]
      exact hw
    · rw [hpop]
      exact hpops.wellFormed
  | purge shouldRemove => exact ⟨hw.purge, hb.purge⟩
  | drain => exact ⟨(drain_drains hw).wellFormed, hb.drainLoop hw _⟩

theorem Regular.run (h : queue.Regular) (ops : List QueueOp) :
    (Transition.run OutboundQueue.apply queue ops).Regular :=
  Transition.run_invariant (fun _ op hqueue => hqueue.apply op) h ops

theorem config_apply (h : queue.WellFormed) (op : QueueOp) :
    (queue.apply op).config = queue.config := by
  cases op with
  | push message =>
    cases hpush : queue.push message with
    | error => simp only [OutboundQueue.apply, hpush]
    | ok answer =>
      simp only [OutboundQueue.apply, hpush]
      exact (pushes_of_push h hpush).config
  | pop =>
    change queue.pop.2.config = _
    rcases pop_pops h with ⟨hpop, -⟩ | ⟨message, popped, hpop, hpops⟩
    · rw [hpop]
    · rw [hpop]
      exact hpops.config
  | purge => rfl
  | drain => exact (drain_drains h).config

/-- A run keeps the configuration it started with. -/
theorem Regular.config_run (h : queue.Regular) (ops : List QueueOp) :
    (Transition.run OutboundQueue.apply queue ops).config = queue.config := by
  induction ops generalizing queue with
  | nil => rfl
  | cons op rest ih => exact (ih (h.apply op)).trans (config_apply h.wellFormed op)

/-! ## The representation -/

/-- The order of the latest-value class lists its keys, and the capacities are kept. -/
structure Represents (queue : OutboundQueue) : Prop where
  nodup : queue.latestOrder.Nodup
  perm : queue.latestOrder.Perm queue.latest.keys
  bounded : queue.Bounded

theorem Regular.represents (h : queue.Regular) : queue.Represents where
  nodup := h.wellFormed.nodup
  perm := by
    refine (List.perm_ext_iff_of_nodup h.wellFormed.nodup (OrderedMap.nodup_keys _)).mpr ?_
    intro key
    rw [h.wellFormed.ordered, ExtTreeMap.mem_keys]
  bounded := h.bounded

/-- The `expect` of `push_latest` finds its value. -/
theorem WellFormed.push_ne_desynchronized (h : queue.WellFormed) (message : OutboundMessage) :
    queue.push message ≠ .error .latestOrderDesynchronized := by
  intro hpush
  cases hkey : message.coalesceKey with
  | some key =>
    obtain ⟨result, queue', hok, -⟩ := @push_pushes queue message h fun _ => by rw [hkey]; rfl
    rw [hok] at hpush
    cases hpush
  | none =>
    unfold push at hpush
    split at hpush
    · cases hpush
    split at hpush
    · simp [pushLatest, OutboundMessage.scopedCoalesceKey, hkey] at hpush
    · cases hpush

theorem len_of_pop_none (h : queue.WellFormed) (hpop : queue.pop.1 = none) : queue.len = 0 := by
  rcases pop_pops h with ⟨-, hrounds⟩ | ⟨message, popped, hsome, -⟩
  · have hlength := h.length_latestOrder
    unfold rounds at hrounds
    unfold len
    omega
  · rw [hsome] at hpop
    cases hpop

/-- After any operations on a queue of a valid configuration its order and its map agree and the
capacities are kept; so the `expect` is not reached, a queue that is not empty pops, and a critical
push at full capacity finds something to evict. -/
theorem run_represents {config : OutboundQueueConfig} (h : new config = .ok queue)
    (ops : List QueueOp) :
    let queue := Transition.run apply queue ops
    queue.Represents ∧ queue.config = config ∧
      (∀ message, queue.push message ≠ .error .latestOrderDesynchronized) ∧
      (queue.pop.1 = none → queue.len = 0) ∧
      (queue.critical.length ≠ queue.config.criticalCapacity →
        queue.len = queue.config.totalCapacity → queue.evictForCritical.1.isSome = true) := by
  intro queue
  have hregular : queue.Regular := (Regular.start h).run ops
  refine ⟨hregular.represents, ?_, hregular.wellFormed.push_ne_desynchronized,
    len_of_pop_none hregular.wellFormed, ?_⟩
  · refine ((Regular.start h).config_run ops).trans ?_
    rw [new_eq_ok h]
  intro hroom hfull
  exact (hregular.bounded.evicts hregular.wellFormed hroom hfull).1

end OutboundQueue

namespace Sample

/-- A message of one entity, with a key of its own. -/
def queued (delivery : DeliveryClass) (sequence : Nat) : OutboundMessage :=
  { namespaceId := ⟨1⟩, session := ⟨1⟩, space := ⟨1⟩, spaceEpoch := ⟨1⟩, entity := some ⟨1⟩
    channel := ⟨1⟩, sequence, delivery, persistence := .ephemeral
    coalesceKey := some { channel := ⟨1⟩, entity := some ⟨1⟩, component := 0 }, payload := [] }

/-- Room for one message. -/
def oneMessage : OutboundQueueConfig :=
  { totalCapacity := 1, criticalCapacity := 1, latestCapacity := 1, bestEffortCapacity := 1 }

/-- A replaced value, a critical push that evicts, and a pop. -/
def crowded : List QueueOp :=
  [.push (queued .latestValue 1), .push (queued .latestValue 2),
    .push (queued .reliableOrdered 3), .pop]

end Sample

namespace OutboundQueue

theorem run_represents_crowded :
    let queue := Transition.run apply { config := Sample.oneMessage } Sample.crowded
    queue.Represents ∧ queue.config = Sample.oneMessage ∧
      (∀ message, queue.push message ≠ .error .latestOrderDesynchronized) ∧
      (queue.pop.1 = none → queue.len = 0) ∧
      (queue.critical.length ≠ queue.config.criticalCapacity →
        queue.len = queue.config.totalCapacity → queue.evictForCritical.1.isSome = true) :=
  run_represents (show new Sample.oneMessage = .ok _ from rfl) Sample.crowded

end OutboundQueue

end Signalweave
