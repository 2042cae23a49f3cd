import Signalweave.Queue

/-!
# What the outbound queue holds

The order of the latest-value class lists its keys once each; with that, no push fails, an
eviction always finds its value and a drain takes everything, critical messages first and in the
order they were pushed.
-/

open Std

namespace Signalweave

namespace OutboundQueue

/-- The messages a queue holds. -/
def Holds (queue : OutboundQueue) (message : OutboundMessage) : Prop :=
  message ∈ queue.critical ∨ (∃ key : ScopedCoalesceKey, queue.latest[key]? = some message) ∨
    message ∈ queue.bestEffort

/-- The latest-value class agrees with its order, and each class holds its own kind. -/
structure WellFormed (queue : OutboundQueue) : Prop where
  nodup : queue.latestOrder.Nodup
  ordered : ∀ key, key ∈ queue.latestOrder ↔ key ∈ queue.latest
  critical : ∀ message ∈ queue.critical, message.delivery.isCritical = true
  latest : ∀ (key : ScopedCoalesceKey) (message : OutboundMessage),
    queue.latest[key]? = some message → message.delivery.isCritical = false
  bestEffort : ∀ message ∈ queue.bestEffort, message.delivery.isCritical = false

theorem wellFormed_start (config : OutboundQueueConfig) : WellFormed { config } where
  nodup := List.nodup_nil
  ordered := by simp
  critical := by simp
  latest := by simp
  bestEffort := by simp

theorem not_holds_start {config : OutboundQueueConfig} {message : OutboundMessage} :
    ¬ Holds { config } message := by
  simp [Holds]

theorem new_eq_ok {config : OutboundQueueConfig} {queue : OutboundQueue}
    (h : new config = .ok queue) : queue = { config } := by
  unfold new OutboundQueueConfig.validate at h
  simp only [Except.bind_eq_ok, Except.ite_eq_ok, reduceCtorEq, and_false, false_or,
    Except.ok.injEq, Except.pure_eq_ok] at h
  obtain ⟨validated, ⟨-, -, -, rfl⟩, rfl⟩ := h
  rfl

variable {queue queue' : OutboundQueue} {message : OutboundMessage}

/-- As many keys are listed as values are kept. -/
theorem WellFormed.length_latestOrder (h : queue.WellFormed) :
    queue.latestOrder.length = queue.latest.size := by
  rw [← OrderedMap.card_keySet, ← List.toFinset_card_of_nodup h.nodup]
  congr 1
  ext key
  rw [List.mem_toFinset, h.ordered, OrderedMap.mem_keySet]

/-! ## Purging -/

theorem holds_purge {p : OutboundMessage → Bool} :
    (queue.purge p).Holds message ↔ queue.Holds message ∧ p message = false := by
  unfold Holds purge
  simp only [List.mem_filter, OrderedMap.getElem?_filter, Bool.not_eq_true']
  constructor
  · rintro (⟨h, hp⟩ | ⟨key, h, hp⟩ | ⟨h, hp⟩)
    · exact ⟨.inl h, hp⟩
    · exact ⟨.inr (.inl ⟨key, h⟩), hp⟩
    · exact ⟨.inr (.inr h), hp⟩
  · rintro ⟨h | ⟨key, h⟩ | h, hp⟩
    · exact .inl ⟨h, hp⟩
    · exact .inr (.inl ⟨key, h, hp⟩)
    · exact .inr (.inr ⟨h, hp⟩)

theorem WellFormed.purge {p : OutboundMessage → Bool} (h : queue.WellFormed) :
    (queue.purge p).WellFormed where
  nodup := h.nodup.filter _
  ordered key := by
    unfold OutboundQueue.purge
    simp only [List.mem_filter, decide_eq_true_eq]
    refine ⟨And.right, fun hkey => ⟨?_, hkey⟩⟩
    exact (h.ordered key).mpr (ExtTreeMap.mem_of_mem_filter hkey)
  critical other hother := h.critical other (List.mem_filter.mp hother).1
  latest key other hother := h.latest key other (OrderedMap.getElem?_filter.mp hother).1
  bestEffort other hother := h.bestEffort other (List.mem_filter.mp hother).1

theorem purge_critical {p : OutboundMessage → Bool} :
    (queue.purge p).critical = queue.critical.filter fun message => !p message := rfl

/-! ## Evicting -/

/-- What an eviction leaves: nothing new, and the critical class as it was. -/
structure Evicts (queue queue' : OutboundQueue) : Prop where
  wellFormed : queue'.WellFormed
  critical : queue'.critical = queue.critical
  config : queue'.config = queue.config
  holds : ∀ message, queue'.Holds message → queue.Holds message

theorem Evicts.refl (h : queue.WellFormed) : Evicts queue queue := ⟨h, rfl, rfl, fun _ h => h⟩

theorem evictOldestLatest_evicts {key : ScopedCoalesceKey} (h : queue.WellFormed)
    (hevict : queue.evictOldestLatest = some (key, queue')) : Evicts queue queue' := by
  unfold evictOldestLatest at hevict
  split at hevict
  · cases hevict
  rename_i first rest horder
  obtain ⟨rfl, rfl⟩ := by simpa using hevict
  have hnodup := h.nodup
  rw [horder, List.nodup_cons] at hnodup
  refine ⟨⟨hnodup.2, ?_, h.critical, ?_, h.bestEffort⟩, rfl, rfl, ?_⟩
  · intro other
    rw [OrderedMap.mem_erase, ← h.ordered other, horder, List.mem_cons]
    constructor
    · intro hin
      refine ⟨?_, .inr hin⟩
      rintro rfl
      exact hnodup.1 hin
    · rintro ⟨hne, heq | hin⟩
      · exact absurd heq hne
      · exact hin
  · intro other found hfound
    rw [OrderedMap.getElem?_erase] at hfound
    split at hfound
    · cases hfound
    · exact h.latest other found hfound
  · rintro found (hin | ⟨other, hin⟩ | hin)
    · exact .inl hin
    · rw [OrderedMap.getElem?_erase] at hin
      split at hin
      · cases hin
      · exact .inr (.inl ⟨other, hin⟩)
    · exact .inr (.inr hin)

theorem evictBestEffort_evicts (h : queue.WellFormed)
    (hevict : queue.evictBestEffort = some queue') : Evicts queue queue' := by
  unfold evictBestEffort at hevict
  split at hevict
  · cases hevict
  rename_i first rest hqueue
  obtain rfl := by simpa using hevict
  refine ⟨⟨h.nodup, h.ordered, h.critical, h.latest, ?_⟩, rfl, rfl, ?_⟩
  · intro other hother
    exact h.bestEffort other (hqueue ▸ List.mem_cons_of_mem _ hother)
  · rintro found (hin | hin | hin)
    · exact .inl hin
    · exact .inr (.inl hin)
    · exact .inr (.inr (hqueue ▸ List.mem_cons_of_mem _ hin))

theorem evictForCritical_evicts (h : queue.WellFormed) : Evicts queue queue.evictForCritical.2 := by
  unfold evictForCritical
  split
  · cases hlatest : queue.evictOldestLatest with
    | some evicted => exact evictOldestLatest_evicts h hlatest
    | none =>
      cases hbest : queue.evictBestEffort with
      | some queue' => exact evictBestEffort_evicts h hbest
      | none => exact .refl h
  · exact .refl h

/-! ## Pushing -/

/-- What a push does to a queue. -/
structure Pushes (queue : OutboundQueue) (message : OutboundMessage) (result : QueuePush)
    (queue' : OutboundQueue) : Prop where
  wellFormed : queue'.WellFormed
  config : queue'.config = queue.config
  holds : ∀ other, queue'.Holds other → other = message ∨ queue.Holds other
  critical : queue'.critical =
    if message.delivery.isCritical = true ∧ result ≠ .criticalCapacityExhausted then
      queue.critical ++ [message]
    else queue.critical
  exhausted : result = .criticalCapacityExhausted ↔ message.delivery.isCritical = true ∧
    queue.critical.length = queue.config.criticalCapacity

theorem eviction_not_exhausted (eviction : Option QueueEviction) :
    eviction.elim QueuePush.queued QueuePush.queuedCriticalAfterEviction ≠
      QueuePush.criticalCapacityExhausted := by
  cases eviction <;> simp

theorem pushCritical_pushes (h : queue.WellFormed)
    (hcritical : message.delivery.isCritical = true) :
    Pushes queue message (queue.pushCritical message).1 (queue.pushCritical message).2 := by
  unfold pushCritical
  split
  · rename_i hfull
    refine ⟨⟨h.nodup, h.ordered, h.critical, h.latest, h.bestEffort⟩, rfl,
      fun _ h => .inr h, ?_, ?_⟩
    · simp
    · simp [hcritical, hfull]
  · rename_i hroom
    have hevicts := evictForCritical_evicts h
    refine ⟨⟨hevicts.wellFormed.nodup, hevicts.wellFormed.ordered, ?_, hevicts.wellFormed.latest,
      hevicts.wellFormed.bestEffort⟩, hevicts.config, ?_, ?_, ?_⟩
    · intro other hother
      rcases List.mem_append.mp hother with hother | hother
      · exact hevicts.wellFormed.critical other hother
      · rw [List.mem_singleton.mp hother, hcritical]
    · rintro other (hin | hin | hin)
      · rcases List.mem_append.mp hin with hin | hin
        · exact .inr (hevicts.holds other (.inl hin))
        · exact .inl (List.mem_singleton.mp hin)
      · exact .inr (hevicts.holds other (.inr (.inl hin)))
      · exact .inr (hevicts.holds other (.inr (.inr hin)))
    · simp [hcritical, hevicts.critical, eviction_not_exhausted]
    · simp [hroom, eviction_not_exhausted]

theorem insertLatest_wellFormed {key : ScopedCoalesceKey} (h : queue.WellFormed)
    (hmessage : message.delivery.isCritical = false) (hfresh : key ∉ queue.latest) :
    (queue.insertLatest key message).WellFormed where
  nodup := by
    have hnot := mt (h.ordered key).mp hfresh
    exact List.nodup_append.mpr ⟨h.nodup, by simp, by rintro a ha b hb rfl; simp_all⟩
  ordered other := by
    unfold insertLatest
    rw [OrderedMap.mem_insert, List.mem_append, List.mem_singleton, h.ordered]
    tauto
  critical := h.critical
  latest other found hfound := by
    rw [insertLatest, OrderedMap.getElem?_insert] at hfound
    split at hfound
    · rwa [← Option.some.inj hfound]
    · exact h.latest other found hfound
  bestEffort := h.bestEffort

theorem holds_insertLatest {key : ScopedCoalesceKey} {other : OutboundMessage}
    (h : (queue.insertLatest key message).Holds other) : other = message ∨ queue.Holds other := by
  rcases h with hin | ⟨found, hin⟩ | hin
  · exact .inr (.inl hin)
  · rw [insertLatest, OrderedMap.getElem?_insert] at hin
    split at hin
    · exact .inl (Option.some.inj hin).symm
    · exact .inr (.inr (.inl ⟨found, hin⟩))
  · exact .inr (.inr (.inr hin))

/-- Storing a value after an eviction, the shape of every end of `push_latest` but one. -/
theorem Evicts.insertLatest {key : ScopedCoalesceKey} (h : Evicts queue queue')
    (hmessage : message.delivery.isCritical = false) (hfresh : key ∉ queue'.latest)
    {result : QueuePush} (hresult : result ≠ .criticalCapacityExhausted) :
    Pushes queue message result (queue'.insertLatest key message) where
  wellFormed := insertLatest_wellFormed h.wellFormed hmessage hfresh
  config := h.config
  holds other hother := (holds_insertLatest hother).imp_right (h.holds other)
  critical := by simp [hmessage, OutboundQueue.insertLatest, h.critical]
  exhausted := by simp [hmessage, hresult]

/-- A push that leaves the queue as it is. -/
theorem Pushes.drop (h : queue.WellFormed) (hmessage : message.delivery.isCritical = false)
    {result : QueuePush} (hresult : result ≠ .criticalCapacityExhausted) :
    Pushes queue message result queue :=
  ⟨h, rfl, fun _ h => .inr h, by simp [hmessage], by simp [hmessage, hresult]⟩

theorem evictOldestLatest_latest {key : ScopedCoalesceKey}
    (h : queue.evictOldestLatest = some (key, queue')) {other : ScopedCoalesceKey}
    (hother : other ∉ queue.latest) : other ∉ queue'.latest := by
  unfold evictOldestLatest at h
  split at h
  · cases h
  · obtain ⟨rfl, rfl⟩ := by simpa using h
    exact fun hin => hother (OrderedMap.mem_erase.mp hin).2

theorem evictBestEffort_latest (h : queue.evictBestEffort = some queue') :
    queue'.latest = queue.latest := by
  unfold evictBestEffort at h
  split at h
  · cases h
  · obtain rfl := by simpa using h
    rfl

/-- The order of a full class is not empty, so the eviction that `push_latest` expects exists. -/
theorem WellFormed.evictOldestLatest_isSome (h : queue.WellFormed) (hsize : queue.latest.size ≠ 0) :
    ∃ key queue', queue.evictOldestLatest = some (key, queue') := by
  have hlength := h.length_latestOrder
  unfold evictOldestLatest
  cases horder : queue.latestOrder with
  | nil =>
    rw [horder, List.length_nil] at hlength
    omega
  | cons key rest => exact ⟨key, _, rfl⟩

theorem replaceLatest_pushes {key : ScopedCoalesceKey} (h : queue.WellFormed)
    (hmessage : message.delivery.isCritical = false) :
    Pushes queue message .replacedLatest
      { queue with
        latest := queue.latest.insert key message
        latestOrder := queue.latestOrder.filter (· ≠ key) ++ [key] } := by
  refine ⟨⟨?_, ?_, h.critical, ?_, h.bestEffort⟩, rfl, ?_, by simp [hmessage], by simp [hmessage]⟩
  · refine List.nodup_append.mpr ⟨h.nodup.filter _, by simp, ?_⟩
    rintro a ha b hb rfl
    simp_all
  · intro other
    rw [OrderedMap.mem_insert, List.mem_append, List.mem_filter, List.mem_singleton, h.ordered,
      decide_eq_true_eq]
    by_cases heq : other = key <;> simp [heq]
  · intro other found hfound
    rw [OrderedMap.getElem?_insert] at hfound
    split at hfound
    · rwa [← Option.some.inj hfound]
    · exact h.latest other found hfound
  · rintro other (hin | ⟨found, hin⟩ | hin)
    · exact .inr (.inl hin)
    · rw [OrderedMap.getElem?_insert] at hin
      split at hin
      · exact .inl (Option.some.inj hin).symm
      · exact .inr (.inr (.inl ⟨found, hin⟩))
    · exact .inr (.inr (.inr hin))

theorem pushLatest_pushes {key : ScopedCoalesceKey} (h : queue.WellFormed)
    (hmessage : message.delivery.isCritical = false)
    (hkey : message.scopedCoalesceKey = some key) :
    ∃ result queue', queue.pushLatest message = .ok (result, queue') ∧
      Pushes queue message result queue' := by
  unfold pushLatest
  rw [hkey, Option.okOr_some]
  simp only [bind, Except.bind, pure, Except.pure]
  by_cases hin : key ∈ queue.latest
  · rw [if_pos hin]
    exact ⟨_, _, rfl, replaceLatest_pushes h hmessage⟩
  rw [if_neg hin]
  by_cases hzero : queue.config.latestCapacity = 0
  · rw [if_pos hzero]
    exact ⟨_, _, rfl, .drop h hmessage (by simp)⟩
  rw [if_neg hzero]
  by_cases hfull : queue.latest.size = queue.config.latestCapacity
  · rw [if_pos hfull]
    obtain ⟨evicted, queue', hevict⟩ := h.evictOldestLatest_isSome (by omega)
    rw [hevict]
    exact ⟨_, _, rfl, (evictOldestLatest_evicts h hevict).insertLatest hmessage
      (evictOldestLatest_latest hevict hin) (by simp)⟩
  rw [if_neg hfull]
  by_cases htotal : queue.len = queue.config.totalCapacity
  · rw [if_pos htotal]
    cases hlatest : queue.evictOldestLatest with
    | some evicted =>
      exact ⟨_, _, rfl, (evictOldestLatest_evicts h hlatest).insertLatest hmessage
        (evictOldestLatest_latest hlatest hin) (by simp)⟩
    | none =>
      cases hbest : queue.evictBestEffort with
      | some queue' =>
        exact ⟨_, _, rfl, (evictBestEffort_evicts h hbest).insertLatest hmessage
          (evictBestEffort_latest hbest ▸ hin) (by simp)⟩
      | none => exact ⟨_, _, rfl, .drop h hmessage (by simp)⟩
  · rw [if_neg htotal]
    exact ⟨_, _, rfl, (Evicts.refl h).insertLatest hmessage hin (by simp)⟩

theorem pushBestEffort_pushes (h : queue.WellFormed)
    (hmessage : message.delivery.isCritical = false) :
    Pushes queue message (queue.pushBestEffort message).1 (queue.pushBestEffort message).2 := by
  unfold pushBestEffort
  split
  · exact .drop h hmessage (by simp)
  · refine ⟨⟨h.nodup, h.ordered, h.critical, h.latest, ?_⟩, rfl, ?_, by simp [hmessage],
      by simp [hmessage]⟩
    · intro other hother
      rcases List.mem_append.mp hother with hother | hother
      · exact h.bestEffort other hother
      · rw [List.mem_singleton.mp hother, hmessage]
    · rintro other (hin | hin | hin)
      · exact .inr (.inl hin)
      · exact .inr (.inr (.inl hin))
      · rcases List.mem_append.mp hin with hin | hin
        · exact .inr (.inr (.inr hin))
        · exact .inl (List.mem_singleton.mp hin)

/-- A push of a message that has the key its class needs does not fail. -/
theorem push_pushes (h : queue.WellFormed)
    (hkey : message.delivery.isReplaceable = true → message.coalesceKey.isSome = true) :
    ∃ result queue', queue.push message = .ok (result, queue') ∧
      Pushes queue message result queue' := by
  unfold push
  by_cases hcritical : message.delivery.isCritical = true
  · rw [if_pos hcritical]
    exact ⟨_, _, rfl, pushCritical_pushes h hcritical⟩
  rw [if_neg hcritical]
  rw [Bool.not_eq_true] at hcritical
  by_cases hreplaceable : message.delivery.isReplaceable = true
  · rw [if_pos hreplaceable]
    obtain ⟨application, happlication⟩ := Option.isSome_iff_exists.mp (hkey hreplaceable)
    exact pushLatest_pushes h hcritical
      (by rw [OutboundMessage.scopedCoalesceKey, happlication]; rfl)
  · rw [if_neg hreplaceable]
    exact ⟨_, _, rfl, pushBestEffort_pushes h hcritical⟩

/-- A push that ends does what a push does. -/
theorem pushes_of_push {result : QueuePush} (h : queue.WellFormed)
    (hpush : queue.push message = .ok (result, queue')) : Pushes queue message result queue' := by
  have hkey : message.delivery.isReplaceable = true → message.coalesceKey.isSome = true := by
    intro hreplaceable
    rw [Option.isSome_iff_ne_none]
    intro hnone
    cases hcritical : message.delivery.isCritical with
    | true => cases hdelivery : message.delivery <;> simp_all [DeliveryClass.isCritical,
        DeliveryClass.isReplaceable]
    | false => simp [push, hcritical, hreplaceable, pushLatest,
        OutboundMessage.scopedCoalesceKey, hnone] at hpush
  obtain ⟨result', queue'', hpush', hpushes⟩ := push_pushes h hkey
  rw [hpush'] at hpush
  cases hpush
  exact hpushes

/-! ## Draining -/

/-- The number of rounds a drain takes. -/
def rounds (queue : OutboundQueue) : Nat :=
  queue.critical.length + queue.latestOrder.length + queue.bestEffort.length

/-- What a pop that finds something does. -/
structure Pops (queue : OutboundQueue) (message : OutboundMessage) (queue' : OutboundQueue) :
    Prop where
  wellFormed : queue'.WellFormed
  config : queue'.config = queue.config
  held : queue.Holds message
  holds : ∀ other, queue'.Holds other → queue.Holds other
  critical : queue.critical =
    [message].filter (fun message => message.delivery.isCritical) ++ queue'.critical
  rounds : queue.rounds = queue'.rounds + 1

theorem pop_pops (h : queue.WellFormed) :
    (queue.pop = (none, queue) ∧ queue.rounds = 0) ∨
      ∃ message queue', queue.pop = (some message, queue') ∧ Pops queue message queue' := by
  unfold pop rounds
  cases hcritical : queue.critical with
  | cons message rest =>
    right
    refine ⟨message, _, rfl, ⟨h.nodup, h.ordered, ?_, h.latest, h.bestEffort⟩, rfl, ?_, ?_, ?_, ?_⟩
    · exact fun other hother => h.critical other (hcritical ▸ List.mem_cons_of_mem _ hother)
    · exact .inl (hcritical ▸ List.mem_cons_self)
    · rintro other (hin | hin)
      · exact .inl (hcritical ▸ List.mem_cons_of_mem _ hin)
      · exact .inr hin
    · simp [hcritical, h.critical message (hcritical ▸ List.mem_cons_self)]
    · simp [rounds, hcritical]
      omega
  | nil =>
    cases horder : queue.latestOrder with
    | cons key rest =>
      right
      have hkey : key ∈ queue.latest := (h.ordered key).mp (horder ▸ List.mem_cons_self)
      obtain ⟨message, hmessage⟩ := OrderedMap.exists_of_mem hkey
      have hevicts := evictOldestLatest_evicts h
        (show queue.evictOldestLatest = some (key, { queue with
          latestOrder := rest, latest := queue.latest.erase key }) by
          rw [evictOldestLatest, horder])
      refine ⟨message, { queue with latestOrder := rest, latest := queue.latest.erase key }, ?_,
        hevicts.wellFormed, rfl, .inr (.inl ⟨key, hmessage⟩), hevicts.holds, ?_, ?_⟩
      · simp only [hmessage, hcritical]
      · simp [hcritical, h.latest key message hmessage]
      · simp [rounds, horder]
        omega
    | nil =>
      cases hbest : queue.bestEffort with
      | cons message rest =>
        right
        have hevicts := evictBestEffort_evicts h
          (show queue.evictBestEffort = some { queue with bestEffort := rest } by
            rw [evictBestEffort, hbest])
        refine ⟨message, { queue with bestEffort := rest }, ?_, hevicts.wellFormed, rfl,
          .inr (.inr (hbest ▸ List.mem_cons_self)), hevicts.holds, ?_, ?_⟩
        · simp only [hcritical, horder]
        · simp [hcritical, h.bestEffort message (hbest ▸ List.mem_cons_self)]
        · simp [rounds, hbest]
          omega
      | nil => exact .inl ⟨rfl, rfl⟩

/-- What a drain does: it hands out what the queue held, the critical class in its order, and
leaves nothing. -/
structure Drains (queue : OutboundQueue) (messages : List OutboundMessage)
    (queue' : OutboundQueue) : Prop where
  wellFormed : queue'.WellFormed
  config : queue'.config = queue.config
  held : ∀ message ∈ messages, queue.Holds message
  empty : queue'.rounds = 0
  critical : messages.filter (fun message => message.delivery.isCritical) = queue.critical

theorem drainLoop_drains {fuel : Nat} (h : queue.WellFormed) (hfuel : queue.rounds < fuel)
    (messages : List OutboundMessage) :
    ∃ rest queue', drainLoop fuel queue messages = (messages ++ rest, queue') ∧
      Drains queue rest queue' := by
  induction fuel generalizing queue messages with
  | zero => omega
  | succ fuel ih =>
    unfold drainLoop
    rcases pop_pops h with ⟨hpop, hrounds⟩ | ⟨message, popped, hpop, hpops⟩
    · have hcritical : queue.critical = [] := by
        unfold rounds at hrounds
        exact List.eq_nil_of_length_eq_zero (by omega)
      refine ⟨[], queue, ?_, h, rfl, by simp, hrounds, by simp [hcritical]⟩
      rw [hpop, List.append_nil]
    · have hrounds := hpops.rounds
      obtain ⟨rest, queue', hloop, hdrains⟩ :=
        ih hpops.wellFormed (by omega) (messages ++ [message])
      refine ⟨message :: rest, queue', ?_, hdrains.wellFormed,
        hdrains.config.trans hpops.config, ?_, hdrains.empty, ?_⟩
      · rw [hpop]
        simp only
        rw [hloop, List.append_assoc, List.singleton_append]
      · intro other hother
        rcases List.mem_cons.mp hother with rfl | hother
        · exact hpops.held
        · exact hpops.holds other (hdrains.held other hother)
      · rw [← List.singleton_append, List.filter_append, hdrains.critical, hpops.critical]

theorem drain_drains (h : queue.WellFormed) : Drains queue queue.drain.1 queue.drain.2 := by
  obtain ⟨rest, queue', hloop, hdrains⟩ := drainLoop_drains h (Nat.lt_succ_self _) []
  have hdrain : queue.drain = (rest, queue') := hloop
  rw [hdrain]
  exact hdrains

theorem not_holds_of_rounds (h : queue.WellFormed) (hrounds : queue.rounds = 0) :
    ¬ queue.Holds message := by
  have hlength := h.length_latestOrder
  unfold rounds at hrounds
  rintro (hin | ⟨key, hin⟩ | hin)
  · have := List.length_pos_of_mem hin
    omega
  · have := List.length_pos_of_mem ((h.ordered key).mpr (OrderedMap.mem_of_getElem? hin))
    omega
  · have := List.length_pos_of_mem hin
    omega

end OutboundQueue

end Signalweave
