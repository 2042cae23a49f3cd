import Signalweave.QueueProps

/-!
# The part of a queue that belongs to one session

The messages of many sessions wait in one queue. What is purged of one session and what is pushed
for it leaves the part of every other session alone, unless the queue overflows.
-/

open Std

namespace Signalweave

namespace OutboundQueue

variable {queue queue' : OutboundQueue} {message : OutboundMessage} {session : SessionKey}
  {key : ScopedCoalesceKey}

/-- Every latest value is kept under its own key. -/
def Keyed (queue : OutboundQueue) : Prop :=
  ∀ (key : ScopedCoalesceKey) (message : OutboundMessage),
    queue.latest[key]? = some message → message.scopedCoalesceKey = some key

theorem keyed_start (config : OutboundQueueConfig) : Keyed { config } := by
  intro key message h
  simp at h

theorem Keyed.purge {p : OutboundMessage → Bool} (h : queue.Keyed) : (queue.purge p).Keyed :=
  fun key message hin => h key message (OrderedMap.getElem?_filter.mp hin).1

theorem Keyed.evictOldestLatest (h : queue.Keyed)
    (hevict : queue.evictOldestLatest = some (key, queue')) : queue'.Keyed := by
  unfold OutboundQueue.evictOldestLatest at hevict
  split at hevict
  · cases hevict
  · cases hevict
    intro other message hin
    rw [OrderedMap.getElem?_erase] at hin
    split at hin
    · cases hin
    · exact h other message hin

theorem Keyed.evictBestEffort (h : queue.Keyed) (hevict : queue.evictBestEffort = some queue') :
    queue'.Keyed := by
  unfold OutboundQueue.evictBestEffort at hevict
  split at hevict
  · cases hevict
  · cases hevict
    exact h

theorem Keyed.insertLatest (h : queue.Keyed) (hkey : message.scopedCoalesceKey = some key) :
    (queue.insertLatest key message).Keyed := by
  intro other found hin
  replace hin : (queue.latest.insert key message)[other]? = some found := hin
  rw [OrderedMap.getElem?_insert] at hin
  split at hin
  · rename_i heq
    cases hin
    rw [heq]
    exact hkey
  · exact h other found hin

/-- A message is of the session its key names. -/
theorem sessionKey_of_scopedCoalesceKey (h : message.scopedCoalesceKey = some key) :
    message.sessionKey = ⟨key.namespaceId, key.session⟩ := by
  obtain ⟨application, -, rfl⟩ := Option.map_eq_some_iff.mp h
  rfl

/-! ## The part of a session -/

theorem purge_purge {p q : OutboundMessage → Bool} :
    (queue.purge p).purge q = queue.purge fun message => p message || q message := by
  have hkept : ∀ message, (!q message && !p message) = !(p message || q message) := by
    intro message
    rw [Bool.not_or, Bool.and_comm]
  have hlatest : (queue.latest.filter fun _ message => !p message).filter
      (fun _ message => !q message) =
        queue.latest.filter fun _ message => !(p message || q message) := by
    apply ExtTreeMap.ext_getElem?
    intro key
    apply Option.ext
    intro message
    rw [OrderedMap.getElem?_filter, OrderedMap.getElem?_filter, OrderedMap.getElem?_filter,
      and_assoc, ← Bool.and_eq_true, Bool.and_comm, hkept]
  have horder : (queue.latestOrder.filter fun key =>
      key ∈ queue.latest.filter fun _ message => !p message).filter
        (fun key => key ∈ queue.latest.filter fun _ message => !(p message || q message)) =
      queue.latestOrder.filter fun key =>
        key ∈ queue.latest.filter fun _ message => !(p message || q message) := by
    rw [List.filter_filter]
    apply List.filter_congr
    intro key _
    rw [← hlatest]
    by_cases hkey : key ∈ (queue.latest.filter fun _ message => !p message).filter
        fun _ message => !q message
    · simp [hkey, ExtTreeMap.mem_of_mem_filter hkey]
    · simp [hkey]
  unfold OutboundQueue.purge
  simp only [List.filter_filter, hkept, hlatest, horder]

/-- What a queue holds of one session, in its order. -/
def part (queue : OutboundQueue) (session : SessionKey) : OutboundQueue :=
  { queue.purge (fun message => message.sessionKey ≠ session) with
    criticalCapacityExhausted := false }

theorem part_ext (hconfig : queue'.config = queue.config)
    (hcritical : queue'.critical.filter (fun message => message.sessionKey = session) =
      queue.critical.filter fun message => message.sessionKey = session)
    (hbest : queue'.bestEffort.filter (fun message => message.sessionKey = session) =
      queue.bestEffort.filter fun message => message.sessionKey = session)
    (hlatest : queue'.latest.filter (fun _ message => message.sessionKey = session) =
      queue.latest.filter fun _ message => message.sessionKey = session)
    (horder : queue'.latestOrder.filter (fun key => key ∈ queue.latest.filter
        fun _ message => message.sessionKey = session) =
      queue.latestOrder.filter fun key => key ∈ queue.latest.filter
        fun _ message => message.sessionKey = session) :
    queue'.part session = queue.part session := by
  unfold part OutboundQueue.purge
  simp only [ne_eq, decide_not, Bool.not_not, hconfig, hcritical, hbest, hlatest, horder]

theorem part_purge {p : OutboundMessage → Bool}
    (h : ∀ message, p message = true → message.sessionKey ≠ session) :
    (queue.purge p).part session = queue.part session := by
  unfold part
  rw [purge_purge]
  have hgone : (fun message => p message || decide (message.sessionKey ≠ session)) =
      fun message => decide (message.sessionKey ≠ session) := by
    funext message
    cases hp : p message with
    | true => simp [h message hp]
    | false => rfl
  rw [hgone]

/-! ## What a push for another session does -/

theorem part_critical (h : message.sessionKey ≠ session) :
    { queue with critical := queue.critical ++ [message] }.part session = queue.part session := by
  apply part_ext <;> simp [h]

theorem part_bestEffort (h : message.sessionKey ≠ session) :
    { queue with bestEffort := queue.bestEffort ++ [message] }.part session =
      queue.part session := by
  apply part_ext <;> simp [h]

/-- A value that is not of the session comes in the place of one that is not. -/
theorem filter_latest (h : message.sessionKey ≠ session)
    (hold : ∀ found, queue.latest[key]? = some found → found.sessionKey ≠ session) :
    (queue.latest.insert key message).filter (fun _ message => message.sessionKey = session) =
      queue.latest.filter fun _ message => message.sessionKey = session := by
  apply OrderedMap.filter_insert_of_neg
  · simpa using h
  · exact fun found hfound => by simpa using hold found hfound

theorem not_mem_filter_latest
    (hold : ∀ found, queue.latest[key]? = some found → found.sessionKey ≠ session) :
    key ∉ queue.latest.filter fun _ message => message.sessionKey = session := by
  intro hin
  obtain ⟨found, hfound⟩ := OrderedMap.exists_of_mem hin
  obtain ⟨hfound, hsame⟩ := OrderedMap.getElem?_filter.mp hfound
  exact hold found hfound (of_decide_eq_true hsame)

theorem part_insertLatest (h : message.sessionKey ≠ session) (hkey : key ∉ queue.latest) :
    (queue.insertLatest key message).part session = queue.part session := by
  have hold : ∀ found, queue.latest[key]? = some found → found.sessionKey ≠ session :=
    fun found hfound => absurd (OrderedMap.mem_of_getElem? hfound) hkey
  apply part_ext
  · rfl
  · rfl
  · rfl
  · exact filter_latest h hold
  · show (queue.latestOrder ++ [key]).filter _ = _
    have hout := not_mem_filter_latest hold
    rw [List.filter_append, List.filter_cons_of_neg (by simpa using hout), List.filter_nil,
      List.append_nil]

theorem part_replaceLatest (h : message.sessionKey ≠ session)
    (hold : ∀ found, queue.latest[key]? = some found → found.sessionKey ≠ session) :
    { queue with
      latest := queue.latest.insert key message
      latestOrder := queue.latestOrder.filter (· ≠ key) ++ [key] }.part session =
        queue.part session := by
  have hout := not_mem_filter_latest hold
  apply part_ext
  · rfl
  · rfl
  · rfl
  · exact filter_latest h hold
  · show (queue.latestOrder.filter (· ≠ key) ++ [key]).filter _ = _
    rw [List.filter_append, List.filter_cons_of_neg (by simpa using hout), List.filter_nil,
      List.append_nil, List.filter_filter]
    apply List.filter_congr
    intro other _
    by_cases hother : other = key
    · subst hother
      simp [hout]
    · simp [hother]

/-- At capacity the oldest latest value or the oldest best-effort message is given up. -/
structure Overflows (queue queue' : OutboundQueue) : Prop where
  full : queue.len = queue.config.totalCapacity ∨
    queue.latest.size = queue.config.latestCapacity
  evicted : (∃ key, queue.evictOldestLatest = some (key, queue')) ∨
    queue.evictBestEffort = some queue'

/-- The part of a session is the same in both queues, but for what an overflow gives up. -/
def Spares (session : SessionKey) (queue queue' : OutboundQueue) : Prop :=
  queue'.part session = queue.part session ∨
    ∃ full, Overflows queue full ∧ queue'.part session = full.part session

theorem evictForCritical_overflows :
    queue.evictForCritical.2 = queue ∨ Overflows queue queue.evictForCritical.2 := by
  unfold evictForCritical
  split
  · rename_i hfull
    cases hlatest : queue.evictOldestLatest with
    | some evicted => exact .inr ⟨.inl hfull, .inl ⟨evicted.1, hlatest⟩⟩
    | none =>
      cases hbest : queue.evictBestEffort with
      | some mid => exact .inr ⟨.inl hfull, .inr hbest⟩
      | none => exact .inl rfl
  · exact .inl rfl

theorem pushCritical_spares (h : message.sessionKey ≠ session) :
    Spares session queue (queue.pushCritical message).2 := by
  unfold pushCritical
  split
  · exact .inl rfl
  · show Spares session queue { queue.evictForCritical.2 with
      critical := queue.evictForCritical.2.critical ++ [message] }
    rw [Spares, part_critical h]
    rcases @evictForCritical_overflows queue with hsame | hover
    · exact .inl (by rw [hsame])
    · exact .inr ⟨_, hover, rfl⟩

theorem pushBestEffort_spares (h : message.sessionKey ≠ session) :
    Spares session queue (queue.pushBestEffort message).2 := by
  unfold pushBestEffort
  split
  · exact .inl rfl
  · exact .inl (part_bestEffort h)

theorem pushLatest_spares {result : QueuePush} (hkeyed : queue.Keyed)
    (h : message.sessionKey ≠ session)
    (hpush : queue.pushLatest message = .ok (result, queue')) : Spares session queue queue' := by
  unfold pushLatest at hpush
  cases hkey : message.scopedCoalesceKey with
  | none =>
    rw [hkey] at hpush
    cases hpush
  | some key =>
    have hold : ∀ found, queue.latest[key]? = some found → found.sessionKey ≠ session := by
      intro found hfound
      rwa [sessionKey_of_scopedCoalesceKey (hkeyed key found hfound),
        ← sessionKey_of_scopedCoalesceKey hkey]
    rw [hkey, Option.okOr_some] at hpush
    simp only [bind, Except.bind, pure, Except.pure] at hpush
    by_cases hin : key ∈ queue.latest
    · rw [if_pos hin] at hpush
      cases hpush
      exact .inl (part_replaceLatest h hold)
    rw [if_neg hin] at hpush
    by_cases hzero : queue.config.latestCapacity = 0
    · rw [if_pos hzero] at hpush
      cases hpush
      exact .inl rfl
    rw [if_neg hzero] at hpush
    by_cases hfull : queue.latest.size = queue.config.latestCapacity
    · rw [if_pos hfull] at hpush
      cases hlatest : queue.evictOldestLatest with
      | none =>
        rw [hlatest] at hpush
        cases hpush
      | some evicted =>
        rw [hlatest] at hpush
        cases hpush
        exact .inr ⟨_, ⟨.inr hfull, .inl ⟨_, hlatest⟩⟩,
          part_insertLatest h (evictOldestLatest_latest hlatest hin)⟩
    rw [if_neg hfull] at hpush
    by_cases htotal : queue.len = queue.config.totalCapacity
    · rw [if_pos htotal] at hpush
      cases hlatest : queue.evictOldestLatest with
      | some evicted =>
        rw [hlatest] at hpush
        cases hpush
        exact .inr ⟨_, ⟨.inl htotal, .inl ⟨_, hlatest⟩⟩,
          part_insertLatest h (evictOldestLatest_latest hlatest hin)⟩
      | none =>
        rw [hlatest] at hpush
        cases hbest : queue.evictBestEffort with
        | some full =>
          rw [hbest] at hpush
          cases hpush
          exact .inr ⟨_, ⟨.inl htotal, .inr hbest⟩,
            part_insertLatest h (evictBestEffort_latest hbest ▸ hin)⟩
        | none =>
          rw [hbest] at hpush
          cases hpush
          exact .inl rfl
    · rw [if_neg htotal] at hpush
      cases hpush
      exact .inl (part_insertLatest h hin)

/-- A push for one session leaves the part of another one alone, unless the queue overflows:
their coalesce keys never meet. -/
theorem push_spares {result : QueuePush} (hkeyed : queue.Keyed) (h : message.sessionKey ≠ session)
    (hpush : queue.push message = .ok (result, queue')) : Spares session queue queue' := by
  unfold push at hpush
  split at hpush
  · obtain rfl := congrArg Prod.snd (Except.ok.inj hpush)
    exact pushCritical_spares h
  · split at hpush
    · exact pushLatest_spares hkeyed h hpush
    · obtain rfl := congrArg Prod.snd (Except.ok.inj hpush)
      exact pushBestEffort_spares h

/-! ## Keys stay with their values -/

theorem Keyed.evictForCritical (h : queue.Keyed) : queue.evictForCritical.2.Keyed := by
  rcases @evictForCritical_overflows queue with hsame | hover
  · rw [hsame]
    exact h
  · rcases hover.evicted with ⟨key, hlatest⟩ | hbest
    · exact h.evictOldestLatest hlatest
    · exact h.evictBestEffort hbest

theorem Keyed.pushLatest {result : QueuePush} (h : queue.Keyed)
    (hpush : queue.pushLatest message = .ok (result, queue')) : queue'.Keyed := by
  unfold OutboundQueue.pushLatest at hpush
  cases hkey : message.scopedCoalesceKey with
  | none =>
    rw [hkey] at hpush
    cases hpush
  | some key =>
    rw [hkey, Option.okOr_some] at hpush
    simp only [bind, Except.bind, pure, Except.pure] at hpush
    split at hpush
    · cases hpush
      exact h.insertLatest hkey
    split at hpush
    · cases hpush
      exact h
    split at hpush
    · cases hlatest : queue.evictOldestLatest with
      | none =>
        rw [hlatest] at hpush
        cases hpush
      | some evicted =>
        rw [hlatest] at hpush
        cases hpush
        exact (h.evictOldestLatest hlatest).insertLatest hkey
    split at hpush
    · cases hlatest : queue.evictOldestLatest with
      | some evicted =>
        rw [hlatest] at hpush
        cases hpush
        exact (h.evictOldestLatest hlatest).insertLatest hkey
      | none =>
        rw [hlatest] at hpush
        cases hbest : queue.evictBestEffort with
        | some full =>
          rw [hbest] at hpush
          cases hpush
          exact (h.evictBestEffort hbest).insertLatest hkey
        | none =>
          rw [hbest] at hpush
          cases hpush
          exact h
    · cases hpush
      exact h.insertLatest hkey

theorem Keyed.push {result : QueuePush} (h : queue.Keyed)
    (hpush : queue.push message = .ok (result, queue')) : queue'.Keyed := by
  unfold OutboundQueue.push at hpush
  split at hpush
  · obtain rfl := congrArg Prod.snd (Except.ok.inj hpush)
    unfold pushCritical
    split
    · exact h
    · exact h.evictForCritical
  · split at hpush
    · exact h.pushLatest hpush
    · obtain rfl := congrArg Prod.snd (Except.ok.inj hpush)
      unfold pushBestEffort
      split <;> exact h

theorem Keyed.drain (h : queue.WellFormed) : queue.drain.2.Keyed := by
  have hdrains := drain_drains h
  intro key message hin
  exact absurd (.inr (.inl ⟨key, hin⟩))
    (not_holds_of_rounds hdrains.wellFormed hdrains.empty)

end OutboundQueue

end Signalweave
