import Signalweave.Core.Reliable
import Signalweave.Core.Worker
import Signalweave.QueueRuns

/-!
# Metrics (`metrics.rs`, `observe_command`)

The counters of a server process. What a publication lost is not read from the queues: it is summed
up from the answers that their pushes gave.
-/

open Std

namespace Signalweave

open Stateful WovenCore

/-- `ServerMetrics`. The counters are those of a process that does not wrap any of them. -/
structure ServerMetrics where
  connectionsTotal : Nat := 0
  authenticateRejectedTotal : Nat := 0
  joinRejectedTotal : Nat := 0
  publishesTotal : Nat := 0
  transformPublishesTotal : Nat := 0
  publishBytesReceivedTotal : Nat := 0
  publishBytesDeliveredTotal : Nat := 0
  eventsDeliveredTotal : Nat := 0
  queueDroppedTotal : Nat := 0
  queueEvictedTotal : Nat := 0
  deriving DecidableEq

namespace ServerMetrics

/-- `record_connected`. -/
def recordConnected (metrics : ServerMetrics) : ServerMetrics :=
  { metrics with connectionsTotal := metrics.connectionsTotal + 1 }

/-- `record_authenticate_rejected`. -/
def recordAuthenticateRejected (metrics : ServerMetrics) : ServerMetrics :=
  { metrics with authenticateRejectedTotal := metrics.authenticateRejectedTotal + 1 }

/-- `record_join_rejected`. -/
def recordJoinRejected (metrics : ServerMetrics) : ServerMetrics :=
  { metrics with joinRejectedTotal := metrics.joinRejectedTotal + 1 }

/-- `record_publish`. -/
def recordPublish (metrics : ServerMetrics) (payloadBytes : Nat) (isTransform : Bool) :
    ServerMetrics :=
  { metrics with
    publishesTotal := metrics.publishesTotal + 1
    publishBytesReceivedTotal := metrics.publishBytesReceivedTotal + payloadBytes
    transformPublishesTotal :=
      if isTransform then metrics.transformPublishesTotal + 1 else metrics.transformPublishesTotal }

/-- `record_publish_outcome`: the product of the bytes saturates. -/
def recordPublishOutcome (metrics : ServerMetrics)
    (payloadBytes recipientAttempts dropped evicted : Nat) : ServerMetrics :=
  { metrics with
    eventsDeliveredTotal := metrics.eventsDeliveredTotal + recipientAttempts
    publishBytesDeliveredTotal :=
      metrics.publishBytesDeliveredTotal + min (payloadBytes * recipientAttempts) (2 ^ 64 - 1)
    queueDroppedTotal := metrics.queueDroppedTotal + dropped
    queueEvictedTotal := metrics.queueEvictedTotal + evicted }

end ServerMetrics

/-- `is_transform_publication`. -/
def isTransformPublication (request : PublishRequest) : Bool :=
  request.entity.isSome && request.delivery == .latestValue

/-- `MetricsContext`, without what only the log reads. -/
inductive MetricsContext where
  | none
  | connected
  | authenticate
  | join
  | publish (payloadBytes : Nat) (isTransform : Bool)

/-- `metrics_context`. A lost transport and a left session are logged and not counted. -/
def metricsContext : Command → MetricsContext
  | .transportConnected => .connected
  | .authenticate .. => .authenticate
  | .joinSession .. | .joinSessionWithAdmission .. => .join
  | .publish request _ _ _ => .publish request.payload.length (isTransformPublication request)
  | _ => .none

/-- The sum that `observe_command` adds to the messages dropped. -/
def QueueActivity.dropped (activity : QueueActivity) : Nat :=
  activity.droppedLatest + activity.droppedBestEffort + activity.criticalCapacityExhausted

/-- The sum that `observe_command` adds to the messages evicted. -/
def QueueActivity.evicted (activity : QueueActivity) : Nat :=
  activity.criticalEvictions + activity.evictedLatest + activity.replacedLatest

/-- `observe_command`. -/
def observeCommand (metrics : ServerMetrics) :
    MetricsContext → Except CoreError CommandResult → ServerMetrics
  | .connected, .ok (.connected _) => metrics.recordConnected
  | .authenticate, .error _ => metrics.recordAuthenticateRejected
  | .join, .error _ => metrics.recordJoinRejected
  | .publish payloadBytes isTransform, .ok (.published outcome) =>
    (metrics.recordPublish payloadBytes isTransform).recordPublishOutcome payloadBytes
      outcome.recipientAttempts outcome.queues.dropped outcome.queues.evicted
  | .publish payloadBytes isTransform, _ => metrics.recordPublish payloadBytes isTransform
  | _, _ => metrics

/-! ## What a queue loses -/

/-- A critical message takes the place of another one: the queue is full, not of critical messages
only, and the critical class has room. -/
def OutboundQueue.Displaces (queue : OutboundQueue) (message : OutboundMessage) : Prop :=
  message.delivery.isCritical = true ∧
    queue.critical.length ≠ queue.config.criticalCapacity ∧
    queue.len = queue.config.totalCapacity ∧ queue.critical.length < queue.len

instance (queue : OutboundQueue) (message : OutboundMessage) :
    Decidable (queue.Displaces message) := by
  unfold OutboundQueue.Displaces
  infer_instance

/-- A queue during a fan-out: nothing more is put to it once it has been found slow. `lost` counts
the messages that were in it, or were put to it, and are not in it. -/
structure Intake where
  queue : OutboundQueue
  slow : Bool := false
  lost : Nat := 0

namespace Intake

/-- A message is put to the queue, unless a critical one has found no room before. -/
def put (intake : Intake) (message : OutboundMessage) : Intake :=
  if intake.slow then intake
  else
    match intake.queue.push message with
    | .error _ => intake
    | .ok (result, queue) =>
      { queue
        slow := result = .criticalCapacityExhausted
        lost := intake.lost + (intake.queue.len + 1 - queue.len) }

/-- Messages are put to the queue one after the other. -/
def putAll (intake : Intake) (messages : List OutboundMessage) : Intake := messages.foldl put intake

/-- Of the messages that come, one takes the place of another. -/
def Displaces (intake : Intake) (messages : List OutboundMessage) : Prop :=
  ∃ before message after, messages = before ++ message :: after ∧
    (intake.putAll before).slow = false ∧ (intake.putAll before).queue.Displaces message

end Intake

namespace WovenCore

/-- The queue of a connection after the messages of a fan-out that reach it. -/
def intake (core : WovenCore) (key : SessionKey) (messages : List OutboundMessage)
    (connection : ConnectionId) : Intake :=
  Intake.putAll { queue := (core.connectionAt connection).outbound }
    (messages.filter (core.reaches key connection))

/-- The messages that a fan-out loses in the queues of all recipients. -/
def lost (core : WovenCore) (key : SessionKey) (messages : List OutboundMessage) : Nat :=
  OrderedMap.total (fun connection _ => (core.intake key messages connection).lost) core.connections

/-- In the queue of a connection a critical message of a fan-out takes the place of another one. -/
def Displaces (core : WovenCore) (key : SessionKey) (messages : List OutboundMessage)
    (connection : ConnectionId) : Prop :=
  Intake.Displaces { queue := (core.connectionAt connection).outbound }
    (messages.filter (core.reaches key connection))

end WovenCore

/-! ## What the answers to the pushes add up to -/

/-- What the answer to a push adds to the messages dropped and evicted. -/
def QueuePush.counted : QueuePush → Nat
  | .queued => 0
  | .queuedCriticalAfterEviction _ => 2
  | _ => 1

theorem counted_recordQueueResult (activity : QueueActivity) (result : QueuePush) :
    (recordQueueResult activity result).dropped + (recordQueueResult activity result).evicted =
      activity.dropped + activity.evicted + result.counted := by
  unfold QueueActivity.dropped QueueActivity.evicted QueuePush.counted
  cases result with
  | queuedCriticalAfterEviction eviction =>
    cases eviction <;> (simp only [recordQueueResult]; omega)
  | _ =>
    simp only [recordQueueResult]
    omega

namespace OutboundQueue

variable {queue queue' : OutboundQueue} {message : OutboundMessage} {result : QueuePush}

/-- Where the queue evicts for a critical message, it is full and not of critical messages only. -/
theorem evictForCritical_cases (hw : queue.WellFormed) :
    (queue.evictForCritical = (none, queue) ∧
      ¬ (queue.len = queue.config.totalCapacity ∧ queue.critical.length < queue.len)) ∨
    ∃ eviction freed, queue.evictForCritical = (some eviction, freed) ∧ Frees queue freed ∧
      queue.len = queue.config.totalCapacity := by
  unfold evictForCritical
  by_cases hfull : queue.len = queue.config.totalCapacity
  · rw [if_pos hfull]
    cases hlatest : queue.evictOldestLatest with
    | some evicted => exact .inr ⟨_, _, rfl, (evictOldestLatest_frees hw hlatest).1, hfull⟩
    | none =>
      cases hbest : queue.evictBestEffort with
      | some freed => exact .inr ⟨_, _, rfl, evictBestEffort_frees hbest, hfull⟩
      | none =>
        have hlen := len_of_not_evicted hw hlatest hbest
        refine .inl ⟨rfl, fun hmore => ?_⟩
        omega
  · rw [if_neg hfull]
    exact .inl ⟨rfl, fun hmore => hfull hmore.1⟩

/-- The answer to a push counts what the queue has lost by it, and one more where the message takes
the place of another one. -/
def Accounts (queue : OutboundQueue) (message : OutboundMessage) (result : QueuePush)
    (queue' : OutboundQueue) : Prop :=
  result.counted = (queue.len + 1 - queue'.len) + if queue.Displaces message then 1 else 0

theorem not_displaces (h : message.delivery.isCritical = false) : ¬ queue.Displaces message := by
  intro hdisplaces
  rw [hdisplaces.1] at h
  cases h

theorem pushCritical_accounts (hw : queue.WellFormed)
    (hcritical : message.delivery.isCritical = true) :
    Accounts queue message (queue.pushCritical message).1 (queue.pushCritical message).2 := by
  unfold Accounts pushCritical
  by_cases hroom : queue.critical.length = queue.config.criticalCapacity
  · have hnot : ¬ queue.Displaces message := fun h => h.2.1 hroom
    rw [if_pos hroom, if_neg hnot]
    show 1 = queue.len + 1 - queue.len + 0
    omega
  · rw [if_neg hroom]
    rcases evictForCritical_cases hw with ⟨hsame, hkept⟩ | ⟨eviction, freed, hevicts, hfrees, hfull⟩
    · have hnot : ¬ queue.Displaces message := fun h => hkept h.2.2
      rw [hsame, if_neg hnot]
      simp only [Option.elim_none, QueuePush.counted, len, List.length_append,
        List.length_singleton]
      omega
    · have hfreed := hfrees.freed
      have hless : queue.critical.length < queue.len := by
        rw [← hfrees.critical]
        rw [len] at hfreed
        omega
      rw [hevicts, if_pos ⟨hcritical, hroom, hfull, hless⟩]
      simp only [Option.elim_some, QueuePush.counted, len, List.length_append,
        List.length_singleton] at hfreed ⊢
      omega

theorem len_insertLatest {key : ScopedCoalesceKey} (hfresh : key ∉ queue.latest) :
    (queue.insertLatest key message).len = queue.len + 1 := by
  have hsize : (queue.latest.insert key message).size = queue.latest.size + 1 := by
    simp [ExtTreeMap.size_insert, hfresh]
  show queue.critical.length + (queue.latest.insert key message).size + queue.bestEffort.length = _
  rw [hsize, len]
  omega

/-- A value that is put in the place of a message that went. -/
theorem Frees.accounts {key : ScopedCoalesceKey} (hfrees : Frees queue queue')
    (hclass : message.delivery.isCritical = false) (hfresh : key ∉ queue'.latest)
    (hcounted : result.counted = 1) :
    Accounts queue message result (queue'.insertLatest key message) := by
  have hfreed := hfrees.freed
  rw [Accounts, if_neg (not_displaces hclass), len_insertLatest hfresh, hcounted]
  omega

theorem accounts_refused (hclass : message.delivery.isCritical = false)
    (hcounted : result.counted = 1) : Accounts queue message result queue := by
  rw [Accounts, if_neg (not_displaces hclass), hcounted]
  omega

theorem pushLatest_accounts (hw : queue.WellFormed) (hclass : message.delivery.isCritical = false)
    (hpush : queue.pushLatest message = .ok (result, queue')) :
    Accounts queue message result queue' := by
  unfold pushLatest at hpush
  cases hkey : message.scopedCoalesceKey with
  | none => simp [hkey] at hpush
  | some key =>
    rw [hkey, Option.okOr_some] at hpush
    simp only [bind, Except.bind, pure, Except.pure] at hpush
    by_cases hin : key ∈ queue.latest
    · rw [if_pos hin] at hpush
      cases hpush
      have hsize : (queue.latest.insert key message).size = queue.latest.size := by
        simp [ExtTreeMap.size_insert, hin]
      rw [Accounts, if_neg (not_displaces hclass)]
      simp only [QueuePush.counted, len, hsize]
      omega
    rw [if_neg hin] at hpush
    by_cases hzero : queue.config.latestCapacity = 0
    · rw [if_pos hzero] at hpush
      cases hpush
      exact accounts_refused hclass rfl
    rw [if_neg hzero] at hpush
    by_cases hfull : queue.latest.size = queue.config.latestCapacity
    · rw [if_pos hfull] at hpush
      obtain ⟨evicted, freed, hevict⟩ := hw.evictOldestLatest_isSome (by omega)
      rw [hevict] at hpush
      cases hpush
      exact (evictOldestLatest_frees hw hevict).1.accounts hclass
        (evictOldestLatest_latest hevict hin) rfl
    rw [if_neg hfull] at hpush
    by_cases hcrowded : queue.len = queue.config.totalCapacity
    · rw [if_pos hcrowded] at hpush
      cases hevict : queue.evictOldestLatest with
      | some evicted =>
        rw [hevict] at hpush
        cases hpush
        exact (evictOldestLatest_frees hw hevict).1.accounts hclass
          (evictOldestLatest_latest hevict hin) rfl
      | none =>
        cases hbest : queue.evictBestEffort with
        | some freed =>
          rw [hevict, hbest] at hpush
          cases hpush
          exact (evictBestEffort_frees hbest).accounts hclass
            (evictBestEffort_latest hbest ▸ hin) rfl
        | none =>
          rw [hevict, hbest] at hpush
          cases hpush
          exact accounts_refused hclass rfl
    · rw [if_neg hcrowded] at hpush
      cases hpush
      rw [Accounts, if_neg (not_displaces hclass), len_insertLatest hin]
      simp only [QueuePush.counted]
      omega

theorem pushBestEffort_accounts (hclass : message.delivery.isCritical = false) :
    Accounts queue message (queue.pushBestEffort message).1 (queue.pushBestEffort message).2 := by
  unfold pushBestEffort
  split
  · exact accounts_refused hclass rfl
  · rw [Accounts, if_neg (not_displaces hclass)]
    simp only [QueuePush.counted, len, List.length_append, List.length_singleton]
    omega

theorem push_accounts (hw : queue.WellFormed) (hpush : queue.push message = .ok (result, queue')) :
    Accounts queue message result queue' := by
  unfold push at hpush
  by_cases hcritical : message.delivery.isCritical = true
  · rw [if_pos hcritical] at hpush
    have haccounts := pushCritical_accounts hw hcritical
    rwa [Except.ok.inj hpush] at haccounts
  rw [if_neg hcritical] at hpush
  rw [Bool.not_eq_true] at hcritical
  split at hpush
  · exact pushLatest_accounts hw hcritical hpush
  · have haccounts : Accounts queue message (queue.pushBestEffort message).1
      (queue.pushBestEffort message).2 := pushBestEffort_accounts hcritical
    rwa [Except.ok.inj hpush] at haccounts

end OutboundQueue

namespace Intake

variable {intake : Intake} {message : OutboundMessage} {messages : List OutboundMessage}

theorem put_slow (h : intake.slow = true) : intake.put message = intake := if_pos h

theorem put_push {result : QueuePush} {queue : OutboundQueue} (h : intake.slow = false)
    (hpush : intake.queue.push message = .ok (result, queue)) :
    intake.put message = {
      queue
      slow := result = .criticalCapacityExhausted
      lost := intake.lost + (intake.queue.len + 1 - queue.len) } := by
  unfold put
  rw [if_neg (by simp [h])]
  simp only [hpush]

theorem putAll_append :
    intake.putAll (messages ++ [message]) = (intake.putAll messages).put message := by
  rw [putAll, List.foldl_append]
  rfl

/-- How many of the messages that come take the place of another one. -/
def displaced : Intake → List OutboundMessage → Nat
  | _, [] => 0
  | intake, message :: rest =>
    (if intake.slow = false ∧ intake.queue.Displaces message then 1 else 0) +
      displaced (intake.put message) rest

theorem displaced_append : intake.displaced (messages ++ [message]) = intake.displaced messages +
    if (intake.putAll messages).slow = false ∧ (intake.putAll messages).queue.Displaces message
    then 1 else 0 := by
  induction messages generalizing intake with
  | nil => exact Nat.add_comm _ 0
  | cons first rest ih =>
    rw [List.cons_append, displaced, displaced, ih, putAll, putAll, List.foldl_cons, Nat.add_assoc]

theorem displaced_eq_zero : intake.displaced messages = 0 ↔ ¬ intake.Displaces messages := by
  induction messages generalizing intake with
  | nil =>
    refine iff_of_true rfl ?_
    rintro ⟨before, message, after, hsplit, -⟩
    cases before <;> cases hsplit
  | cons first rest ih =>
    rw [displaced, Nat.add_eq_zero_iff, ih]
    constructor
    · rintro ⟨hfirst, hrest⟩ ⟨before, message, after, hsplit, hdisplaces⟩
      cases before with
      | nil =>
        obtain ⟨rfl, rfl⟩ := List.cons.inj hsplit
        have hnow : intake.slow = false ∧ intake.queue.Displaces first := hdisplaces
        rw [if_pos hnow] at hfirst
        cases hfirst
      | cons head before =>
        obtain ⟨rfl, htail⟩ := List.cons.inj hsplit
        exact hrest ⟨before, message, after, htail, hdisplaces⟩
    · intro hnone
      constructor
      · rw [if_neg]
        exact fun hdisplaces => hnone ⟨[], first, rest, rfl, hdisplaces⟩
      · rintro ⟨before, message, after, htail, hdisplaces⟩
        exact hnone ⟨first :: before, message, after, by rw [htail]; rfl, hdisplaces⟩

end Intake

/-! ## What a fan-out counts -/

namespace WovenCore

open OrderedMap

variable {core start : WovenCore} {request : PublishRequest} {now : Instant} {call : Nat}
  {clock : ReleaseClock} {come : ConnectionId → List OutboundMessage} {fan : FanOut}
  {message : AuthorizedMessage} {recipient : ConnectionId}

/-- The queue of a connection after the messages that have come to it. -/
def came (start : WovenCore) (come : ConnectionId → List OutboundMessage)
    (connection : ConnectionId) : Intake :=
  Intake.putAll { queue := (start.connectionAt connection).outbound } (come connection)

/-- What is counted for a connection: the messages it has lost, and once more those of which a
critical message has taken the place. -/
def tally (start : WovenCore) (come : ConnectionId → List OutboundMessage)
    (connection : ConnectionId) : Nat :=
  (start.came come connection).lost +
    Intake.displaced { queue := (start.connectionAt connection).outbound } (come connection)

/-- During a fan-out the queues are those that have taken what came, and the counters add up to what
is counted for the connections. -/
structure Tallied (op : Op) (key : SessionKey) (start : WovenCore)
    (come : ConnectionId → List OutboundMessage) (fan : FanOut) (core : WovenCore) : Prop where
  fanned : FannedOut op key start
    (fun c => (come c).filter fun message => message.delivery.isCritical) fan core
  queue : ∀ c, (core.connectionAt c).outbound = (start.came come c).queue
  slow : ∀ c, c ∈ fan.disconnected ↔ (start.came come c).slow = true
  counted : fan.outcome.queues.dropped + fan.outcome.queues.evicted =
    ∑ c ∈ keySet start.connections, start.tally come c

/-- Where nothing has come, nothing is counted. -/
theorem tally_congr {come' : ConnectionId → List OutboundMessage} {c : ConnectionId}
    (h : come' c = come c) :
    start.came come' c = start.came come c ∧ start.tally come' c = start.tally come c := by
  rw [tally, tally, came, came, h]
  exact ⟨rfl, rfl⟩

/-- Where a slow connection is passed over, nothing is counted. -/
theorem tally_slow {come' : ConnectionId → List OutboundMessage} {c : ConnectionId}
    {outbound : OutboundMessage} (h : come' c = come c ++ [outbound])
    (hslow : (start.came come c).slow = true) :
    start.came come' c = start.came come c ∧ start.tally come' c = start.tally come c := by
  have hcame : start.came come' c = start.came come c := by
    rw [came, h, Intake.putAll_append]
    exact Intake.put_slow hslow
  refine ⟨hcame, ?_⟩
  rw [tally, hcame, h, Intake.displaced_append, if_neg, Nat.add_zero, tally]
  intro hquick
  exact absurd hslow (by rw [came, hquick.1]; simp)

/-- One more attempt brings a connection the message, or nothing. -/
theorem put_cases (key : SessionKey) (outbound : OutboundMessage) (recipient c : ConnectionId) :
    (recipient = c ∧ start.mayReceive key c outbound = true ∧
      start.put key outbound recipient c = [outbound]) ∨
    start.put key outbound recipient c = [] := by
  by_cases hc : recipient = c
  · subst hc
    rw [put, if_pos rfl]
    cases hmay : start.mayReceive key recipient outbound with
    | true => exact .inl ⟨rfl, rfl, by simp [hmay]⟩
    | false => exact .inr (by simp [hmay])
  · exact .inr (if_neg (Ne.symm hc))

/-- An attempt that is not made leaves everything as it was. -/
theorem Tallied.skip {op : Op} {key : SessionKey} {outbound : OutboundMessage}
    (h : Tallied op key start come fan core)
    (hfanned : FannedOut op key start (fun c =>
      (come c ++ put start key outbound recipient c).filter
      fun message => message.delivery.isCritical) fan core)
    (hnone : fan.attempts core key outbound recipient = none) :
    Tallied op key start (fun c => come c ++ put start key outbound recipient c) fan core := by
  have hsame : ∀ c,
      start.came (fun c => come c ++ put start key outbound recipient c) c = start.came come c ∧
      start.tally (fun c => come c ++ put start key outbound recipient c) c =
        start.tally come c := by
    intro c
    rcases put_cases key outbound recipient c with ⟨rfl, hreads, hput⟩ | hput
    · refine tally_slow (congrArg (come recipient ++ ·) hput) ?_
      rw [← h.slow]
      by_contra hquick
      have hmay := attempts_eq_none hnone hquick
      rw [mayReceive, h.fanned.connections, ← mayReceive] at hmay
      rw [hmay] at hreads
      cases hreads
    · apply tally_congr
      rw [hput, List.append_nil]
  refine ⟨hfanned, ?_, ?_, ?_⟩
  · intro c
    rw [(hsame c).1]
    exact h.queue c
  · intro c
    rw [(hsame c).1]
    exact h.slow c
  · rw [h.counted]
    exact Finset.sum_congr rfl fun c _ => (hsame c).2.symm

/-- What a push to a connection that is not slow counts. -/
theorem tally_push {come' : ConnectionId → List OutboundMessage} {c : ConnectionId}
    {outbound : OutboundMessage} {result : QueuePush} {queue : OutboundQueue}
    (h : come' c = come c ++ [outbound]) (hquick : (start.came come c).slow = false)
    (hw : (start.came come c).queue.WellFormed)
    (hpush : (start.came come c).queue.push outbound = .ok (result, queue)) :
    start.tally come' c = start.tally come c + result.counted := by
  have hput := Intake.put_push hquick hpush
  have haccounts := OutboundQueue.push_accounts hw hpush
  unfold OutboundQueue.Accounts at haccounts
  have hlost : (start.came come' c).lost = (start.came come c).lost +
      ((start.came come c).queue.len + 1 - queue.len) := by
    rw [came, h, Intake.putAll_append]
    exact congrArg Intake.lost hput
  have hdisplaced : Intake.displaced { queue := (start.connectionAt c).outbound } (come' c) =
      Intake.displaced { queue := (start.connectionAt c).outbound } (come c) +
        if (start.came come c).queue.Displaces outbound then 1 else 0 := by
    rw [h, Intake.displaced_append]
    congr 1
    exact if_congr (and_iff_right hquick) rfl rfl
  rw [tally, tally, hlost, hdisplaced]
  omega

/-- One message is pushed to the queue of one connection. -/
theorem Tallied.push {op : Op} {key : SessionKey} {outbound : OutboundMessage} {result : QueuePush}
    {queue : OutboundQueue} {fan' : FanOut} (h : Tallied op key start come fan core)
    (hsound : start.Sound) (hlive : recipient ∈ core.connections)
    (hquick : recipient ∉ fan.disconnected)
    (hreads : start.mayReceive key recipient outbound = true)
    (hpush : (core.connectionAt recipient).outbound.push outbound = .ok (result, queue))
    (hqueues : fan'.outcome.queues = recordQueueResult fan.outcome.queues result)
    (hslow : fan'.disconnected = if result = .criticalCapacityExhausted then
      fan.disconnected.insert recipient else fan.disconnected)
    (hfanned : FannedOut op key start (fun c =>
      (come c ++ put start key outbound recipient c).filter
      fun message => message.delivery.isCritical) fan'
      (core.modifyConnection recipient fun state => { state with outbound := queue })) :
    Tallied op key start (fun c => come c ++ put start key outbound recipient c) fan'
      (core.modifyConnection recipient fun state => { state with outbound := queue }) := by
  have hput : start.put key outbound recipient recipient = [outbound] := by
    rw [put, if_pos rfl]
    simp [hreads]
  have hopen : (start.came come recipient).slow = false := by
    rw [← Bool.not_eq_true, ← h.slow]
    exact hquick
  have hw : (start.came come recipient).queue.WellFormed := by
    rw [← h.queue]
    exact (h.fanned.changes.sound hsound).wellFormed recipient
  rw [h.queue] at hpush
  have hcame : start.came (fun c => come c ++ put start key outbound recipient c) recipient =
      (start.came come recipient).put outbound := by
    rw [came, hput, Intake.putAll_append]
    rfl
  have hother : ∀ c, c ≠ recipient → come c ++ put start key outbound recipient c = come c := by
    intro c hc
    rw [put, if_neg hc, List.append_nil]
  refine ⟨hfanned, ?_, ?_, ?_⟩
  · intro c
    rw [connectionAt_modifyConnection]
    by_cases hc : c = recipient
    · subst hc
      rw [if_pos ⟨rfl, hlive⟩, hcame, Intake.put_push hopen hpush]
    · rw [if_neg fun hand => hc hand.1, (tally_congr (hother c hc)).1]
      exact h.queue c
  · intro c
    by_cases hc : c = recipient
    · subst hc
      rw [hcame, Intake.put_push hopen hpush, hslow, decide_eq_true_eq]
      split
      · rename_i hfull
        exact iff_of_true (OrderedSet.mem_insert.mpr (.inl rfl)) hfull
      · rename_i hroom
        exact iff_of_false hquick hroom
    · rw [(tally_congr (hother c hc)).1, ← h.slow, hslow]
      split
      · rw [OrderedSet.mem_insert, or_iff_right hc]
      · rfl
  · have hin : recipient ∈ keySet start.connections := by
      rw [mem_keySet]
      exact (h.fanned.live recipient).mp hlive
    have hrest : ∑ c ∈ (keySet start.connections).erase recipient,
        start.tally (fun c => come c ++ put start key outbound recipient c) c =
          ∑ c ∈ (keySet start.connections).erase recipient, start.tally come c :=
      Finset.sum_congr rfl fun c hc => (tally_congr (hother c (Finset.ne_of_mem_erase hc))).2
    have hcounted := h.counted
    rw [← Finset.sum_erase_add _ _ hin] at hcounted
    have htally : start.tally (fun c => come c ++ put start key outbound recipient c) recipient =
        start.tally come recipient + result.counted :=
      tally_push (congrArg (come recipient ++ ·) hput) hopen hw hpush
    rw [hqueues, counted_recordQueueResult, ← Finset.sum_erase_add _ _ hin, hrest, htally, hcounted,
      Nat.add_assoc]

theorem Tallied.deliver {op : Op} (hop : op = .publishAt request now call clock)
    (hsound : start.Sound)
    (hscope : (start.sessionAt request.session).InScope message.space message.spaceEpoch
      message.entity)
    (hcoalesce : validateCoalesceKey message = .ok ())
    (hsubscribed : ⟨request.session, message.space⟩ ∈ (start.connectionAt recipient).subscriptions)
    (h : Tallied op request.session start come fan core) :
    Ends (deliver request.session (message.toOutbound request.session) fan recipient) core
      (Tallied op request.session start fun c =>
        come c ++ put start request.session (message.toOutbound request.session) recipient c)
      fun _ _ => False := by
  subst hop
  have hfanned := deliver_ends hsound hscope hcoalesce hsubscribed h.fanned
  simp only [← filter_put, ← List.filter_append] at hfanned
  have hmay : core.mayReceive request.session recipient (message.toOutbound request.session) =
      start.mayReceive request.session recipient (message.toOutbound request.session) := by
    rw [mayReceive, h.fanned.connections, mayReceive]
  unfold Signalweave.deliver at hfanned ⊢
  rw [ends_bind, ends_get] at hfanned ⊢
  cases hattempt : fan.attempts core request.session (message.toOutbound request.session)
      recipient with
  | none =>
    rw [hattempt] at hfanned
    exact h.skip hfanned hattempt
  | some connection =>
    rw [hattempt] at hfanned
    obtain ⟨hquick, hlive, rfl, hreads⟩ := attempts_eq_some hattempt
    cases hpush : (core.connectionAt recipient).outbound.push
        (message.toOutbound request.session) with
    | error error =>
      simp only [hpush] at hfanned
      exact hfanned.elim
    | ok answer =>
      obtain ⟨result, queue⟩ := answer
      simp only [hpush] at hfanned ⊢
      rw [ends_bind, ends_set, ends_pure] at hfanned ⊢
      exact h.push hsound hlive hquick (hmay ▸ hreads) hpush rfl rfl hfanned

/-- A whole fan-out counts what is counted for the connections. -/
theorem fanOut_tallied (request : PublishRequest) (now : Instant) (call : Nat)
    (clock : ReleaseClock)
    {plan : PublishPlan} {count : Nat} (hsound : start.Sound)
    (hmessages : ∀ message ∈ plan.messages, validateCoalesceKey message = .ok () ∧
      (start.sessionAt request.session).InScope message.space message.spaceEpoch message.entity) :
    Ends ((plan.outbound request.session).foldlM (deliverAll request.session)
        { outcome := { authorizedMessages := count } }) start
      (Tallied (.publishAt request now call clock) request.session start
        fun c => (plan.outbound request.session).filter (start.reaches request.session c))
      fun _ _ => False := by
  apply fanOut_reaches hsound.consistent fun _ _ _ h => h.fanned.sessions
  · intro outbound hin recipient hsubscribed come fan core h
    obtain ⟨message, hmessage, rfl⟩ := List.mem_map.mp hin
    obtain ⟨hcoalesce, hscope⟩ := hmessages message hmessage
    exact h.deliver rfl hsound hscope hcoalesce hsubscribed
  · refine ⟨FannedOut.refl start, fun _ => rfl, fun c => ?_, ?_⟩
    · simp [came, Intake.putAll]
    · exact (Finset.sum_eq_zero fun _ _ => rfl).symm

/-- The plan of a publication changes nothing that decides whom its fan-out reaches. -/
theorem reaches_commitPlan {limiter : ConnectionRateLimiter} {plan : PublishPlan}
    (c : ConnectionId) :
    ((core.limited request.connection limiter).commitPlan request.session plan).reaches
      request.session c = core.reaches request.session c := by
  have hrecipients : ∀ message, ((core.limited request.connection limiter).commitPlan
      request.session plan).recipients request.session message =
        core.recipients request.session message := by
    intro message
    have hmodified : ((core.limited request.connection limiter).commitPlan request.session
        plan).sessions[request.session]? =
          core.sessions[request.session]?.map fun session => session.commit plan :=
      (OrderedMap.getElem?_modify (m := core.sessions)).trans (if_pos rfl)
    rw [recipients, hmodified, recipients]
    cases hsession : core.sessions[request.session]? with
    | none => rfl
    | some session =>
      rw [Option.map_some, Option.elim_some, Option.elim_some, SessionState.commit_eq]
      rfl
  funext message
  rw [reaches, reaches, hrecipients, mayReceive, mayReceive, authenticated_commitPlan]

/-- What an accepted publication counts. -/
theorem publishAt_counts (h : Reachable core) {outcome : PublishOutcome} {core' : WovenCore}
    (hreturns : Returns (publishAt request now call clock) core outcome core') :
    outcome.queues.dropped + outcome.queues.evicted =
      core.lost request.session (Op.accepted core (.publishAt request now call clock)) +
        ∑ c ∈ keySet core.connections,
          Intake.displaced { queue := (core.connectionAt c).outbound }
            ((Op.accepted core (.publishAt request now call clock)).filter
              (core.reaches request.session c)) := by
  have hbound := hreturns
  rw [publishAt_eq, returns_bind] at hbound
  obtain ⟨plan, limited, hplanAt, hcommit⟩ := hbound
  have hmessages : Op.accepted core (.publishAt request now call clock) =
      plan.outbound request.session := by
    rw [Op.accepted, acceptedPlan_of_returns hreturns hplanAt]
    rfl
  obtain ⟨limiter, rfl, hplan⟩ := planAt_returns hplanAt
  have hlimit : Change (.publishAt request now call clock) core
      (core.limited request.connection limiter) := .limit request now call clock limiter
  have hlimited := hlimit.sound h.sound
  have hcommitted := (Change.commit request now call clock plan hplan).sound hlimited
  have hqueue : ∀ c, (((core.limited request.connection limiter).commitPlan request.session
      plan).connectionAt c).outbound = (core.connectionAt c).outbound := fun _ => outbound_limited
  have hkeys : keySet ((core.limited request.connection limiter).commitPlan request.session
      plan).connections = keySet core.connections := by
    ext c
    rw [mem_keySet, mem_keySet]
    exact mem_connections_modifyConnection
  have hends : Ends (commitPublish request.session plan clock)
      (core.limited request.connection limiter) (fun outcome _ =>
        outcome.queues.dropped + outcome.queues.evicted = core.lost request.session
          (plan.outbound request.session) + ∑ c ∈ keySet core.connections,
            Intake.displaced { queue := (core.connectionAt c).outbound }
              ((plan.outbound request.session).filter (core.reaches request.session c)))
      fun _ _ => False := by
    apply commitPublish_fans now hlimited hplan
    intro fan fanned hfan _ _
    have htallied := (fanOut_tallied request now call clock hcommitted
      (deliverable_of_planPublish hplan)).returns hfan
    rw [htallied.counted, hkeys, lost, total_eq_sum, ← Finset.sum_add_distrib]
    refine Finset.sum_congr rfl fun c hc => ?_
    rw [share, connections_getElem? (mem_keySet.mp hc), Option.elim_some, tally, came, hqueue,
      reaches_commitPlan, intake]
  rw [hmessages]
  exact hends.returns hcommit

end WovenCore

/-- Where the counters add up to what was lost. -/
theorem observeCommand_exact_iff {core core' : WovenCore} {request : PublishRequest} {now : Instant}
    {call : Nat} {clock : ReleaseClock} {result : CommandResult} (h : Reachable core)
    (hreturns : Returns (Command.publish request now call clock).handle core result core')
    (metrics : ServerMetrics) :
    let observed := observeCommand metrics
      (metricsContext (.publish request now call clock)) (.ok result)
    let messages := Op.accepted core (.publishAt request now call clock)
    observed.queueDroppedTotal + observed.queueEvictedTotal =
        metrics.queueDroppedTotal + metrics.queueEvictedTotal +
          core.lost request.session messages ↔
      ∀ c ∈ core.connections, ¬ core.Displaces request.session messages c := by
  intro observed messages
  obtain ⟨outcome, hpublished, rfl⟩ := returns_map.mp hreturns
  have hcounts : outcome.queues.dropped + outcome.queues.evicted =
      core.lost request.session messages + ∑ c ∈ OrderedMap.keySet core.connections,
        Intake.displaced { queue := (core.connectionAt c).outbound }
          (messages.filter (core.reaches request.session c)) := publishAt_counts h hpublished
  have hdropped : observed.queueDroppedTotal =
      metrics.queueDroppedTotal + outcome.queues.dropped := rfl
  have hevicted : observed.queueEvictedTotal =
      metrics.queueEvictedTotal + outcome.queues.evicted := rfl
  have hnone : (∑ c ∈ OrderedMap.keySet core.connections,
      Intake.displaced { queue := (core.connectionAt c).outbound }
        (messages.filter (core.reaches request.session c))) = 0 ↔
      ∀ c ∈ core.connections, ¬ core.Displaces request.session messages c := by
    rw [Finset.sum_eq_zero_iff]
    simp only [OrderedMap.mem_keySet, Intake.displaced_eq_zero, Displaces]
  rw [← hnone, hdropped, hevicted]
  omega

namespace Sample

/-- A core whose queues hold one message and whose connections may use two channels. -/
def shallowCore : WovenCore where
  authenticator.authenticate credentials := .ok {
    principalId := ⟨credentials.token.length⟩
    grants := { grants with channels := .ofList [
      ((⟨session, ⟨1⟩⟩ : ChannelScope), AccessGrant.readWrite),
      ((⟨session, ⟨2⟩⟩ : ChannelScope), AccessGrant.readWrite)] } }
  config := { outboundQueue := ⟨1, 1, 1, 1⟩ }
  journalOutbox := { capacity := 1024 }

/-- The setup with an entity of the first connection, in whose queue a best-effort message waits. -/
def shallow : WovenCore :=
  Transition.run step shallowCore (setup ++ [.registerChannel channel,
    .registerChannel { channel with id := ⟨2⟩, delivery := .bestEffortEvent },
    .spawnEntity ⟨1⟩ (spaceKey 1) ⟨1⟩,
    .publishAt { publication 1 with channel := ⟨2⟩, delivery := .bestEffortEvent } 0 0 clock])

theorem shallow_reachable : Reachable shallow :=
  ⟨shallowCore, _, ⟨shallowCore.authenticator, shallowCore.config, rfl⟩, rfl⟩

theorem shallow_returns : ∃ outcome core',
    Returns (publishAt (publication 1) 0 0 clock) shallow outcome core' := by
  rcases returns_or_fails (publishAt (publication 1) 0 0 clock) shallow with
    ⟨outcome, hreturns⟩ | ⟨e, hfails⟩
  · exact ⟨outcome, _, hreturns⟩
  · have hends : ((publishAt (publication 1) 0 0 clock).run' shallow).isSome = true := by
      decide +kernel
    rw [EStateM.run', hfails] at hends
    cases hends

/-- A best-effort event of the first connection. -/
def chatter (sequence : Nat) : PublishRequest :=
  { publication sequence with channel := ⟨2⟩, delivery := .bestEffortEvent }

theorem chatter_returns : ∃ outcome core',
    Returns (publishAt (chatter 2) 0 0 clock) shallow outcome core' := by
  rcases returns_or_fails (publishAt (chatter 2) 0 0 clock) shallow with
    ⟨outcome, hreturns⟩ | ⟨e, hfails⟩
  · exact ⟨outcome, _, hreturns⟩
  · have hends : ((publishAt (chatter 2) 0 0 clock).run' shallow).isSome = true := by
      decide +kernel
    rw [EStateM.run', hfails] at hends
    cases hends

end Sample

/-- A best-effort message that finds no room is lost, and counted once. -/
theorem observeCommand_exact_iff_event :
    ∃ outcome core', Returns (Command.publish (Sample.chatter 2) 0 0 Sample.clock).handle
        Sample.shallow (.published outcome) core' ∧
      Sample.shallow.lost Sample.session
        (Op.accepted Sample.shallow (.publishAt (Sample.chatter 2) 0 0 Sample.clock)) = 1 ∧
      let observed := observeCommand {} (metricsContext
        (.publish (Sample.chatter 2) 0 0 Sample.clock)) (.ok (.published outcome))
      observed.queueDroppedTotal + observed.queueEvictedTotal =
        0 + 0 + Sample.shallow.lost Sample.session
          (Op.accepted Sample.shallow (.publishAt (Sample.chatter 2) 0 0 Sample.clock)) := by
  obtain ⟨outcome, core', hpublished⟩ := Sample.chatter_returns
  have hreturns : Returns (Command.publish (Sample.chatter 2) 0 0 Sample.clock).handle
      Sample.shallow (.published outcome) core' :=
    returns_map.mpr ⟨outcome, hpublished, rfl⟩
  refine ⟨outcome, core', hreturns, by decide +kernel, ?_⟩
  apply (observeCommand_exact_iff Sample.shallow_reachable hreturns {}).mpr
  intro c hc
  have hkeys : Sample.shallow.connections.keys = [⟨1⟩] := by decide +kernel
  have hone : c = ⟨1⟩ := by
    have hin : c ∈ Sample.shallow.connections.keys := ExtTreeMap.mem_keys.mpr hc
    rw [hkeys] at hin
    exact List.mem_singleton.mp hin
  rw [hone]
  exact Intake.displaced_eq_zero.mp (by decide +kernel)

/-- A critical message that takes the place of another one is counted twice. -/
theorem observeCommand_not_exact : ¬ ∀ (core core' : WovenCore) (request : PublishRequest)
    (now : Instant) (call : Nat) (clock : ReleaseClock) (result : CommandResult)
    (metrics : ServerMetrics), Reachable core →
      Returns (Command.publish request now call clock).handle core result core' →
        let observed := observeCommand metrics
          (metricsContext (.publish request now call clock)) (.ok result)
        observed.queueDroppedTotal + observed.queueEvictedTotal =
          metrics.queueDroppedTotal + metrics.queueEvictedTotal +
            core.lost request.session (Op.accepted core (.publishAt request now call clock)) := by
  intro h
  obtain ⟨outcome, core', hpublished⟩ := Sample.shallow_returns
  have hsum := h Sample.shallow core' (Sample.publication 1) 0 0 Sample.clock _ {}
    Sample.shallow_reachable (returns_map.mpr ⟨outcome, hpublished, rfl⟩)
  have hcounted : (((publishAt (Sample.publication 1) 0 0 Sample.clock).run' Sample.shallow).map
      fun outcome => outcome.queues.dropped + outcome.queues.evicted) = some 2 := by decide +kernel
  have hlost : Sample.shallow.lost Sample.session
      (Op.accepted Sample.shallow (.publishAt (Sample.publication 1) 0 0 Sample.clock)) = 1 := by
    decide +kernel
  rw [EStateM.run', hpublished] at hcounted
  have htwo : outcome.queues.dropped + outcome.queues.evicted = 2 := Option.some.inj hcounted
  have hone : 0 + outcome.queues.dropped + (0 + outcome.queues.evicted) = 0 + 0 + 1 :=
    hsum.trans (congrArg (0 + 0 + ·) hlost)
  omega

end Signalweave
