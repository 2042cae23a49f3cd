import Signalweave.Model

/-!
# The outbound queue of a connection (`queue.rs`)

Three classes share one capacity. The latest-value class is a map with an order of its own,
`latest_order`, kept next to it.
-/

open Std

namespace Signalweave

/-- The capacities of the queue of a connection, in all and by class. -/
structure OutboundQueueConfig where
  totalCapacity : Nat := 512
  criticalCapacity : Nat := 256
  latestCapacity : Nat := 512
  bestEffortCapacity : Nat := 128
  deriving DecidableEq

/-- Why capacities are refused. -/
inductive QueueConfigError where
  | zeroTotalCapacity
  | zeroCriticalCapacity
  | classCapacityExceedsTotal
  deriving DecidableEq

/-- A total and a critical capacity, and no class with more room than the total. -/
def OutboundQueueConfig.validate (config : OutboundQueueConfig) :
    Except QueueConfigError OutboundQueueConfig :=
  if config.totalCapacity = 0 then .error .zeroTotalCapacity
  else if config.criticalCapacity = 0 then .error .zeroCriticalCapacity
  else if config.totalCapacity < config.criticalCapacity ∨
      config.totalCapacity < config.latestCapacity ∨
      config.totalCapacity < config.bestEffortCapacity then
    .error .classCapacityExceedsTotal
  else .ok config

/-- `QueueError`, and the panic of the `expect` in `push_latest`. -/
inductive QueueError where
  | missingCoalesceKey
  | latestOrderDesynchronized
  deriving DecidableEq

/-- What a critical message has taken the place of. -/
inductive QueueEviction where
  | latest (key : ScopedCoalesceKey)
  | bestEffort
  deriving DecidableEq

/-- What has become of a message that was pushed. -/
inductive QueuePush where
  | queued
  | queuedCriticalAfterEviction (eviction : QueueEviction)
  | replacedLatest
  | evictedLatest (key : ScopedCoalesceKey)
  | evictedBestEffortForLatest
  | droppedLatest
  | droppedBestEffort
  | criticalCapacityExhausted
  deriving DecidableEq

/-- The queue of a connection: critical messages, latest values and the rest, in this order. -/
structure OutboundQueue where
  config : OutboundQueueConfig
  critical : List OutboundMessage := []
  latestOrder : List ScopedCoalesceKey := []
  latest : ExtTreeMap ScopedCoalesceKey OutboundMessage := ∅
  bestEffort : List OutboundMessage := []
  criticalCapacityExhausted : Bool := false

namespace OutboundQueue

/-- An empty queue. -/
def new (config : OutboundQueueConfig) : Except QueueConfigError OutboundQueue := do
  let config ← config.validate
  return { config }

/-- How many messages wait. -/
def len (queue : OutboundQueue) : Nat :=
  queue.critical.length + queue.latest.size + queue.bestEffort.length

/-- A latest value that is new in the queue. -/
def insertLatest (queue : OutboundQueue) (key : ScopedCoalesceKey) (message : OutboundMessage) :
    OutboundQueue :=
  { queue with
    latestOrder := queue.latestOrder ++ [key]
    latest := queue.latest.insert key message }

/-- Drop the latest value that has waited longest. -/
def evictOldestLatest (queue : OutboundQueue) : Option (ScopedCoalesceKey × OutboundQueue) :=
  match queue.latestOrder with
  | [] => none
  | key :: rest => some (key, { queue with latestOrder := rest, latest := queue.latest.erase key })

/-- `best_effort.pop_front()`, the removed message left out. -/
def evictBestEffort (queue : OutboundQueue) : Option OutboundQueue :=
  match queue.bestEffort with
  | [] => none
  | _ :: rest => some { queue with bestEffort := rest }

/-- The eviction of `push_critical`: the oldest latest value first, then a best-effort message. -/
def evictForCritical (queue : OutboundQueue) : Option QueueEviction × OutboundQueue :=
  if queue.len = queue.config.totalCapacity then
    match queue.evictOldestLatest with
    | some (key, queue) => (some (.latest key), queue)
    | none =>
      match queue.evictBestEffort with
      | some queue => (some .bestEffort, queue)
      | none => (none, queue)
  else (none, queue)

/-- `push_critical`: it takes the place of something less critical, but never of its like. -/
def pushCritical (queue : OutboundQueue) (message : OutboundMessage) :
    QueuePush × OutboundQueue :=
  if queue.critical.length = queue.config.criticalCapacity then
    (.criticalCapacityExhausted, { queue with criticalCapacityExhausted := true })
  else
    let (eviction, queue) := queue.evictForCritical
    (eviction.elim .queued .queuedCriticalAfterEviction,
      { queue with critical := queue.critical ++ [message] })

/-- `push_latest`. Neither error has touched the queue. -/
def pushLatest (queue : OutboundQueue) (message : OutboundMessage) :
    Except QueueError (QueuePush × OutboundQueue) := do
  let key ← message.scopedCoalesceKey.okOr .missingCoalesceKey
  if key ∈ queue.latest then
    return (.replacedLatest,
      { queue with
        latest := queue.latest.insert key message
        latestOrder := queue.latestOrder.filter (· ≠ key) ++ [key] })
  if queue.config.latestCapacity = 0 then
    return (.droppedLatest, queue)
  if queue.latest.size = queue.config.latestCapacity then
    let (evicted, queue) ← queue.evictOldestLatest.okOr .latestOrderDesynchronized
    return (.evictedLatest evicted, queue.insertLatest key message)
  if queue.len = queue.config.totalCapacity then
    match queue.evictOldestLatest with
    | some (evicted, queue) => return (.evictedLatest evicted, queue.insertLatest key message)
    | none =>
      match queue.evictBestEffort with
      | some queue => return (.evictedBestEffortForLatest, queue.insertLatest key message)
      | none => return (.droppedLatest, queue)
  return (.queued, queue.insertLatest key message)

/-- `push_best_effort`: it is dropped where there is no room. -/
def pushBestEffort (queue : OutboundQueue) (message : OutboundMessage) :
    QueuePush × OutboundQueue :=
  if queue.bestEffort.length = queue.config.bestEffortCapacity ∨
      queue.len = queue.config.totalCapacity then
    (.droppedBestEffort, queue)
  else (.queued, { queue with bestEffort := queue.bestEffort ++ [message] })

/-- `push`, by the delivery class of the message. -/
def push (queue : OutboundQueue) (message : OutboundMessage) :
    Except QueueError (QueuePush × OutboundQueue) :=
  if message.delivery.isCritical then .ok (queue.pushCritical message)
  else if message.delivery.isReplaceable then queue.pushLatest message
  else .ok (queue.pushBestEffort message)

/-- The next message: critical ones first, then latest values, then the rest. -/
def pop (queue : OutboundQueue) : Option OutboundMessage × OutboundQueue :=
  match queue.critical, queue.latestOrder, queue.bestEffort with
  | message :: rest, _, _ => (some message, { queue with critical := rest })
  | [], key :: rest, _ =>
    (queue.latest[key]?, { queue with latestOrder := rest, latest := queue.latest.erase key })
  | [], [], message :: rest => (some message, { queue with bestEffort := rest })
  | [], [], [] => (none, queue)

/-- Drop the messages that meet a condition. -/
def purge (queue : OutboundQueue) (shouldRemove : OutboundMessage → Bool) : OutboundQueue :=
  let latest := queue.latest.filter fun _ message => !shouldRemove message
  { queue with
    critical := queue.critical.filter fun message => !shouldRemove message
    bestEffort := queue.bestEffort.filter fun message => !shouldRemove message
    latest := latest
    latestOrder := queue.latestOrder.filter fun key => key ∈ latest }

/-- The number `purge` returns. -/
def purgedBy (queue : OutboundQueue) (shouldRemove : OutboundMessage → Bool) : Nat :=
  queue.len - (queue.purge shouldRemove).len

/-- The loop of `drain`: pop until there is nothing left. -/
def drainLoop : Nat → OutboundQueue → List OutboundMessage → List OutboundMessage × OutboundQueue
  | 0, queue, messages => (messages, queue)
  | fuel + 1, queue, messages =>
    match queue.pop with
    | (some message, queue) => drainLoop fuel queue (messages ++ [message])
    | (none, queue) => (messages, queue)

/-- `drain`. Every `pop` takes an entry off one of the three orders, so their lengths bound the
number of rounds. -/
def drain (queue : OutboundQueue) : List OutboundMessage × OutboundQueue :=
  drainLoop (queue.critical.length + queue.latestOrder.length + queue.bestEffort.length + 1)
    queue []

end OutboundQueue

end Signalweave
