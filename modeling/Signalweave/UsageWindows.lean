import Signalweave.Usage

/-!
# Usage windows (`usage.rs`)

The counters of a node are finalized into windows of one length. `none` as the result of a tick is
a panic.
-/

namespace Signalweave

/-- `SystemTime`: nanoseconds since the epoch, the whole seconds a signed 64-bit integer. -/
abbrev SystemTime := Int

/-- The first representable time, in nanoseconds from the epoch. -/
def SystemTime.min : Int := -(2 ^ 63 * 1000000000)

/-- The last representable time, in nanoseconds from the epoch. -/
def SystemTime.max : Int := 2 ^ 63 * 1000000000 - 1

/-- `SystemTime::checked_add`. -/
def SystemTime.checkedAdd (time : SystemTime) (duration : Duration) : Option SystemTime :=
  if time + duration ≤ SystemTime.max then some (time + duration) else none

/-- `SystemTime::checked_sub`. -/
def SystemTime.checkedSub (time : SystemTime) (duration : Duration) : Option SystemTime :=
  if SystemTime.min ≤ time - duration then some (time - duration) else none

/-- `Duration * u32`, which panics beyond `Duration::MAX`. -/
def Duration.checkedMul (duration : Duration) (scale : Nat) : Option Duration :=
  if duration * scale < 2 ^ 64 * 1000000000 then some (duration * scale) else none

/-- What is reported of a window. -/
structure UsageMetrics where
  joinAttempts : Nat
  immediateAdmissions : Nat
  queuedJoins : Nat
  queueFullRejections : Nat
  pausedRejections : Nat
  authRejections : Nat
  reconnectReservations : Nat
  successfulResumes : Nat
  promotedPlayers : Nat
  expiredTickets : Nat
  cancelledTickets : Nat
  abandonedOffers : Nat
  eventsReceived : Nat
  eventsDelivered : Nat
  eventsDropped : Nat
  bytesReceived : Nat
  bytesDelivered : Nat
  persistenceReads : Nat
  persistenceWrites : Nat
  inferenceRequests : Nat
  capacityAllocations : Nat
  activeCcu : UInt32
  peakCcu : UInt32
  queueDepth : UInt32
  peakQueueDepth : UInt32
  connectionSeconds : Nat
  deriving DecidableEq

/-- A window with its place in time and what is reported of it. -/
structure UsageWindow where
  schemaVersion : Nat
  nodeId : NodeId
  session : SessionKey
  windowStart : SystemTime
  windowEnd : SystemTime
  sequence : Nat
  capacityRevision : Nat
  allocatedCcu : UInt32
  metrics : UsageMetrics
  deriving DecidableEq

/-- `USAGE_SCHEMA_VERSION`. -/
def usageSchemaVersion : Nat := 1

/-- `DEFAULT_SPOOL_CAPACITY`. -/
def defaultSpoolCapacity : Nat := 1024

/-! ## Counters -/

namespace UsageCounters

/-- The seconds that the open connections have run until `window_end`. -/
def runningSeconds (counters : UsageCounters) (windowEnd : Instant) : Nat :=
  (counters.active.map fun connection =>
    Duration.asSecs (Instant.saturatingDurationSince windowEnd connection.started)).sum

/-- `snapshot_and_reset`: what has been counted, and the counters for the next window. -/
def snapshotAndReset (counters : UsageCounters) (windowEnd : Instant) :
    UsageMetrics × UsageCounters :=
  ({ joinAttempts := counters.joinAttempts
     immediateAdmissions := counters.immediateAdmissions
     queuedJoins := counters.queuedJoins
     queueFullRejections := counters.queueFullRejections
     pausedRejections := counters.pausedRejections
     authRejections := counters.authRejections
     reconnectReservations := counters.reconnectReservations
     successfulResumes := counters.successfulResumes
     promotedPlayers := counters.promotedPlayers
     expiredTickets := counters.expiredTickets
     cancelledTickets := counters.cancelledTickets
     abandonedOffers := counters.abandonedOffers
     eventsReceived := counters.eventsReceived
     eventsDelivered := counters.eventsDelivered
     eventsDropped := counters.eventsDropped
     bytesReceived := counters.bytesReceived
     bytesDelivered := counters.bytesDelivered
     persistenceReads := counters.persistenceReads
     persistenceWrites := counters.persistenceWrites
     inferenceRequests := counters.inferenceRequests
     capacityAllocations := counters.capacityAllocations
     activeCcu := counters.activeCcu
     peakCcu := counters.peakCcu
     queueDepth := counters.queueDepth
     peakQueueDepth := counters.peakQueueDepth
     connectionSeconds := counters.connectionSeconds + counters.runningSeconds windowEnd },
    { metadata := counters.metadata
      nextHandle := counters.nextHandle
      activeCcu := counters.activeCcu
      queueDepth := counters.queueDepth
      active := counters.active.map fun connection => { connection with started := windowEnd } })

end UsageCounters

/-! ## Sinks -/

/-- Why a window is not taken, and whether it may be offered again. -/
structure UsageSinkError where
  message : String
  retryable : Bool
  deriving DecidableEq

/-- An implementation of `UsageSink` whose appends run one after the other: what `append` returns
and the sink after it. -/
abbrev UsageSink (σ : Type) := σ → UsageWindow → Except UsageSinkError Unit × σ

/-- Whether windows get through. -/
inductive SinkHealth where
  | healthy
  | degraded
  deriving DecidableEq

/-- A sink with a spool for the windows that have not got through. -/
structure SpoolingUsageSink (σ : Type) where
  inner : σ
  capacity : Nat
  spool : List UsageWindow := []
  health : SinkHealth := .healthy
  droppedWindows : Nat := 0

namespace SpoolingUsageSink

variable {σ : Type}

/-- A sink with an empty spool. -/
def new (inner : σ) (capacity : Nat) : SpoolingUsageSink σ := { inner, capacity }

/-- Change the health. -/
def setHealth (sink : SpoolingUsageSink σ) (health : SinkHealth) : SpoolingUsageSink σ :=
  { sink with health }

/-- `push_to_spool`: a full spool loses its oldest window. -/
def pushToSpool (sink : SpoolingUsageSink σ) (window : UsageWindow) : SpoolingUsageSink σ :=
  let sink :=
    if sink.spool.length = sink.capacity then
      { sink with
        spool := sink.spool.tail
        droppedWindows := sink.droppedWindows + 1
        health := .degraded }
    else sink
  { sink with spool := sink.spool ++ [window] }

/-- The loop of `append` over the spool. It ends early with a retryable error, and then the window
that it has taken out is gone. -/
def drainSpool (append : UsageSink σ) :
    List UsageWindow → SpoolingUsageSink σ → Option UsageSinkError × SpoolingUsageSink σ
  | [], sink => (none, { sink with spool := [] })
  | pending :: rest, sink =>
    match append sink.inner pending with
    | (.ok (), inner) => drainSpool append rest { sink with inner }
    | (.error error, inner) =>
      if error.retryable then (some error, { sink with inner, spool := rest })
      else drainSpool append rest ({ sink with inner }.setHealth .degraded)

/-- `append`: the spool first, then the new window. -/
def append (append : UsageSink σ) (sink : SpoolingUsageSink σ) (window : UsageWindow) :
    Except UsageSinkError Unit × SpoolingUsageSink σ :=
  match drainSpool append sink.spool sink with
  | (some error, sink) => (.error error, sink.pushToSpool window)
  | (none, sink) =>
    match append sink.inner window with
    | (.ok (), inner) => (.ok (), { sink with inner }.setHealth .healthy)
    | (.error error, inner) =>
      if error.retryable then (.error error, { sink with inner }.pushToSpool window)
      else (.error error, { sink with inner })

end SpoolingUsageSink

/-! ## The aggregator -/

/-- The registered counters are shared with their owners: an update by an owner is one of the
entry here. -/
structure UsageAggregator where
  nodeId : NodeId
  windowDuration : Duration
  baseInstant : Instant
  baseTime : SystemTime
  finalizedWindows : Nat := 0
  nextSequence : Nat := 1
  counters : List UsageCounters := []
  pending : List UsageWindow := []

namespace UsageAggregator

/-- `with_base`. -/
def withBase (nodeId : NodeId) (windowDuration : Duration) (baseInstant : Instant)
    (baseTime : SystemTime) : UsageAggregator :=
  { nodeId, windowDuration, baseInstant, baseTime }

/-- `register` of counters that are not registered yet. -/
def register (aggregator : UsageAggregator) (counters : UsageCounters) : UsageAggregator :=
  { aggregator with counters := aggregator.counters ++ [counters] }

/-- The pass of `tick_at` for one window. `clock` is what `SystemTime::now` returns. -/
def finalizeWindow (aggregator : UsageAggregator) (now : Instant) (clock : SystemTime)
    (windowIndex : Nat) : Option (List UsageWindow × UsageAggregator) :=
  (Duration.checkedMul aggregator.windowDuration ((windowIndex + 1) % 2 ^ 32)).map fun offset =>
    let windowEndInstant := (Instant.checkedAdd aggregator.baseInstant offset).getD now
    let windowEnd := (SystemTime.checkedAdd aggregator.baseTime offset).getD clock
    let windowStart :=
      (SystemTime.checkedSub windowEnd aggregator.windowDuration).getD aggregator.baseTime
    (aggregator.counters.map fun counters =>
      { schemaVersion := usageSchemaVersion
        nodeId := aggregator.nodeId
        session := counters.metadata.session
        windowStart
        windowEnd
        sequence := aggregator.nextSequence
        capacityRevision := 0
        allocatedCcu := 0
        metrics := (counters.snapshotAndReset windowEndInstant).1 },
      { aggregator with
        nextSequence := aggregator.nextSequence + 1
        counters := aggregator.counters.map fun counters =>
          (counters.snapshotAndReset windowEndInstant).2 })

/-- The loop of `tick_at` over so many windows from an index on. -/
def finalizeWindows (now : Instant) (clock : SystemTime) :
    Nat → Nat → UsageAggregator → Option (List UsageWindow × UsageAggregator)
  | 0, _, aggregator => some ([], aggregator)
  | count + 1, windowIndex, aggregator =>
    (aggregator.finalizeWindow now clock windowIndex).bind fun (windows, aggregator) =>
      (finalizeWindows now clock count (windowIndex + 1) aggregator).map
        fun (later, aggregator) => (windows ++ later, aggregator)

/-- One window is queued for export; the oldest gives way. -/
def pushPending (pending : List UsageWindow) (window : UsageWindow) : List UsageWindow :=
  (if pending.length = defaultSpoolCapacity then pending.tail else pending) ++ [window]

/-- `tick_at`: every window that has ended by now is closed, in one go. -/
def tickAt (aggregator : UsageAggregator) (now : Instant) (clock : SystemTime) :
    Option (List UsageWindow × UsageAggregator) :=
  if aggregator.windowDuration = 0 then some ([], aggregator)
  else
    let elapsed := Instant.saturatingDurationSince now aggregator.baseInstant
    if Duration.asSecs aggregator.windowDuration = 0 then none
    else
      let windowsElapsed := Duration.asSecs elapsed / Duration.asSecs aggregator.windowDuration
      let newWindows := windowsElapsed - aggregator.finalizedWindows
      if newWindows = 0 then some ([], aggregator)
      else
        (finalizeWindows now clock newWindows aggregator.finalizedWindows { aggregator with
          finalizedWindows := aggregator.finalizedWindows + newWindows }).map
            fun (finalized, aggregator) => (finalized, { aggregator with
              pending := finalized.foldl pushPending aggregator.pending })

end UsageAggregator

end Signalweave
