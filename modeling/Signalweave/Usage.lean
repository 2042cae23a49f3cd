import Signalweave.Ids

/-!
# Usage counters (`usage.rs`)

The counters an admission controller updates. An `Instant` is a number of nanoseconds on the
monotonic clock and a `Duration` a number of nanoseconds. The counter of handles, a `u64`, is a
natural number: fewer than `2^64` connections begin in the life of a server.
-/

namespace Signalweave

/-- A reading of the monotonic clock, in nanoseconds. -/
abbrev Instant := Nat

/-- A length of time, in nanoseconds. -/
abbrev Duration := Nat

/-- The last representable `Instant`: whole seconds are kept in a signed 64-bit integer. -/
def Instant.max : Nat := 2 ^ 63 * 1000000000 - 1

/-- `Instant::checked_add`. -/
def Instant.checkedAdd (now : Instant) (duration : Duration) : Option Instant :=
  if now + duration ≤ Instant.max then some (now + duration) else none

/-- `Instant::checked_duration_since`. -/
def Instant.checkedDurationSince (now earlier : Instant) : Option Duration :=
  if earlier ≤ now then some (now - earlier) else none

/-- `Instant::saturating_duration_since`. -/
def Instant.saturatingDurationSince (now earlier : Instant) : Duration := now - earlier

/-- `Duration::as_secs`. -/
def Duration.asSecs (duration : Duration) : Nat := duration / 1000000000

/-- Which node counts, and for which session. -/
structure AdmissionMetadata where
  nodeId : NodeId
  session : SessionKey
  deriving DecidableEq

/-- `ConnectionHandle`, a newtype over `u64`. -/
abbrev ConnectionHandle := Nat

/-- A connection whose time is being counted. -/
structure ActiveConnection where
  handle : ConnectionHandle
  principal : PrincipalId
  started : Instant
  deriving DecidableEq

/-- What an admission controller counts since the last window. -/
structure UsageCounters where
  metadata : AdmissionMetadata
  nextHandle : Nat := 1
  joinAttempts : Nat := 0
  immediateAdmissions : Nat := 0
  queuedJoins : Nat := 0
  queueFullRejections : Nat := 0
  pausedRejections : Nat := 0
  authRejections : Nat := 0
  reconnectReservations : Nat := 0
  successfulResumes : Nat := 0
  promotedPlayers : Nat := 0
  expiredTickets : Nat := 0
  cancelledTickets : Nat := 0
  abandonedOffers : Nat := 0
  eventsReceived : Nat := 0
  eventsDelivered : Nat := 0
  eventsDropped : Nat := 0
  bytesReceived : Nat := 0
  bytesDelivered : Nat := 0
  persistenceReads : Nat := 0
  persistenceWrites : Nat := 0
  inferenceRequests : Nat := 0
  capacityAllocations : Nat := 0
  activeCcu : UInt32 := 0
  peakCcu : UInt32 := 0
  queueDepth : UInt32 := 0
  peakQueueDepth : UInt32 := 0
  connectionSeconds : Nat := 0
  active : List ActiveConnection := []

/-- `count` of `admission.rs` and the bound in `set_queue_depth`: a `usize` capped at
`u32::MAX`. -/
def saturatingU32 (value : Nat) : UInt32 := UInt32.ofNat (min value (2 ^ 32 - 1))

/-- `Vec::swap_remove`: the last element takes the place of the removed one. -/
def swapRemove {α : Type} (values : List α) (index : Nat) : List α :=
  match values.getLast? with
  | none => []
  | some last => (values.set index last).dropLast

namespace UsageCounters

/-- `start_connection`: time is counted from now on. -/
def startConnection (counters : UsageCounters) (principal : PrincipalId) (now : Instant) :
    ConnectionHandle × UsageCounters :=
  let handle := counters.nextHandle
  (handle, { counters with
    nextHandle := handle + 1
    active := counters.active ++ [{ handle, principal, started := now }] })

/-- `end_connection`: the time of the connection is added up. -/
def endConnection (counters : UsageCounters) (handle : ConnectionHandle) (now : Instant) :
    UsageCounters :=
  match counters.active.findIdx? (·.handle == handle) with
  | none => counters
  | some index =>
    match counters.active[index]? with
    | none => counters
    | some connection =>
      { counters with
        active := swapRemove counters.active index
        connectionSeconds := counters.connectionSeconds +
          Duration.asSecs (Instant.saturatingDurationSince now connection.started) }

/-- `set_active_ccu`, with its peak. -/
def setActiveCcu (counters : UsageCounters) (value : UInt32) : UsageCounters :=
  { counters with activeCcu := value, peakCcu := max counters.peakCcu value }

/-- `set_queue_depth`, with its peak. -/
def setQueueDepth (counters : UsageCounters) (value : Nat) : UsageCounters :=
  let bounded := saturatingU32 value
  { counters with queueDepth := bounded, peakQueueDepth := max counters.peakQueueDepth bounded }

end UsageCounters

end Signalweave
