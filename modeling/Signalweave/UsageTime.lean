import Signalweave.UsageConnections
import Signalweave.UsageWindows
import Signalweave.Library.Rounding
import Signalweave.Library.Transition

/-!
# The time of one connection

A snapshot cuts the life of each open connection, and each piece is rounded down to whole seconds.
What is reported for a connection is what the counters report more than without it.
-/

namespace Signalweave

/-- The operations that touch the connections of a server. -/
inductive ConnectionOp where
  | startConnection (principal : PrincipalId) (now : Instant)
  | endConnection (handle : ConnectionHandle) (now : Instant)
  | snapshotAndReset (windowEnd : Instant)

namespace UsageCounters

variable {counters opened : UsageCounters} {connection : ActiveConnection}
  {principal : PrincipalId} {handle : ConnectionHandle} {s e : Instant} {times : List Instant}

/-- A connection begins or ends, or a window does. -/
def connectionStep (counters : UsageCounters) : ConnectionOp → UsageCounters
  | .startConnection principal now => (counters.startConnection principal now).2
  | .endConnection handle now => counters.endConnection handle now
  | .snapshotAndReset windowEnd => (counters.snapshotAndReset windowEnd).2

/-- The seconds that snapshots at these times report, and the counters after them. -/
def snapshots (counters : UsageCounters) : List Instant → Nat × UsageCounters
  | [] => (0, counters)
  | windowEnd :: rest =>
    let snapshot := counters.snapshotAndReset windowEnd
    let later := snapshot.2.snapshots rest
    (snapshot.1.connectionSeconds + later.1, later.2)

/-- The seconds reported while one more connection starts, lives through the snapshots and ends. -/
def reportedWith (counters : UsageCounters) (principal : PrincipalId) (s : Instant)
    (times : List Instant) (e : Instant) : Nat :=
  let started := counters.startConnection principal s
  let later := started.2.snapshots times
  later.1 + (later.2.endConnection started.1 e).connectionSeconds

/-- The seconds reported without it. -/
def reportedWithout (counters : UsageCounters) (times : List Instant) : Nat :=
  let later := counters.snapshots times
  later.1 + later.2.connectionSeconds

/-- The seconds reported for the connection. -/
def reportedFor (counters : UsageCounters) (principal : PrincipalId) (s : Instant)
    (times : List Instant) (e : Instant) : Nat :=
  counters.reportedWith principal s times e - counters.reportedWithout times

/-- The pieces into which the times cut the life of a connection. -/
def pieces (s : Instant) : List Instant → Instant → List Duration
  | [], e => [e - s]
  | time :: rest, e => (time - s) :: pieces time rest e

theorem sum_pieces (horder : (s :: (times ++ [e])).Pairwise (· ≤ ·)) :
    (pieces s times e).sum = e - s := by
  induction times generalizing s with
  | nil => simp [pieces]
  | cons time rest ih =>
    obtain ⟨hfirst, hrest⟩ := List.pairwise_cons.mp horder
    have htime := hfirst time (List.mem_cons_self ..)
    have hend := (List.pairwise_cons.mp hrest).1 e (by simp)
    simp only [pieces, List.sum_cons]
    rw [ih hrest, Nat.add_comm]
    exact Nat.sub_add_sub_cancel hend htime

theorem Handled.snapshotAndReset {windowEnd : Instant} (h : counters.Handled) :
    (counters.snapshotAndReset windowEnd).2.Handled := by
  refine ⟨?_, ?_⟩
  · show ((counters.active.map fun connection : ActiveConnection =>
      { connection with started := windowEnd }).map ActiveConnection.handle).Nodup
    rw [List.map_map]
    exact h.distinct
  · intro connection hin
    obtain ⟨before, hbefore, rfl⟩ := List.mem_map.mp hin
    exact h.issued before hbefore

theorem Handled.connectionStep (h : counters.Handled) (op : ConnectionOp) :
    (counters.connectionStep op).Handled := by
  cases op with
  | startConnection principal now => exact h.startConnection
  | endConnection handle now => exact h.endConnection
  | snapshotAndReset windowEnd => exact h.snapshotAndReset

/-- The counters with one more open connection. -/
structure Beside (counters opened : UsageCounters) (connection : ActiveConnection) : Prop where
  active : opened.active = counters.active ++ [connection]
  seconds : opened.connectionSeconds = counters.connectionSeconds
  handled : opened.Handled

theorem Beside.runningSeconds (h : Beside counters opened connection) (windowEnd : Instant) :
    opened.runningSeconds windowEnd = counters.runningSeconds windowEnd +
      Duration.asSecs (windowEnd - connection.started) := by
  unfold UsageCounters.runningSeconds
  rw [h.active, List.map_append, List.sum_append, List.map_singleton, List.sum_singleton]
  rfl

theorem Beside.snapshotAndReset (h : Beside counters opened connection) (windowEnd : Instant) :
    Beside (counters.snapshotAndReset windowEnd).2 (opened.snapshotAndReset windowEnd).2
      { connection with started := windowEnd } := by
  refine ⟨?_, rfl, h.handled.snapshotAndReset⟩
  show opened.active.map _ = counters.active.map _ ++ [_]
  rw [h.active, List.map_append, List.map_singleton]

/-- The connection is the only one of its handle, and it is the one that ends. -/
theorem Beside.endConnection (h : Beside counters opened connection) :
    (opened.endConnection connection.handle e).connectionSeconds =
      counters.connectionSeconds + Duration.asSecs (e - connection.started) := by
  have hin : connection ∈ opened.active := by
    rw [h.active]
    exact List.mem_append_right _ (List.mem_singleton.mpr rfl)
  rcases @endConnection_cases opened e connection.handle with
    ⟨hother, -⟩ | ⟨ended, hended, hperm, hsame⟩
  · exact absurd rfl (hother connection hin)
  · have hmem := hperm.subset (List.mem_cons_self ..)
    obtain rfl := List.inj_on_of_nodup_map h.handled.distinct hmem hin hended
    rw [hsame, ← h.seconds]
    rfl

/-- Through all snapshots, what is reported more are the whole seconds of the pieces. -/
theorem Beside.snapshots (h : Beside counters opened connection) (times : List Instant) :
    (opened.snapshots times).1 +
        ((opened.snapshots times).2.endConnection connection.handle e).connectionSeconds =
      counters.reportedWithout times +
        ((pieces connection.started times e).map Duration.asSecs).sum := by
  induction times generalizing counters opened connection with
  | nil =>
    simp only [UsageCounters.snapshots, reportedWithout, pieces, List.map_singleton,
      List.sum_singleton]
    rw [h.endConnection]
    omega
  | cons windowEnd rest ih =>
    have hrunning := h.runningSeconds windowEnd
    have hrest := ih (h.snapshotAndReset windowEnd)
    have hreported : (opened.snapshotAndReset windowEnd).1.connectionSeconds =
        (counters.snapshotAndReset windowEnd).1.connectionSeconds +
          Duration.asSecs (windowEnd - connection.started) := by
      show opened.connectionSeconds + opened.runningSeconds windowEnd =
        counters.connectionSeconds + counters.runningSeconds windowEnd + _
      rw [h.seconds, hrunning, Nat.add_assoc]
    simp only [reportedWithout] at hrest
    simp only [UsageCounters.snapshots, reportedWithout, pieces, List.map_cons, List.sum_cons]
    omega

theorem beside_startConnection (h : counters.Handled) :
    Beside counters (counters.startConnection principal s).2
      { handle := (counters.startConnection principal s).1, principal, started := s } :=
  ⟨rfl, rfl, h.startConnection⟩

theorem reportedFor_eq (h : counters.Handled) :
    counters.reportedFor principal s times e =
      ((pieces s times e).map Duration.asSecs).sum := by
  have hbeside := (@beside_startConnection counters principal s h).snapshots times (e := e)
  simp only [reportedFor, reportedWith]
  rw [hbeside, Nat.add_sub_cancel_left]

/-- Snapshots leave the seconds reported for a connection as they are exactly if the fractions of
a second that they cut off add up to less than one. -/
theorem run_reportedFor_iff (metadata : AdmissionMetadata) (before : List ConnectionOp)
    (principal : PrincipalId) {s e : Instant} {times : List Instant}
    (horder : (s :: (times ++ [e])).Pairwise (· ≤ ·)) :
    let counters := Transition.run connectionStep { metadata } before
    counters.reportedFor principal s times e = counters.reportedFor principal s [] e ↔
      ((pieces s times e).map (· % 1000000000)).sum < 1000000000 := by
  intro counters
  have hnew : Handled { metadata } := ⟨List.nodup_nil, fun _ hin => absurd hin List.not_mem_nil⟩
  have hhandled : counters.Handled :=
    Transition.run_invariant (P := Handled) (fun _ op h => h.connectionStep op) hnew before
  rw [reportedFor_eq hhandled, reportedFor_eq hhandled,
    ← Rounding.sum_div_eq_iff (by decide), sum_pieces horder]
  simp only [pieces, List.map_singleton, List.sum_singleton]
  rfl

/-- Two and a half seconds cut after the first second. -/
theorem run_reportedFor_iff_second :
    let counters := Transition.run connectionStep
      { metadata := { nodeId := ⟨1⟩, session := ⟨⟨1⟩, ⟨1⟩⟩ } } []
    counters.reportedFor ⟨1⟩ 0 [1000000000] 2500000000 = counters.reportedFor ⟨1⟩ 0 [] 2500000000 :=
  (run_reportedFor_iff { nodeId := ⟨1⟩, session := ⟨⟨1⟩, ⟨1⟩⟩ } [] ⟨1⟩ (by decide)).mpr (by decide)

/-- A second cut in half is not reported at all. -/
theorem run_reportedFor_changed : ¬ ∀ metadata before principal s e times,
    (s :: (times ++ [e])).Pairwise (· ≤ ·) →
      let counters := Transition.run connectionStep { metadata } before
      counters.reportedFor principal s times e = counters.reportedFor principal s [] e := by
  intro h
  have hhalves := h { nodeId := ⟨1⟩, session := ⟨⟨1⟩, ⟨1⟩⟩ } [] ⟨1⟩ 0 1000000000 [500000000]
    (by decide)
  revert hhalves
  decide +kernel

end UsageCounters

end Signalweave
