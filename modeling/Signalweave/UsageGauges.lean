import Signalweave.UsageWindows
import Signalweave.Library.Transition

/-!
# Peak gauges

A gauge keeps its value from one window to the next, and its peak starts again from zero. A window
reports a true peak exactly if the value that it began with was reached again.
-/

namespace Signalweave

/-- The values of a gauge in the current window: the one it began with and those set since. -/
structure GaugeTrail where
  carried : UInt32 := 0
  updates : List UInt32 := []

namespace GaugeTrail

variable {trail : GaugeTrail} {value peak : UInt32}

/-- Every value that the gauge has had. -/
def held (trail : GaugeTrail) : List UInt32 := trail.carried :: trail.updates

/-- The value that the gauge has now. -/
def current (trail : GaugeTrail) : UInt32 := trail.updates.getLastD trail.carried

/-- The gauge is set. -/
def update (trail : GaugeTrail) (value : UInt32) : GaugeTrail :=
  { trail with updates := trail.updates ++ [value] }

/-- The next window begins with the current value. -/
def next (trail : GaugeTrail) : GaugeTrail := { carried := trail.current }

/-- `peak` is the greatest of the values. -/
structure Peak (values : List UInt32) (peak : UInt32) : Prop where
  reached : peak ∈ values
  bound : ∀ value ∈ values, value ≤ peak

/-- The value that the window began with is zero or was reached again. -/
def Regained (trail : GaugeTrail) : Prop :=
  trail.carried = 0 ∨ ∃ value ∈ trail.updates, trail.carried ≤ value

/-- What the counters keep of a gauge: its value, and its peak from zero on. -/
structure Tracked (trail : GaugeTrail) (value peak : UInt32) : Prop where
  value : value = trail.current
  peak : Peak (0 :: trail.updates) peak

theorem Peak.singleton : Peak [value] value := by
  refine ⟨List.mem_singleton.mpr rfl, ?_⟩
  intro other hin
  rw [List.mem_singleton.mp hin]
  exact UInt32.le_refl value

theorem le_max (first second : UInt32) : first ≤ max first second ∧ second ≤ max first second := by
  show first ≤ (if first ≤ second then second else first) ∧
    second ≤ (if first ≤ second then second else first)
  split
  · rename_i hle
    exact ⟨hle, UInt32.le_refl second⟩
  · rename_i hnot
    exact ⟨UInt32.le_refl first, (UInt32.le_total first second).resolve_left hnot⟩

theorem max_mem (first second : UInt32) :
    max first second = first ∨ max first second = second := by
  show (if first ≤ second then second else first) = first ∨
    (if first ≤ second then second else first) = second
  split
  · exact Or.inr rfl
  · exact Or.inl rfl

/-- `fetch_max` keeps the greatest of the values. -/
theorem Peak.append {values : List UInt32} (h : Peak values peak) :
    Peak (values ++ [value]) (max peak value) := by
  obtain ⟨hpeak, hvalue⟩ := le_max peak value
  refine ⟨?_, ?_⟩
  · rcases max_mem peak value with hmax | hmax
    · rw [hmax]
      exact List.mem_append_left _ h.reached
    · rw [hmax]
      exact List.mem_append_right _ (List.mem_singleton.mpr rfl)
  · intro other hin
    rcases List.mem_append.mp hin with hold | hnew
    · exact UInt32.le_trans (h.bound other hold) hpeak
    · rw [List.mem_singleton.mp hnew]
      exact hvalue

theorem current_update : (trail.update value).current = value := by
  simp [current, update]

theorem current_mem_held (trail : GaugeTrail) : trail.current ∈ trail.held := by
  unfold current held
  cases hupdates : trail.updates with
  | nil => simp
  | cons first rest =>
    rw [List.getLastD_eq_getLast?, List.getLast?_eq_some_getLast (List.cons_ne_nil _ _)]
    exact List.mem_cons_of_mem _ (List.getLast_mem _)

theorem Tracked.start : Tracked {} 0 0 := ⟨rfl, Peak.singleton⟩

theorem Tracked.update {next : UInt32} (h : trail.Tracked value peak) :
    (trail.update next).Tracked next (max peak next) :=
  ⟨current_update.symm, h.peak.append⟩

/-- The peak starts again from zero, and the value stays. -/
theorem Tracked.next (h : trail.Tracked value peak) : trail.next.Tracked value 0 :=
  ⟨h.value, Peak.singleton⟩

/-- The greatest of the values from zero on is that of the values held exactly if the first of them
was reached again. -/
theorem Tracked.peak_iff (h : trail.Tracked value peak) :
    Peak trail.held peak ↔ trail.Regained := by
  unfold held Regained
  constructor
  · intro htrue
    have hcarried := htrue.bound trail.carried (List.mem_cons_self ..)
    rcases List.mem_cons.mp h.peak.reached with hzero | hupdate
    · left
      rw [hzero] at hcarried
      exact UInt32.le_antisymm hcarried UInt32.zero_le
    · exact Or.inr ⟨peak, hupdate, hcarried⟩
  · intro hregained
    have hcarried : trail.carried ≤ peak := by
      rcases hregained with hzero | ⟨reached, hin, hle⟩
      · rw [hzero]
        exact UInt32.zero_le
      · exact UInt32.le_trans hle (h.peak.bound reached (List.mem_cons_of_mem _ hin))
    refine ⟨?_, ?_⟩
    · rcases List.mem_cons.mp h.peak.reached with hzero | hupdate
      · rw [hzero] at hcarried ⊢
        rw [UInt32.le_antisymm hcarried UInt32.zero_le]
        exact List.mem_cons_self ..
      · exact List.mem_cons_of_mem _ hupdate
    · intro other hin
      rcases List.mem_cons.mp hin with rfl | hupdate
      · exact hcarried
      · exact h.peak.bound other (List.mem_cons_of_mem _ hupdate)

end GaugeTrail

/-- The operations that touch the gauges of a server. -/
inductive GaugeOp where
  | setActiveCcu (value : UInt32)
  | setQueueDepth (value : Nat)
  | snapshotAndReset (windowEnd : Instant)

/-- The counters beside the values that their gauges have held in the current window. -/
structure GaugeHistory where
  counters : UsageCounters
  ccu : GaugeTrail := {}
  depth : GaugeTrail := {}

namespace GaugeHistory

variable {history : GaugeHistory}

/-- Counters of which nothing has been asked. -/
def start (metadata : AdmissionMetadata) : GaugeHistory := { counters := { metadata } }

/-- A gauge is set, or a window ends. -/
def step (history : GaugeHistory) : GaugeOp → GaugeHistory
  | .setActiveCcu value => { history with
      counters := history.counters.setActiveCcu value
      ccu := history.ccu.update value }
  | .setQueueDepth value => { history with
      counters := history.counters.setQueueDepth value
      depth := history.depth.update (saturatingU32 value) }
  | .snapshotAndReset windowEnd =>
    { counters := (history.counters.snapshotAndReset windowEnd).2
      ccu := history.ccu.next
      depth := history.depth.next }

/-- A snapshot reports, for both gauges, the current value and the greatest value held in the
window, which the current one does not exceed. -/
def TruePeaks (history : GaugeHistory) : GaugeOp → Prop
  | .snapshotAndReset windowEnd =>
    let metrics := (history.counters.snapshotAndReset windowEnd).1
    (metrics.activeCcu = history.ccu.current ∧ GaugeTrail.Peak history.ccu.held metrics.peakCcu ∧
        metrics.activeCcu ≤ metrics.peakCcu) ∧
      metrics.queueDepth = history.depth.current ∧
        GaugeTrail.Peak history.depth.held metrics.peakQueueDepth ∧
        metrics.queueDepth ≤ metrics.peakQueueDepth
  | _ => True

/-- Both gauges have regained the value with which the window began, whenever a snapshot is
taken. -/
def Regains (history : GaugeHistory) : GaugeOp → Prop
  | .snapshotAndReset _ => history.ccu.Regained ∧ history.depth.Regained
  | _ => True

/-- Both gauges and their peaks are what they are said to be. -/
structure Sound (history : GaugeHistory) : Prop where
  ccu : history.ccu.Tracked history.counters.activeCcu history.counters.peakCcu
  depth : history.depth.Tracked history.counters.queueDepth history.counters.peakQueueDepth

theorem Sound.step (h : history.Sound) (op : GaugeOp) : (history.step op).Sound := by
  cases op with
  | setActiveCcu value => exact ⟨h.ccu.update, h.depth⟩
  | setQueueDepth value => exact ⟨h.ccu, h.depth.update⟩
  | snapshotAndReset windowEnd => exact ⟨h.ccu.next, h.depth.next⟩

theorem Sound.truePeaks_iff (h : history.Sound) (op : GaugeOp) :
    history.TruePeaks op ↔ history.Regains op := by
  cases op with
  | setActiveCcu value => exact Iff.rfl
  | setQueueDepth value => exact Iff.rfl
  | snapshotAndReset windowEnd =>
    show (history.counters.activeCcu = history.ccu.current ∧
        GaugeTrail.Peak history.ccu.held history.counters.peakCcu ∧
        history.counters.activeCcu ≤ history.counters.peakCcu) ∧
      history.counters.queueDepth = history.depth.current ∧
        GaugeTrail.Peak history.depth.held history.counters.peakQueueDepth ∧
        history.counters.queueDepth ≤ history.counters.peakQueueDepth ↔
      history.ccu.Regained ∧ history.depth.Regained
    rw [← h.ccu.peak_iff, ← h.depth.peak_iff]
    constructor
    · rintro ⟨⟨-, hccu, -⟩, -, hdepth, -⟩
      exact ⟨hccu, hdepth⟩
    · rintro ⟨hccu, hdepth⟩
      refine ⟨⟨h.ccu.value, hccu, ?_⟩, h.depth.value, hdepth, ?_⟩
      · rw [h.ccu.value]
        exact hccu.bound _ history.ccu.current_mem_held
      · rw [h.depth.value]
        exact hdepth.bound _ history.depth.current_mem_held

/-- Every window of a run reports true peaks exactly if in every window both gauges get back to
where they began. -/
theorem run_truePeaks_iff (metadata : AdmissionMetadata) (ops : List GaugeOp) :
    Transition.Meets step TruePeaks (start metadata) ops ↔
      Transition.Meets step Regains (start metadata) ops :=
  Transition.meets_iff_meets (J := Sound) (fun _ op h => h.truePeaks_iff op)
    (fun _ op h _ => h.step op) ⟨GaugeTrail.Tracked.start, GaugeTrail.Tracked.start⟩ ops

/-- Five players stay for two windows: the second reports a peak of zero. -/
theorem run_peaks_not_true : ¬ ∀ metadata ops,
    Transition.Meets step TruePeaks (start metadata) ops := by
  intro h
  have hsecond := (h { nodeId := ⟨1⟩, session := ⟨⟨1⟩, ⟨1⟩⟩ }
    [.setActiveCcu 5, .snapshotAndReset 60000000000, .snapshotAndReset 120000000000]).2.2.1
  have hle : (5 : UInt32) ≤ 0 := hsecond.1.2.2
  revert hle
  decide

end GaugeHistory

end Signalweave
