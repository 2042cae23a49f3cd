import Signalweave.UsageTime

/-!
# What a tick does

A tick finalizes one window after the other: the frame of each depends on its index alone, and the
registered counters are snapshot at the ends of the windows in turn.
-/

namespace Signalweave

/-- A `SystemTime` that the platform has. -/
abbrev PlatformTime := { time : SystemTime // SystemTime.min ≤ time ∧ time ≤ SystemTime.max }

/-- What a window says of its place in time. -/
structure WindowFrame where
  session : SessionKey
  windowStart : SystemTime
  windowEnd : SystemTime
  sequence : Nat
  deriving DecidableEq

/-- What a window says of its place in time. -/
def UsageWindow.frame (window : UsageWindow) : WindowFrame where
  session := window.session
  windowStart := window.windowStart
  windowEnd := window.windowEnd
  sequence := window.sequence

namespace UsageAggregator

variable {aggregator : UsageAggregator} {now : Instant} {clock : SystemTime} {index count : Nat}

/-- The offset of the end of a window from the base, its number cut to 32 bits. -/
def endOffset (aggregator : UsageAggregator) (windowIndex : Nat) : Duration :=
  aggregator.windowDuration * ((windowIndex + 1) % 2 ^ 32)

/-- When a window ends, by the monotonic clock. -/
def endInstant (aggregator : UsageAggregator) (now : Instant) (windowIndex : Nat) : Instant :=
  (Instant.checkedAdd aggregator.baseInstant (aggregator.endOffset windowIndex)).getD now

/-- The ends of so many windows from an index on. -/
def endInstants (aggregator : UsageAggregator) (now : Instant) (index count : Nat) :
    List Instant :=
  (List.range' index count).map (aggregator.endInstant now)

/-- When a window ends, by the clock of the system. -/
def endTime (aggregator : UsageAggregator) (clock : SystemTime) (windowIndex : Nat) : SystemTime :=
  (SystemTime.checkedAdd aggregator.baseTime (aggregator.endOffset windowIndex)).getD clock

/-- The frame of a window of these counters. -/
def frameAt (aggregator : UsageAggregator) (clock : SystemTime) (windowIndex : Nat)
    (counters : UsageCounters) : WindowFrame where
  session := counters.metadata.session
  windowStart :=
    (SystemTime.checkedSub (aggregator.endTime clock windowIndex) aggregator.windowDuration).getD
      aggregator.baseTime
  windowEnd := aggregator.endTime clock windowIndex
  sequence := windowIndex + 1

/-- The registered counters after snapshots at these times. -/
def snapshotAll (aggregator : UsageAggregator) (ends : List Instant) : List UsageCounters :=
  aggregator.counters.map fun counters => (counters.snapshots ends).2

/-- What these snapshots report of connection time. -/
def snapshotSeconds (aggregator : UsageAggregator) (ends : List Instant) : Nat :=
  (aggregator.counters.map fun counters => (counters.snapshots ends).1).sum

/-- The windows that are finalized for so many indexes from one on. -/
structure Finalizes (aggregator : UsageAggregator) (now : Instant) (clock : SystemTime)
    (index count : Nat) (windows : List UsageWindow) : Prop where
  frames : windows.map UsageWindow.frame =
    (List.range' index count).flatMap fun k => aggregator.counters.map (aggregator.frameAt clock k)
  seconds : (windows.map fun window => window.metrics.connectionSeconds).sum =
    aggregator.snapshotSeconds (aggregator.endInstants now index count)

theorem Finalizes.none : Finalizes aggregator now clock index 0 [] := by
  refine ⟨rfl, ?_⟩
  simp [snapshotSeconds, endInstants, UsageCounters.snapshots]

theorem snapshotAll_nil (aggregator : UsageAggregator) :
    aggregator.snapshotAll [] = aggregator.counters := by
  simp [snapshotAll, UsageCounters.snapshots]

/-- The windows are finalized one by one, each with a snapshot of every registered counters. -/
theorem finalizeWindows_eq
    (hfits : aggregator.windowDuration * (index + count) < 2 ^ 64 * 1000000000)
    (hsequence : aggregator.nextSequence = index + 1) :
    ∃ windows, finalizeWindows now clock count index aggregator =
        some (windows, { aggregator with
          nextSequence := aggregator.nextSequence + count
          counters := aggregator.snapshotAll (aggregator.endInstants now index count) }) ∧
      Finalizes aggregator now clock index count windows := by
  induction count generalizing index aggregator with
  | zero =>
    refine ⟨[], ?_, Finalizes.none⟩
    rw [show aggregator.endInstants now index 0 = [] from rfl, snapshotAll_nil]
    rfl
  | succ count ih =>
    have hoffset : aggregator.windowDuration * ((index + 1) % 2 ^ 32) < 2 ^ 64 * 1000000000 := by
      have hmod : (index + 1) % 2 ^ 32 ≤ index + (count + 1) :=
        Nat.le_trans (Nat.mod_le _ _) (by omega)
      exact Nat.lt_of_le_of_lt (Nat.mul_le_mul_left _ hmod) hfits
    -- The aggregator after the first window differs in the counters and the next number alone.
    have hfirst : ∃ first, aggregator.finalizeWindow now clock index = some (first,
          { aggregator with
            nextSequence := aggregator.nextSequence + 1
            counters := aggregator.counters.map fun counters =>
              (counters.snapshotAndReset (aggregator.endInstant now index)).2 }) ∧
        first.map UsageWindow.frame = aggregator.counters.map (aggregator.frameAt clock index) ∧
        (first.map fun window => window.metrics.connectionSeconds) =
          aggregator.counters.map fun counters =>
            (counters.snapshotAndReset (aggregator.endInstant now index)).1.connectionSeconds := by
      unfold finalizeWindow
      rw [Duration.checkedMul, if_pos hoffset]
      refine ⟨_, rfl, ?_, ?_⟩
      · rw [List.map_map, hsequence]
        rfl
      · rw [List.map_map]
        rfl
    obtain ⟨first, hfirst, hframes, hseconds⟩ := hfirst
    have hlater : aggregator.windowDuration * (index + 1 + count) < 2 ^ 64 * 1000000000 := by
      rw [Nat.add_assoc, Nat.add_comm 1 count]
      exact hfits
    obtain ⟨later, hfinalize, hfinalizes⟩ := @ih { aggregator with
        nextSequence := aggregator.nextSequence + 1
        counters := aggregator.counters.map fun counters =>
          (counters.snapshotAndReset (aggregator.endInstant now index)).2 } (index + 1) hlater
      (congrArg (· + 1) hsequence)
    refine ⟨first ++ later, ?_, ?_, ?_⟩
    · unfold finalizeWindows
      rw [hfirst]
      simp only [Option.bind_some]
      rw [hfinalize]
      simp only [Option.map_some, snapshotAll, List.map_map]
      rw [Nat.add_assoc, Nat.add_comm 1 count]
      rfl
    · rw [List.map_append, hframes, hfinalizes.frames, List.range'_succ, List.flatMap_cons]
      simp only [List.map_map]
      rfl
    · rw [List.map_append, List.sum_append, hseconds, hfinalizes.seconds]
      simp only [snapshotSeconds, List.map_map]
      rw [← List.sum_map_add]
      rfl

/-- The windows that have elapsed by the whole seconds of the times. -/
def windowsElapsed (aggregator : UsageAggregator) (now : Instant) : Nat :=
  Duration.asSecs (now - aggregator.baseInstant) / Duration.asSecs aggregator.windowDuration

/-- The whole seconds never run behind: at least every window that has ended is elapsed. -/
theorem le_windowsElapsed (hseconds : 1000000000 ≤ aggregator.windowDuration) :
    (now - aggregator.baseInstant) / aggregator.windowDuration ≤ aggregator.windowsElapsed now :=
  Rounding.div_le_div_div (Nat.pos_iff_ne_zero.mp (Nat.div_pos hseconds (by decide)))

/-- The last end is at most twice the elapsed time away. -/
theorem windowsElapsed_fits (hseconds : 1000000000 ≤ aggregator.windowDuration)
    (hnow : now ≤ Instant.max) :
    aggregator.windowDuration * aggregator.windowsElapsed now < 2 ^ 64 * 1000000000 := by
  have hpos : 0 < aggregator.windowDuration / 1000000000 := Nat.div_pos hseconds (by decide)
  have helapsed : (now - aggregator.baseInstant) / 1000000000 < 2 ^ 63 := by
    apply Nat.div_lt_of_lt_mul
    have hsub := Nat.sub_le now aggregator.baseInstant
    unfold Instant.max at hnow
    exact Nat.lt_of_le_of_lt (Nat.le_trans hsub hnow) (by decide)
  have hround : aggregator.windowDuration ≤
      2 * (aggregator.windowDuration / 1000000000) * 1000000000 :=
    Rounding.le_two_mul_div (by decide) hseconds
  have hquotient := Nat.div_mul_le_self ((now - aggregator.baseInstant) / 1000000000)
    (aggregator.windowDuration / 1000000000)
  calc aggregator.windowDuration * aggregator.windowsElapsed now
      ≤ 2 * (aggregator.windowDuration / 1000000000) * 1000000000 *
          aggregator.windowsElapsed now := Nat.mul_le_mul_right _ hround
    _ = aggregator.windowsElapsed now * (aggregator.windowDuration / 1000000000) *
          (2 * 1000000000) := by ring
    _ ≤ (now - aggregator.baseInstant) / 1000000000 * (2 * 1000000000) :=
        Nat.mul_le_mul_right _ hquotient
    _ < 2 ^ 63 * (2 * 1000000000) := Nat.mul_lt_mul_of_pos_right helapsed (by decide)
    _ = 2 ^ 64 * 1000000000 := by norm_num

/-- A tick finalizes the windows that have elapsed and are not finalized yet. -/
theorem tickAt_eq (hseconds : 1000000000 ≤ aggregator.windowDuration) (hnow : now ≤ Instant.max)
    (hsequence : aggregator.nextSequence = aggregator.finalizedWindows + 1) :
    let count := aggregator.windowsElapsed now - aggregator.finalizedWindows
    ∃ windows pending, aggregator.tickAt now clock = some (windows, { aggregator with
          finalizedWindows := aggregator.finalizedWindows + count
          nextSequence := aggregator.nextSequence + count
          counters := aggregator.snapshotAll
            (aggregator.endInstants now aggregator.finalizedWindows count)
          pending }) ∧
      Finalizes aggregator now clock aggregator.finalizedWindows count windows := by
  intro count
  have hpos : 0 < aggregator.windowDuration / 1000000000 := Nat.div_pos hseconds (by decide)
  have hduration : aggregator.windowDuration ≠ 0 := by
    intro hzero
    rw [hzero] at hpos
    exact absurd hpos (by decide)
  unfold tickAt
  rw [if_neg hduration]
  dsimp only
  rw [if_neg
    (show ¬ Duration.asSecs aggregator.windowDuration = 0 from Nat.pos_iff_ne_zero.mp hpos)]
  show ∃ windows pending, (if count = 0 then some ([], aggregator) else
    (finalizeWindows now clock count aggregator.finalizedWindows { aggregator with
      finalizedWindows := aggregator.finalizedWindows + count }).map _) = _ ∧ _
  by_cases hnone : count = 0
  · rw [if_pos hnone, hnone]
    refine ⟨[], aggregator.pending, ?_, Finalizes.none⟩
    rw [show aggregator.endInstants now aggregator.finalizedWindows 0 = [] from rfl,
      snapshotAll_nil]
    rfl
  · rw [if_neg hnone]
    have hfits : aggregator.windowDuration * (aggregator.finalizedWindows + count) <
        2 ^ 64 * 1000000000 := by
      rw [show aggregator.finalizedWindows + count = aggregator.windowsElapsed now by omega]
      exact windowsElapsed_fits hseconds hnow
    obtain ⟨windows, hfinalize, hfinalizes⟩ := @finalizeWindows_eq { aggregator with
      finalizedWindows := aggregator.finalizedWindows + count } now clock
      aggregator.finalizedWindows count hfits hsequence
    rw [hfinalize]
    exact ⟨windows, _, rfl, hfinalizes.frames, hfinalizes.seconds⟩

/-- Windows shorter than a second are divided by zero. -/
theorem tickAt_eq_none (hduration : aggregator.windowDuration ≠ 0)
    (hseconds : ¬ 1000000000 ≤ aggregator.windowDuration) :
    aggregator.tickAt now clock = none := by
  unfold tickAt
  rw [if_neg hduration]
  dsimp only
  have hzero : Duration.asSecs aggregator.windowDuration = 0 :=
    Nat.div_eq_of_lt (Nat.lt_of_not_le hseconds)
  rw [if_pos hzero]

end UsageAggregator

end Signalweave
