import Signalweave.UsageTicks

/-!
# Windows tile time

The number of elapsed windows comes from whole seconds and their ends from the full duration. The
windows tile time exactly if the two agree whenever a tick is due, and every end can be
represented.
-/

namespace Signalweave

theorem flatMap_eq_flatMap_iff {α β : Type} {values : List α} {first second : α → List β}
    (hlength : ∀ value ∈ values, (first value).length = (second value).length) :
    values.flatMap first = values.flatMap second ↔
      ∀ value ∈ values, first value = second value := by
  induction values with
  | nil => simp
  | cons head tail ih =>
    have htail := ih fun value hin => hlength value (List.mem_cons_of_mem _ hin)
    rw [List.flatMap_cons, List.flatMap_cons, List.forall_mem_cons, ← htail]
    constructor
    · intro h
      exact List.append_inj h (hlength head (List.mem_cons_self ..))
    · rintro ⟨hhead, hrest⟩
      rw [hhead, hrest]

namespace UsageAggregator

variable {aggregator : UsageAggregator} {now : Instant} {counters : UsageCounters}
  {index count : Nat}

/-- The frame of a window that starts where the one before it ends, the first one at the base. -/
def tile (aggregator : UsageAggregator) (windowIndex : Nat) (counters : UsageCounters) :
    WindowFrame where
  session := counters.metadata.session
  windowStart := aggregator.baseTime + (aggregator.windowDuration * windowIndex : Nat)
  windowEnd := aggregator.baseTime + (aggregator.windowDuration * (windowIndex + 1) : Nat)
  sequence := windowIndex + 1

/-- The windows that have ended. -/
def windowsEnded (aggregator : UsageAggregator) (now : Instant) : Nat :=
  (now - aggregator.baseInstant) / aggregator.windowDuration

/-- So many windows have numbers of 32 bits and ends that can be represented. -/
def Representable (aggregator : UsageAggregator) (count : Nat) : Prop :=
  count < 2 ^ 32 ∧ aggregator.baseTime + (aggregator.windowDuration * count : Nat) ≤ SystemTime.max

theorem lt_windowsEnded_iff (hduration : 0 < aggregator.windowDuration) {k : Nat} :
    k < aggregator.windowsEnded now ↔
      aggregator.baseInstant + aggregator.windowDuration * (k + 1) ≤ now := by
  have hpos : 0 < aggregator.windowDuration * (k + 1) := Nat.mul_pos hduration (Nat.succ_pos k)
  unfold windowsEnded
  rw [Rounding.lt_div_iff hduration, Nat.mul_comm]
  constructor
  · intro h
    have hle := Nat.le_of_lt (Nat.lt_of_sub_pos (Nat.lt_of_lt_of_le hpos h))
    have hadd := Nat.add_le_add_left h aggregator.baseInstant
    rwa [Nat.add_sub_cancel' hle] at hadd
  · intro h
    exact Nat.le_sub_of_add_le' h

theorem windowsEnded_le {later : Instant} (h : now ≤ later) :
    aggregator.windowsEnded now ≤ aggregator.windowsEnded later :=
  Nat.div_le_div_right (Nat.sub_le_sub_right h _)

theorem Representable.of_le {less : Nat} (h : aggregator.Representable count)
    (hle : less ≤ count) : aggregator.Representable less := by
  refine ⟨Nat.lt_of_le_of_lt hle h.1, ?_⟩
  have hmul : aggregator.windowDuration * less ≤ aggregator.windowDuration * count :=
    Nat.mul_le_mul_left _ hle
  exact (Int.add_le_add_left (Int.ofNat_le.mpr hmul) _).trans h.2

/-- The end of a window is where it should be exactly if it can be represented. -/
theorem endTime_eq_iff (hduration : 0 < aggregator.windowDuration) (system : PlatformTime) :
    aggregator.endTime system index =
        aggregator.baseTime + (aggregator.windowDuration * (index + 1) : Nat) ↔
      aggregator.Representable (index + 1) := by
  have hmod : (index + 1) % 2 ^ 32 ≤ index + 1 := Nat.mod_le _ _
  have hmul : aggregator.windowDuration * ((index + 1) % 2 ^ 32) ≤
      aggregator.windowDuration * (index + 1) := Nat.mul_le_mul_left _ hmod
  have hsystem := system.2.2
  unfold endTime endOffset SystemTime.checkedAdd
  constructor
  · intro h
    split at h
    · rename_i hfits
      have hoffset : aggregator.windowDuration * ((index + 1) % 2 ^ 32) =
          aggregator.windowDuration * (index + 1) := Int.ofNat_inj.mp (Int.add_left_cancel h)
      have hnumber : (index + 1) % 2 ^ 32 = index + 1 := Nat.eq_of_mul_eq_mul_left hduration hoffset
      refine ⟨?_, ?_⟩
      · rw [← hnumber]
        exact Nat.mod_lt _ (by decide)
      · rw [← hoffset]
        exact hfits
    · -- The system clock stands in for an end that cannot be represented.
      rename_i hover
      have hend := Int.add_le_add_left (Int.ofNat_le.mpr hmul) aggregator.baseTime
      have hclock : (system : SystemTime) = _ := h
      rw [hclock] at hsystem
      exact absurd (hend.trans hsystem) hover
  · intro h
    rw [Nat.mod_eq_of_lt h.1, if_pos h.2]
    rfl

theorem frameAt_eq_tile_iff (hduration : 0 < aggregator.windowDuration)
    (hbase : SystemTime.min ≤ aggregator.baseTime) (system : PlatformTime) :
    aggregator.frameAt system index counters = aggregator.tile index counters ↔
      aggregator.Representable (index + 1) := by
  rw [← endTime_eq_iff hduration system]
  constructor
  · intro h
    exact congrArg WindowFrame.windowEnd h
  · intro h
    have hstart : aggregator.baseTime + (aggregator.windowDuration * (index + 1) : Nat) -
        aggregator.windowDuration =
          aggregator.baseTime + (aggregator.windowDuration * index : Nat) := by
      rw [Nat.mul_succ, Nat.cast_add, ← Int.add_assoc]
      exact Int.add_sub_cancel _ _
    have hmin : SystemTime.min ≤
        aggregator.baseTime + (aggregator.windowDuration * index : Nat) :=
      hbase.trans (Int.le_add_of_nonneg_right (Int.natCast_nonneg _))
    unfold frameAt tile
    rw [h, SystemTime.checkedSub, hstart, if_pos hmin]
    rfl

/-- The frames of a range of windows tile time exactly if there are none of them or the last one
can be represented. -/
theorem frames_eq_tiles_iff (hduration : 0 < aggregator.windowDuration)
    (hbase : SystemTime.min ≤ aggregator.baseTime) (system : PlatformTime) :
    ((List.range' index count).flatMap fun k =>
          aggregator.counters.map (aggregator.frameAt system k)) =
        ((List.range' index count).flatMap fun k => aggregator.counters.map (aggregator.tile k)) ↔
      aggregator.counters = [] ∨ count = 0 ∨ aggregator.Representable (index + count) := by
  rw [flatMap_eq_flatMap_iff (fun k _ => by rw [List.length_map, List.length_map])]
  constructor
  · intro h
    cases hcounters : aggregator.counters with
    | nil => exact Or.inl rfl
    | cons first rest =>
      cases count with
      | zero => exact Or.inr (Or.inl rfl)
      | succ count =>
        have hlast := h (index + count) (List.mem_range'_1.mpr (by omega))
        rw [hcounters, List.map_cons, List.map_cons] at hlast
        have hrepresentable :=
          (frameAt_eq_tile_iff hduration hbase system).mp (List.cons.inj hlast).1
        exact Or.inr (Or.inr hrepresentable)
  · rintro (hnone | hzero | hrepresentable) k hin
    · rw [hnone]
      rfl
    · rw [hzero] at hin
      exact absurd hin List.not_mem_nil
    · have hlt := (List.mem_range'_1.mp hin).2
      apply List.map_congr_left
      intro counters _
      exact (frameAt_eq_tile_iff hduration hbase system).mpr (hrepresentable.of_le hlt)

/-- The whole seconds count the windows that have ended exactly if they stop short of one more. -/
theorem windowsElapsed_eq_iff (hseconds : 1000000000 ≤ aggregator.windowDuration) :
    aggregator.windowsElapsed now = aggregator.windowsEnded now ↔
      Duration.asSecs (now - aggregator.baseInstant) <
        (aggregator.windowsEnded now + 1) * Duration.asSecs aggregator.windowDuration := by
  have hpos : 0 < Duration.asSecs aggregator.windowDuration := Nat.div_pos hseconds (by decide)
  have hle : aggregator.windowsEnded now ≤ aggregator.windowsElapsed now :=
    le_windowsElapsed hseconds
  rw [← Nat.div_lt_iff_lt_mul hpos]
  show aggregator.windowsElapsed now = _ ↔ aggregator.windowsElapsed now < _
  omega

end UsageAggregator

/-- What happens to an aggregator: counters are registered, and it is ticked after some time. The
system clock at the tick is the platform's. -/
inductive TickOp where
  | register (counters : UsageCounters)
  | tick (delay : Duration) (system : PlatformTime)

/-- An aggregator at the time of its last tick. -/
structure TickHistory where
  clock : Instant
  aggregator : UsageAggregator

namespace TickHistory

variable {history : TickHistory}

/-- An aggregator of which nothing has been asked. -/
def start (nodeId : NodeId) (windowDuration : Duration) (baseInstant : Instant)
    (baseTime : PlatformTime) : TickHistory :=
  { clock := 0, aggregator := .withBase nodeId windowDuration baseInstant baseTime }

/-- The monotonic clock goes on by the delay, at most to its last instant. -/
def now (history : TickHistory) (delay : Duration) : Instant :=
  min (history.clock + delay) Instant.max

/-- A tick that panics leaves the aggregator as it was. -/
def step (history : TickHistory) : TickOp → TickHistory
  | .register counters => { history with aggregator := history.aggregator.register counters }
  | .tick delay system =>
    { clock := history.now delay
      aggregator := match history.aggregator.tickAt (history.now delay) system with
        | some (_, after) => after
        | none => history.aggregator }

/-- A tick does not panic, the windows finalized after it are those that have ended, and those new
are finalized once for each registered counters, in order and one after the other in time. -/
def Tiles (history : TickHistory) : TickOp → Prop
  | .register _ => True
  | .tick delay system =>
    let before := history.aggregator
    ∃ windows after, before.tickAt (history.now delay) system = some (windows, after) ∧
      (∀ k, k < after.finalizedWindows ↔
        before.baseInstant + before.windowDuration * (k + 1) ≤ history.now delay) ∧
      windows.map UsageWindow.frame =
        (List.range' before.finalizedWindows
            (after.finalizedWindows - before.finalizedWindows)).flatMap
          fun k => before.counters.map (before.tile k)

/-- A window is at least a second long, the whole seconds do not count one window more than have
ended, and where windows are due, the last of them can be represented. -/
def Agrees (history : TickHistory) : TickOp → Prop
  | .register _ => True
  | .tick delay _ =>
    let before := history.aggregator
    let ended := before.windowsEnded (history.now delay)
    1000000000 ≤ before.windowDuration ∧
      Duration.asSecs (history.now delay - before.baseInstant) <
        (ended + 1) * Duration.asSecs before.windowDuration ∧
      (before.counters = [] ∨ ended = before.finalizedWindows ∨ before.Representable ended)

/-- The windows that had ended at the last tick are finalized. -/
structure Sound (history : TickHistory) : Prop where
  duration : 0 < history.aggregator.windowDuration
  base : SystemTime.min ≤ history.aggregator.baseTime
  clock : history.clock ≤ Instant.max
  finalized : history.aggregator.finalizedWindows = history.aggregator.windowsEnded history.clock
  sequence : history.aggregator.nextSequence = history.aggregator.finalizedWindows + 1

theorem Sound.finalized_le (h : history.Sound) (delay : Duration) :
    history.aggregator.finalizedWindows ≤
      history.aggregator.windowsEnded (history.now delay) := by
  rw [h.finalized]
  exact UsageAggregator.windowsEnded_le (Nat.le_min.mpr ⟨Nat.le_add_right _ _, h.clock⟩)

/-- What a tick does with windows of at least a second. -/
theorem Sound.tick_cases (h : history.Sound)
    (hseconds : 1000000000 ≤ history.aggregator.windowDuration) (delay : Duration)
    (system : PlatformTime) :
    ∃ windows after, history.aggregator.tickAt (history.now delay) system = some (windows, after) ∧
      after.windowDuration = history.aggregator.windowDuration ∧
      after.baseInstant = history.aggregator.baseInstant ∧
      after.baseTime = history.aggregator.baseTime ∧
      after.finalizedWindows = history.aggregator.windowsElapsed (history.now delay) ∧
      after.nextSequence = after.finalizedWindows + 1 ∧
      windows.map UsageWindow.frame =
        (List.range' history.aggregator.finalizedWindows
            (after.finalizedWindows - history.aggregator.finalizedWindows)).flatMap
          fun k => history.aggregator.counters.map (history.aggregator.frameAt system k) := by
  obtain ⟨windows, pending, htick, hfinalizes⟩ := @UsageAggregator.tickAt_eq history.aggregator
    (history.now delay) system hseconds (Nat.min_le_right _ _) h.sequence
  have hle := Nat.le_trans (h.finalized_le delay) (UsageAggregator.le_windowsElapsed hseconds)
  have hsum := Nat.add_sub_cancel' hle
  refine ⟨windows, _, htick, rfl, rfl, rfl, hsum, ?_, ?_⟩
  · show history.aggregator.nextSequence + _ = history.aggregator.finalizedWindows + _ + 1
    rw [h.sequence, Nat.add_right_comm]
  · rw [hfinalizes.frames]
    show _ = (List.range' _ (history.aggregator.finalizedWindows + _ - _)).flatMap _
    rw [Nat.add_sub_cancel_left]

theorem Sound.tiles_iff (h : history.Sound) (op : TickOp) :
    history.Tiles op ↔ history.Agrees op := by
  cases op with
  | register counters => exact Iff.rfl
  | tick delay system =>
    by_cases hseconds : 1000000000 ≤ history.aggregator.windowDuration
    · obtain ⟨windows, after, htick, -, -, -, helapsed, -, hframes⟩ :=
        h.tick_cases hseconds delay system
      have hended : ∀ n : Nat, (∀ k, k < n ↔ history.aggregator.baseInstant +
          history.aggregator.windowDuration * (k + 1) ≤ history.now delay) ↔
            n = history.aggregator.windowsEnded (history.now delay) := by
        intro n
        simp only [← UsageAggregator.lt_windowsEnded_iff h.duration]
        exact ⟨fun hk => eq_of_forall_lt_iff hk, fun hn k => by rw [hn]⟩
      have htiles : history.Tiles (.tick delay system) ↔
          after.finalizedWindows = history.aggregator.windowsEnded (history.now delay) ∧
            windows.map UsageWindow.frame = (List.range' history.aggregator.finalizedWindows
              (after.finalizedWindows - history.aggregator.finalizedWindows)).flatMap
                fun k => history.aggregator.counters.map (history.aggregator.tile k) := by
        unfold Tiles
        simp only [htick, Option.some.injEq, Prod.mk.injEq]
        constructor
        · rintro ⟨_, _, ⟨rfl, rfl⟩, hk, htiling⟩
          exact ⟨(hended _).mp hk, htiling⟩
        · rintro ⟨hn, htiling⟩
          exact ⟨windows, after, ⟨rfl, rfl⟩, (hended _).mpr hn, htiling⟩
      have hle := h.finalized_le delay
      rw [htiles, hframes, UsageAggregator.frames_eq_tiles_iff h.duration h.base system, helapsed]
      show _ ↔ 1000000000 ≤ history.aggregator.windowDuration ∧
        Duration.asSecs (history.now delay - history.aggregator.baseInstant) <
          (history.aggregator.windowsEnded (history.now delay) + 1) *
            Duration.asSecs history.aggregator.windowDuration ∧ _
      rw [← UsageAggregator.windowsElapsed_eq_iff hseconds]
      constructor
      · rintro ⟨hcount, hlast⟩
        rw [hcount, Nat.add_sub_cancel' hle] at hlast
        refine ⟨hseconds, hcount, hlast.imp_right (Or.imp_left ?_)⟩
        intro hzero
        exact Nat.le_antisymm (Nat.sub_eq_zero_iff_le.mp hzero) hle
      · rintro ⟨-, hcount, hlast⟩
        rw [hcount, Nat.add_sub_cancel' hle]
        refine ⟨rfl, hlast.imp_right (Or.imp_left ?_)⟩
        intro hequal
        rw [hequal, Nat.sub_self]
    · have hpanic : history.aggregator.tickAt (history.now delay) system = none :=
        UsageAggregator.tickAt_eq_none (Nat.pos_iff_ne_zero.mp h.duration) hseconds
      constructor
      · rintro ⟨_, _, htick, -⟩
        rw [hpanic] at htick
        cases htick
      · rintro ⟨hlong, -⟩
        exact absurd hlong hseconds

theorem Sound.step (h : history.Sound) (op : TickOp) (htiles : history.Tiles op) :
    (history.step op).Sound := by
  cases op with
  | register counters => exact ⟨h.duration, h.base, h.clock, h.finalized, h.sequence⟩
  | tick delay system =>
    obtain ⟨hseconds, hcount, -⟩ := (h.tiles_iff (.tick delay system)).mp htiles
    obtain ⟨windows, after, htick, hduration, hinstant, hbase, helapsed, hsequence, -⟩ :=
      h.tick_cases hseconds delay system
    have hafter : history.step (.tick delay system) =
        { clock := history.now delay, aggregator := after } := by
      unfold TickHistory.step
      dsimp only
      rw [htick]
    rw [hafter]
    refine ⟨?_, ?_, Nat.min_le_right _ _, ?_, hsequence⟩
    · show 0 < after.windowDuration
      rw [hduration]
      exact h.duration
    · show SystemTime.min ≤ after.baseTime
      rw [hbase]
      exact h.base
    · show after.finalizedWindows = after.windowsEnded (history.now delay)
      unfold UsageAggregator.windowsEnded
      rw [hduration, hinstant, helapsed]
      exact (UsageAggregator.windowsElapsed_eq_iff hseconds).mpr hcount

/-- In a run of ticks at times that go on, the windows tile time after every tick exactly if the
whole seconds agree with the full durations at each of them and every end can be represented. -/
theorem run_tiles_iff (nodeId : NodeId) {windowDuration : Duration} (hduration : 0 < windowDuration)
    (baseInstant : Instant) (baseTime : PlatformTime) (ops : List TickOp) :
    Transition.Meets step Tiles (start nodeId windowDuration baseInstant baseTime) ops ↔
      Transition.Meets step Agrees (start nodeId windowDuration baseInstant baseTime) ops := by
  have hstart : Sound (start nodeId windowDuration baseInstant baseTime) := by
    refine ⟨hduration, baseTime.2.1, Nat.zero_le _, ?_, rfl⟩
    show 0 = (0 - baseInstant) / windowDuration
    rw [Nat.zero_sub, Nat.zero_div]
  exact Transition.meets_iff_meets (J := Sound) (fun _ op h => h.tiles_iff op)
    (fun _ op h => h.step op) hstart ops

end TickHistory

namespace Sample

/-- `UNIX_EPOCH`. -/
def unixEpoch : PlatformTime := ⟨0, by decide⟩

end Sample

namespace TickHistory

/-- Three ticks of windows of a minute. -/
theorem run_tiles_iff_minutes :
    Transition.Meets step Tiles (start ⟨1⟩ 60000000000 0 Sample.unixEpoch)
      [.register { metadata := { nodeId := ⟨1⟩, session := ⟨⟨1⟩, ⟨1⟩⟩ } },
        .tick 59000000000 Sample.unixEpoch, .tick 90000000000 Sample.unixEpoch,
        .tick 0 Sample.unixEpoch] :=
  (run_tiles_iff ⟨1⟩ (by decide) 0 Sample.unixEpoch _).mpr
    ⟨trivial, ⟨by decide, by decide +kernel, Or.inr (Or.inl (by decide +kernel))⟩,
      ⟨by decide, by decide +kernel, Or.inr (Or.inr ⟨by decide +kernel, by decide +kernel⟩)⟩,
      ⟨by decide, by decide +kernel, Or.inr (Or.inl (by decide +kernel))⟩, trivial⟩

/-- Windows of half a second are divided by zero. -/
theorem run_not_tiled : ¬ ∀ nodeId windowDuration baseInstant baseTime ops, 0 < windowDuration →
    Transition.Meets step Tiles (start nodeId windowDuration baseInstant baseTime) ops := by
  intro h
  obtain ⟨⟨windows, after, htick, -⟩, -⟩ :=
    h ⟨1⟩ 500000000 0 Sample.unixEpoch [.tick 1000000000 Sample.unixEpoch] (by decide)
  cases htick

end TickHistory

end Signalweave
