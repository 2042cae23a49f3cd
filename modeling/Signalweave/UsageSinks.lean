import Signalweave.UsageWindows
import Signalweave.Library.Transition

/-!
# Where windows go

A spooling sink hands windows on in the order in which they came. Each is acknowledged, spooled,
dropped or refused, except one that the inner sink fails to take out of the spool.
-/

namespace Signalweave

/-- A sink beside what it has acknowledged and refused for good. -/
structure RecordingSink (σ : Type) where
  state : σ
  acknowledged : List UsageWindow := []
  refused : List UsageWindow := []

namespace RecordingSink

variable {σ : Type}

/-- The answers of the sink are recorded; an error that may be retried decides nothing. -/
def append (inner : UsageSink σ) : UsageSink (RecordingSink σ) := fun sink window =>
  match inner sink.state window with
  | (.ok (), state) =>
    (.ok (), { sink with state, acknowledged := sink.acknowledged ++ [window] })
  | (.error error, state) =>
    (.error error, { sink with
      state
      refused := if error.retryable then sink.refused else sink.refused ++ [window] })

end RecordingSink

/-- No append of a window from the spool fails with an error that may be retried. -/
def UsageSink.Drains {σ : Type} (inner : UsageSink σ) : List UsageWindow → σ → Prop
  | [], _ => True
  | window :: rest, state =>
    match inner state window with
    | (.ok (), state) => inner.Drains rest state
    | (.error error, state) => error.retryable = false ∧ inner.Drains rest state

/-- A spooling sink beside the windows that it was given. -/
structure SinkHistory (σ : Type) where
  sink : SpoolingUsageSink (RecordingSink σ)
  appended : List UsageWindow

namespace SinkHistory

variable {σ : Type} {inner : UsageSink σ} {history : SinkHistory σ}

/-- A sink to which nothing has been appended. -/
def start (state : σ) (capacity : Nat) : SinkHistory σ :=
  { sink := .new { state } capacity, appended := [] }

/-- A window is appended. -/
def step (inner : UsageSink σ) (history : SinkHistory σ) (window : UsageWindow) : SinkHistory σ :=
  { sink := (history.sink.append (RecordingSink.append inner) window).2
    appended := history.appended ++ [window] }

/-- Every window is in one place, and those that were acknowledged came in this order. -/
structure Accounted (history : SinkHistory σ) : Prop where
  placed : ∃ dropped : List UsageWindow, dropped.length = history.sink.droppedWindows ∧
    (history.sink.inner.acknowledged ++ history.sink.spool ++ dropped ++
      history.sink.inner.refused).Perm history.appended
  ordered : history.sink.inner.acknowledged.Sublist history.appended

end SinkHistory

namespace SpoolingUsageSink

variable {σ : Type} {inner : UsageSink σ} {sink after : SpoolingUsageSink (RecordingSink σ)}
  {stop : Option UsageSinkError}

/-- What the loop over the spool does with a part of it: some windows are acknowledged, some are
refused, in their order. -/
structure Hands (sink : SpoolingUsageSink (RecordingSink σ)) (part : List UsageWindow)
    (after : SpoolingUsageSink (RecordingSink σ)) : Prop where
  placed : ∃ taken refused, after.inner.acknowledged = sink.inner.acknowledged ++ taken ∧
    after.inner.refused = sink.inner.refused ++ refused ∧ taken.Sublist part ∧
      (taken ++ refused).Perm part
  dropped : after.droppedWindows = sink.droppedWindows
  capacity : after.capacity = sink.capacity

theorem Hands.nil {spool : List UsageWindow} : Hands sink [] { sink with spool } :=
  ⟨⟨[], [], (List.append_nil _).symm, (List.append_nil _).symm, .refl _, .refl _⟩, rfl, rfl⟩

/-- One more window was acknowledged before the others. -/
theorem Hands.acknowledge {window : UsageWindow} {part : List UsageWindow} {state : σ}
    (h : Hands { sink with inner := { sink.inner with
      state, acknowledged := sink.inner.acknowledged ++ [window] } } part after) :
    Hands sink (window :: part) after := by
  obtain ⟨⟨taken, refused, htaken, hrefused, hsublist, hperm⟩, hdropped, hcapacity⟩ := h
  refine ⟨⟨window :: taken, refused, ?_, hrefused, hsublist.cons_cons window, hperm.cons window⟩,
    hdropped, hcapacity⟩
  rw [htaken, List.append_assoc, List.singleton_append]

/-- One more window was refused before the others. -/
theorem Hands.refuse {window : UsageWindow} {part : List UsageWindow} {state : σ}
    {health : SinkHealth} (h : Hands { sink with
      inner := { sink.inner with state, refused := sink.inner.refused ++ [window] }
      health } part after) :
    Hands sink (window :: part) after := by
  obtain ⟨⟨taken, refused, htaken, hrefused, hsublist, hperm⟩, hdropped, hcapacity⟩ := h
  refine ⟨⟨taken, window :: refused, htaken, ?_, hsublist.cons window, ?_⟩, hdropped, hcapacity⟩
  · rw [hrefused, List.append_assoc, List.singleton_append]
  · exact List.perm_middle.trans (hperm.cons window)

/-- The loop over the spool ends with all windows handed on, or with one lost. -/
theorem drainSpool_cases (spool : List UsageWindow) :
    ∃ stop after, drainSpool (RecordingSink.append inner) spool sink = (stop, after) ∧
      (stop = none ∧ inner.Drains spool sink.inner.state ∧ after.spool = [] ∧
          Hands sink spool after ∨
        stop.isSome = true ∧ ¬ inner.Drains spool sink.inner.state ∧
          ∃ before lost, spool = before ++ lost :: after.spool ∧ Hands sink before after) := by
  induction spool generalizing sink with
  | nil => exact ⟨none, _, rfl, Or.inl ⟨rfl, trivial, rfl, .nil⟩⟩
  | cons window rest ih =>
    unfold drainSpool UsageSink.Drains RecordingSink.append
    rcases hanswer : inner sink.inner.state window with ⟨answer, state⟩
    cases answer with
    | ok =>
      dsimp only
      obtain ⟨stop, after, hdrain, hcases⟩ := @ih { sink with inner := { sink.inner with
        state, acknowledged := sink.inner.acknowledged ++ [window] } }
      refine ⟨stop, after, hdrain, ?_⟩
      rcases hcases with ⟨hstop, hdrains, hspool, hhands⟩ |
        ⟨hstop, hdrains, before, lost, hsplit, hhands⟩
      · exact Or.inl ⟨hstop, hdrains, hspool, hhands.acknowledge⟩
      · refine Or.inr ⟨hstop, hdrains, window :: before, lost, ?_, hhands.acknowledge⟩
        rw [hsplit, List.cons_append]
    | error error =>
      dsimp only
      cases hretryable : error.retryable with
      | true =>
        simp only [if_true]
        refine ⟨some error, _, rfl, Or.inr ⟨rfl, ?_, [], window, rfl, ?_⟩⟩
        · rintro ⟨hnot, -⟩
          cases hnot
        · exact ⟨⟨[], [], (List.append_nil _).symm, (List.append_nil _).symm, .refl _, .refl _⟩,
            rfl, rfl⟩
      | false =>
        simp only [Bool.false_eq_true, if_false]
        obtain ⟨stop, after, hdrain, hcases⟩ := @ih { sink with
          inner := { sink.inner with state, refused := sink.inner.refused ++ [window] }
          health := .degraded }
        refine ⟨stop, after, hdrain, ?_⟩
        rcases hcases with ⟨hstop, hdrains, hspool, hhands⟩ |
          ⟨hstop, hdrains, before, lost, hsplit, hhands⟩
        · exact Or.inl ⟨hstop, ⟨trivial, hdrains⟩, hspool, hhands.refuse⟩
        · refine Or.inr ⟨hstop, fun h => hdrains h.2, window :: before, lost, ?_, hhands.refuse⟩
          rw [hsplit, List.cons_append]

theorem pushToSpool_of_room {window : UsageWindow} (h : sink.spool.length < sink.capacity) :
    sink.pushToSpool window = { sink with spool := sink.spool ++ [window] } := by
  rw [pushToSpool, if_neg (Nat.ne_of_lt h)]

end SpoolingUsageSink

namespace SinkHistory

open SpoolingUsageSink

variable {σ : Type} {inner : UsageSink σ} {history : SinkHistory σ}

/-- What every history has: the spool holds at most one window, nothing was dropped, and the order
is kept. -/
structure Sound (history : SinkHistory σ) : Prop where
  capacity : 1 ≤ history.sink.capacity
  spool : history.sink.spool.length ≤ 1
  dropped : history.sink.droppedWindows = 0
  ordered : (history.sink.inner.acknowledged ++ history.sink.spool).Sublist history.appended

/-- What one append does: windows are acknowledged, spooled or refused, and nothing is lost exactly
while the spool drains. -/
structure Appends (inner : UsageSink σ) (history : SinkHistory σ) (window : UsageWindow)
    (after : SinkHistory σ) : Prop where
  appended : after.appended = history.appended ++ [window]
  capacity : after.sink.capacity = history.sink.capacity
  dropped : after.sink.droppedWindows = 0
  spool : after.sink.spool.length ≤ 1
  placed : ∃ taken refused lost, after.sink.inner.acknowledged =
      history.sink.inner.acknowledged ++ taken ∧
    after.sink.inner.refused = history.sink.inner.refused ++ refused ∧
    (taken ++ after.sink.spool).Sublist (history.sink.spool ++ [window]) ∧
    (taken ++ after.sink.spool ++ refused ++ lost).Perm (history.sink.spool ++ [window]) ∧
    (lost = [] ↔ inner.Drains history.sink.spool history.sink.inner.state)

/-- Where the spool has drained, the new window goes to one of the three places. -/
theorem Appends.of_placed {window : UsageWindow}
    {drained after : SpoolingUsageSink (RecordingSink σ)}
    {acknowledged spooled refused : List UsageWindow} (h : history.Sound)
    (hdrains : inner.Drains history.sink.spool history.sink.inner.state)
    (hhands : Hands history.sink history.sink.spool drained)
    (hafter : (history.step inner window).sink = after)
    (hcapacity : after.capacity = drained.capacity)
    (hdropped : after.droppedWindows = drained.droppedWindows)
    (hacknowledged : after.inner.acknowledged = drained.inner.acknowledged ++ acknowledged)
    (hspool : after.spool = spooled)
    (hrefused : after.inner.refused = drained.inner.refused ++ refused)
    (hplaced : acknowledged ++ spooled ++ refused = [window]) :
    Appends inner history window (history.step inner window) := by
  subst hafter hspool
  obtain ⟨⟨taken, refusedBefore, htaken, hrefusedBefore, hsublist, hperm⟩, hdroppedBefore,
    hcapacityBefore⟩ := hhands
  refine ⟨rfl, hcapacity.trans hcapacityBefore, hdropped.trans (hdroppedBefore.trans h.dropped), ?_,
    taken ++ acknowledged, refusedBefore ++ refused, [], ?_, ?_, ?_, ?_, iff_of_true rfl hdrains⟩
  · have hlength := congrArg List.length hplaced
    simp only [List.length_append, List.length_singleton] at hlength
    omega
  · rw [hacknowledged, htaken, List.append_assoc]
  · rw [hrefused, hrefusedBefore, List.append_assoc]
  · rw [List.append_assoc, ← hplaced]
    exact hsublist.append (List.sublist_append_left _ _)
  · -- The windows refused before pass those that are placed now.
    have hpass : (refusedBefore ++ (acknowledged ++ (history.step inner window).sink.spool)).Perm
        (acknowledged ++ (history.step inner window).sink.spool ++ refusedBefore) :=
      List.perm_append_comm
    have hmoved := (hpass.append_right refused).append_left taken
    rw [← hplaced, List.append_nil]
    simp only [List.append_assoc] at hmoved ⊢
    refine hmoved.symm.trans ?_
    have hkept := hperm.append_right
      (acknowledged ++ ((history.step inner window).sink.spool ++ refused))
    simpa only [List.append_assoc] using hkept

/-- The spool has drained, and the inner sink answers to the new window. -/
theorem appends_of_drained {window : UsageWindow} {drained : SpoolingUsageSink (RecordingSink σ)}
    (h : history.Sound) (hdrain : drainSpool (RecordingSink.append inner) history.sink.spool
      history.sink = (none, drained))
    (hdrains : inner.Drains history.sink.spool history.sink.inner.state)
    (hspool : drained.spool = []) (hhands : Hands history.sink history.sink.spool drained) :
    Appends inner history window (history.step inner window) := by
  have hroom : drained.spool.length < drained.capacity := by
    rw [hspool, hhands.capacity]
    exact h.capacity
  have hafter : (history.step inner window).sink =
      (history.sink.append (RecordingSink.append inner) window).2 := rfl
  unfold append at hafter
  rw [hdrain] at hafter
  dsimp only [RecordingSink.append] at hafter
  rcases hanswer : inner drained.inner.state window with ⟨answer, state⟩
  rw [hanswer] at hafter
  cases answer with
  | ok =>
    exact .of_placed h hdrains hhands hafter rfl rfl rfl hspool (List.append_nil _).symm rfl
  | error error =>
    cases hretryable : error.retryable with
    | true =>
      simp only [hretryable, if_true] at hafter
      rw [pushToSpool_of_room (by exact hroom)] at hafter
      refine .of_placed h hdrains hhands hafter rfl rfl (List.append_nil _).symm ?_
        (List.append_nil _).symm (List.append_nil [window])
      show drained.spool ++ [window] = [window]
      rw [hspool, List.nil_append]
    | false =>
      simp only [hretryable, Bool.false_eq_true, if_false] at hafter
      exact .of_placed h hdrains hhands hafter rfl rfl (List.append_nil _).symm hspool rfl rfl

/-- The one window of the spool is lost, and the new one takes its place. -/
theorem appends_of_stopped {window lost : UsageWindow} {error : UsageSinkError}
    {before : List UsageWindow} {stopped : SpoolingUsageSink (RecordingSink σ)}
    (h : history.Sound) (hdrain : drainSpool (RecordingSink.append inner) history.sink.spool
      history.sink = (some error, stopped))
    (hdrains : ¬ inner.Drains history.sink.spool history.sink.inner.state)
    (hsplit : history.sink.spool = before ++ lost :: stopped.spool)
    (hhands : Hands history.sink before stopped) :
    Appends inner history window (history.step inner window) := by
  have hlength := h.spool
  rw [hsplit, List.length_append, List.length_cons] at hlength
  have hbefore : before = [] := List.length_eq_zero_iff.mp (by omega)
  have hspool : stopped.spool = [] := List.length_eq_zero_iff.mp (by omega)
  rw [hbefore, hspool, List.nil_append] at hsplit
  obtain ⟨⟨taken, refused, htaken, hrefused, -, hperm⟩, hdropped, hcapacity⟩ := hhands
  rw [hbefore] at hperm
  obtain ⟨rfl, rfl⟩ := List.append_eq_nil_iff.mp hperm.eq_nil
  rw [List.append_nil] at htaken hrefused
  have hroom : stopped.spool.length < stopped.capacity := by
    rw [hspool, hcapacity]
    exact h.capacity
  have hafter : (history.step inner window).sink = { stopped with spool := [window] } := by
    show (history.sink.append (RecordingSink.append inner) window).2 = _
    unfold append
    rw [hdrain]
    dsimp only
    rw [pushToSpool_of_room hroom, hspool]
    rfl
  refine ⟨rfl, ?_, ?_, ?_, [], [], [lost], ?_, ?_, ?_, ?_, iff_of_false (by simp) hdrains⟩
  · rw [hafter]
    exact hcapacity
  · rw [hafter]
    exact hdropped.trans h.dropped
  · rw [hafter]
    exact Nat.le_refl 1
  · rw [hafter, List.append_nil]
    exact htaken
  · rw [hafter, List.append_nil]
    exact hrefused
  · rw [hafter, hsplit]
    exact List.sublist_append_right _ _
  · rw [hafter, hsplit]
    exact List.perm_append_comm

theorem step_appends (window : UsageWindow) (h : history.Sound) :
    Appends inner history window (history.step inner window) := by
  obtain ⟨stop, after, hdrain, hcases⟩ :=
    @drainSpool_cases σ inner history.sink history.sink.spool
  rcases hcases with ⟨rfl, hdrains, hspool, hhands⟩ | ⟨hstop, hdrains, before, lost, hsplit, hhands⟩
  · exact appends_of_drained h hdrain hdrains hspool hhands
  · obtain ⟨error, rfl⟩ := Option.isSome_iff_exists.mp hstop
    exact appends_of_stopped h hdrain hdrains hsplit hhands

theorem Appends.sound {window : UsageWindow} {after : SinkHistory σ} (h : history.Sound)
    (happends : Appends inner history window after) : after.Sound := by
  obtain ⟨taken, refused, lost, htaken, -, hsublist, -, -⟩ := happends.placed
  refine ⟨?_, happends.spool, happends.dropped, ?_⟩
  · rw [happends.capacity]
    exact h.capacity
  · rw [htaken, happends.appended, List.append_assoc]
    have hordered := h.ordered.append_right [window]
    rw [List.append_assoc] at hordered
    exact (hsublist.append_left _).trans hordered

/-- An append loses no window exactly if the spool drains. -/
theorem Appends.accounted_iff {window : UsageWindow} {after : SinkHistory σ} (h : history.Sound)
    (haccounted : history.Accounted) (happends : Appends inner history window after) :
    after.Accounted ↔ inner.Drains history.sink.spool history.sink.inner.state := by
  have hafter := happends.sound h
  obtain ⟨taken, refused, lost, htaken, hrefused, hsublist, hperm, hlost⟩ := happends.placed
  obtain ⟨⟨dropped, hdropped, hplaced⟩, -⟩ := haccounted
  obtain rfl : dropped = [] := List.length_eq_zero_iff.mp (hdropped.trans h.dropped)
  rw [← hlost]
  constructor
  · rintro ⟨⟨dropped', hdropped', hplaced'⟩, -⟩
    have hbefore := hplaced.length_eq
    have hlater := hplaced'.length_eq
    have hmoved := hperm.length_eq
    rw [happends.dropped] at hdropped'
    rw [htaken, hrefused, happends.appended] at hlater
    simp only [List.length_append, List.length_nil, List.length_singleton] at hbefore hlater hmoved
    apply List.length_eq_zero_iff.mp
    omega
  · rintro rfl
    refine ⟨⟨[], happends.dropped.symm, ?_⟩, (List.sublist_append_left _ _).trans hafter.ordered⟩
    rw [htaken, hrefused, happends.appended]
    rw [← Multiset.coe_eq_coe] at hplaced hperm ⊢
    simp only [← Multiset.coe_add, Multiset.coe_nil, add_zero] at hplaced hperm ⊢
    calc (history.sink.inner.acknowledged : Multiset UsageWindow) + taken + after.sink.spool +
          (history.sink.inner.refused + refused)
        = history.sink.inner.acknowledged + history.sink.inner.refused +
            (taken + after.sink.spool + refused) := by abel
      _ = history.sink.inner.acknowledged + history.sink.inner.refused +
            (history.sink.spool + [window]) := by rw [hperm]
      _ = history.sink.inner.acknowledged + history.sink.spool + history.sink.inner.refused +
            [window] := by abel
      _ = history.appended + [window] := by rw [hplaced]

/-- Over a run every window is in one place exactly if no window is lost on its way out of the
spool; and a window is dropped only when the spool is full. -/
theorem run_spool_accounted_iff (inner : UsageSink σ) (state : σ) (capacity : Nat)
    (hcapacity : 1 ≤ capacity) (windows : List UsageWindow) :
    (Transition.Always (step inner) Accounted (start state capacity) windows ↔
      Transition.Meets (step inner) (fun history _ =>
        inner.Drains history.sink.spool history.sink.inner.state) (start state capacity) windows) ∧
    ∀ window, let history := Transition.run (step inner) (start state capacity) windows
      history.sink.droppedWindows < (history.step inner window).sink.droppedWindows →
        history.sink.spool.length = capacity := by
  have hstart : (start state capacity : SinkHistory σ).Sound :=
    ⟨hcapacity, Nat.zero_le _, rfl, List.Sublist.refl _⟩
  refine ⟨?_, ?_⟩
  · apply Transition.always_iff_meets (J := Sound)
    · exact fun history window h => (step_appends window h).sound h
    · exact fun history window h haccounted => (step_appends window h).accounted_iff h haccounted
    · exact hstart
    · exact ⟨⟨[], rfl, List.Perm.refl _⟩, List.Sublist.refl _⟩
  · intro window history hmore
    have hsound : history.Sound := Transition.run_invariant (P := Sound)
      (fun history window h => (step_appends window h).sound h) hstart windows
    rw [(step_appends window hsound).dropped] at hmore
    exact absurd hmore (Nat.not_lt_zero _)

end SinkHistory

namespace Sample

/-- A window with this number. -/
def numberedWindow (n : Nat) : UsageWindow where
  schemaVersion := usageSchemaVersion
  nodeId := ⟨1⟩
  session := ⟨⟨1⟩, ⟨1⟩⟩
  windowStart := 60000000000 * n
  windowEnd := 60000000000 * (n + 1)
  sequence := n + 1
  capacityRevision := 0
  allocatedCcu := 0
  metrics := (UsageCounters.snapshotAndReset
    { metadata := { nodeId := ⟨1⟩, session := ⟨⟨1⟩, ⟨1⟩⟩ } } 0).1

/-- A sink that is unavailable for the appends that the list says. -/
def flakySink : UsageSink (List Bool) := fun available _ =>
  match available with
  | false :: rest => (.error { message := "unavailable", retryable := true }, rest)
  | true :: rest => (.ok (), rest)
  | [] => (.ok (), [])

end Sample

namespace SinkHistory

/-- The second window is spooled, and handed on with the third. -/
theorem run_spool_accounted_iff_flaky : Transition.Always (step Sample.flakySink) Accounted
    (start [true, false, true] 4)
    [Sample.numberedWindow 0, Sample.numberedWindow 1, Sample.numberedWindow 2] :=
  (run_spool_accounted_iff Sample.flakySink [true, false, true] 4 (by decide)
    [Sample.numberedWindow 0, Sample.numberedWindow 1, Sample.numberedWindow 2]).1.mpr
      ⟨trivial, trivial, trivial, trivial⟩

/-- A window that fails twice is gone. -/
theorem run_not_accounted : ¬ ∀ windows, Transition.Always (step Sample.flakySink) Accounted
    (start [false, false] 4) windows := by
  intro h
  have haccounted := (h [Sample.numberedWindow 0, Sample.numberedWindow 1]).last
  obtain ⟨⟨dropped, hdropped, hplaced⟩, -⟩ := haccounted
  have hlength := hplaced.length_eq
  simp only [List.length_append, hdropped] at hlength
  revert hlength
  decide +kernel

end SinkHistory

end Signalweave
