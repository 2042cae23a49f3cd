import Signalweave.Library.Fields
import Signalweave.UsageTiling

/-!
# The identity of windows

A sink recognises a window by its node, session and number. The number counts from one again in
every aggregator of the node, and so the start of the window is not determined by them.
-/

namespace Signalweave

/-- `UsageWindow::idempotency_id`. -/
def UsageWindow.idempotencyId (window : UsageWindow) : String :=
  s!"swu:{window.schemaVersion}:{window.nodeId.get}:{window.session.namespaceId.get}:" ++
    s!"{window.session.session.get}:{window.sequence}"

/-- The numbers that the identity consists of. -/
def UsageWindow.identity (window : UsageWindow) : List Nat :=
  [window.schemaVersion, window.nodeId.get, window.session.namespaceId.get,
    window.session.session.get, window.sequence]

theorem UsageWindow.toList_idempotencyId (window : UsageWindow) :
    window.idempotencyId.toList = "swu".toList ++ Fields.fields ':' window.identity := by
  have hsep : (toString ":").toList = [':'] := rfl
  have hstart : (toString "swu:").toList = "swu".toList ++ [':'] := rfl
  simp [idempotencyId, identity, Fields.fields, hsep, hstart]

theorem UsageWindow.idempotencyId_inj {first second : UsageWindow} :
    first.idempotencyId = second.idempotencyId ↔ first.identity = second.identity := by
  constructor
  · intro h
    have hlists := congrArg String.toList h
    rw [toList_idempotencyId, toList_idempotencyId, List.append_cancel_left_eq] at hlists
    exact Fields.fields_injective rfl hlists
  · intro h
    apply String.toList_inj.mp
    rw [toList_idempotencyId, toList_idempotencyId, h]

/-- What the windows of an aggregator have of it. -/
def UsageAggregator.Stamps (aggregator : UsageAggregator) (window : UsageWindow) : Prop :=
  window.schemaVersion = usageSchemaVersion ∧ window.nodeId = aggregator.nodeId

namespace UsageAggregator

variable {aggregator after : UsageAggregator} {now : Instant} {clock : SystemTime}
  {windows : List UsageWindow}

theorem finalizeWindow_stamps {index : Nat}
    (h : aggregator.finalizeWindow now clock index = some (windows, after)) :
    after.nodeId = aggregator.nodeId ∧ ∀ window ∈ windows, aggregator.Stamps window := by
  unfold finalizeWindow at h
  obtain ⟨offset, -, h⟩ := Option.map_eq_some_iff.mp h
  simp only [Prod.mk.injEq] at h
  obtain ⟨rfl, rfl⟩ := h
  refine ⟨rfl, ?_⟩
  intro window hin
  obtain ⟨counters, -, rfl⟩ := List.mem_map.mp hin
  exact ⟨rfl, rfl⟩

theorem finalizeWindows_stamps {count index : Nat}
    (h : finalizeWindows now clock count index aggregator = some (windows, after)) :
    ∀ window ∈ windows, aggregator.Stamps window := by
  induction count generalizing index aggregator windows with
  | zero =>
    cases h
    simp
  | succ count ih =>
    unfold finalizeWindows at h
    obtain ⟨⟨first, middle⟩, hfirst, h⟩ := Option.bind_eq_some_iff.mp h
    obtain ⟨⟨later, last⟩, hlater, h⟩ := Option.map_eq_some_iff.mp h
    simp only [Prod.mk.injEq] at h
    obtain ⟨rfl, rfl⟩ := h
    obtain ⟨hnode, hstamps⟩ := finalizeWindow_stamps hfirst
    intro window hin
    rcases List.mem_append.mp hin with hin | hin
    · exact hstamps window hin
    · obtain ⟨hschema, hlast⟩ := ih hlater window hin
      exact ⟨hschema, hlast.trans hnode⟩

theorem tickAt_stamps (h : aggregator.tickAt now clock = some (windows, after)) :
    ∀ window ∈ windows, aggregator.Stamps window := by
  unfold tickAt at h
  dsimp only at h
  split at h
  · cases h
    simp
  split at h
  · cases h
  split at h
  · cases h
    simp
  · obtain ⟨⟨finalized, last⟩, hfinalized, h⟩ := Option.map_eq_some_iff.mp h
    simp only [Prod.mk.injEq] at h
    obtain ⟨rfl, -⟩ := h
    intro window hin
    exact finalizeWindows_stamps hfinalized window hin

end UsageAggregator

namespace TickHistory

variable {history : TickHistory} {session : SessionKey} {number : Nat} {system : PlatformTime}

/-- The windows that a tick returns. -/
def finalized (history : TickHistory) : TickOp → List UsageWindow
  | .register _ => []
  | .tick delay system =>
    match history.aggregator.tickAt (history.now delay) system with
    | some (windows, _) => windows
    | none => []

/-- The windows of all ticks of a run. -/
def finalizedIn : TickHistory → List TickOp → List UsageWindow
  | _, [] => []
  | history, op :: rest => history.finalized op ++ finalizedIn (history.step op) rest

/-- The window of this number comes due at the operation, a tick at this system time, and counters
of the session are registered. -/
def Due (history : TickHistory) (session : SessionKey) (number : Nat) (system : PlatformTime) :
    TickOp → Prop
  | .register _ => False
  | .tick delay now =>
    now = system ∧ 1000000000 ≤ history.aggregator.windowDuration ∧
      history.aggregator.finalizedWindows < number ∧
      number ≤ history.aggregator.windowsElapsed (history.now delay) ∧
      ∃ counters ∈ history.aggregator.counters, counters.metadata.session = session

/-- The window comes due at one of the operations of a run. -/
def DueIn (session : SessionKey) (number : Nat) (system : PlatformTime) :
    TickHistory → List TickOp → Prop
  | _, [] => False
  | history, op :: rest =>
    history.Due session number system op ∨ DueIn session number system (history.step op) rest

end TickHistory

/-- One aggregator of a node from its start on: with what it is made, and what happens to it. -/
structure AggregatorLife where
  windowDuration : Duration
  baseInstant : Instant
  baseTime : PlatformTime
  ops : List TickOp

namespace AggregatorLife

/-- The aggregator of a life, of which nothing has been asked. -/
def start (life : AggregatorLife) (nodeId : NodeId) : TickHistory :=
  .start nodeId life.windowDuration life.baseInstant life.baseTime

/-- The windows that are finalized in the life. -/
def windows (life : AggregatorLife) (nodeId : NodeId) : List UsageWindow :=
  (life.start nodeId).finalizedIn life.ops

/-- Where the window of this number starts: so many windows after the base, and at the base or
before the system time of the tick where this cannot be represented. -/
def startOf (life : AggregatorLife) (system : PlatformTime) (number : Nat) : SystemTime :=
  let windowEnd := (SystemTime.checkedAdd life.baseTime
    (life.windowDuration * (number % 2 ^ 32))).getD system
  (SystemTime.checkedSub windowEnd life.windowDuration).getD life.baseTime

/-- The window of this number and session comes due in the life. -/
def Due (life : AggregatorLife) (nodeId : NodeId) (session : SessionKey) (number : Nat)
    (system : PlatformTime) : Prop :=
  (life.start nodeId).DueIn session number system life.ops

end AggregatorLife

namespace TickHistory

variable {history : TickHistory} {life : AggregatorLife} {nodeId : NodeId} {op : TickOp}

/-- The aggregator is at some point of the life. -/
structure Lives (nodeId : NodeId) (life : AggregatorLife) (history : TickHistory) : Prop where
  node : history.aggregator.nodeId = nodeId
  duration : history.aggregator.windowDuration = life.windowDuration
  base : history.aggregator.baseTime = life.baseTime
  sequence : history.aggregator.nextSequence = history.aggregator.finalizedWindows + 1

theorem Lives.start : (life.start nodeId).Lives nodeId life := ⟨rfl, rfl, rfl, rfl⟩

/-- What a tick returns, by the length of the windows. -/
theorem Lives.tick_cases (h : history.Lives nodeId life) (delay : Duration)
    (system : PlatformTime) :
    (history.step (.tick delay system)).Lives nodeId life ∧
      (history.finalized (.tick delay system)).map UsageWindow.frame =
        if 1000000000 ≤ history.aggregator.windowDuration then
          (List.range' history.aggregator.finalizedWindows
              (history.aggregator.windowsElapsed (history.now delay) -
                history.aggregator.finalizedWindows)).flatMap
            fun k => history.aggregator.counters.map (history.aggregator.frameAt system k)
        else [] := by
  by_cases hseconds : 1000000000 ≤ history.aggregator.windowDuration
  · rw [if_pos hseconds]
    obtain ⟨windows, pending, htick, hfinalizes⟩ := @UsageAggregator.tickAt_eq history.aggregator
      (history.now delay) system hseconds (Nat.min_le_right _ _) h.sequence
    unfold step finalized
    dsimp only
    rw [htick]
    refine ⟨⟨h.node, h.duration, h.base, ?_⟩, hfinalizes.frames⟩
    show history.aggregator.nextSequence + _ = history.aggregator.finalizedWindows + _ + 1
    rw [h.sequence, Nat.add_right_comm]
  · rw [if_neg hseconds]
    unfold step finalized
    dsimp only
    by_cases hzero : history.aggregator.windowDuration = 0
    · have htick : history.aggregator.tickAt (history.now delay) system =
          some ([], history.aggregator) := by
        unfold UsageAggregator.tickAt
        rw [if_pos hzero]
      rw [htick]
      exact ⟨⟨h.node, h.duration, h.base, h.sequence⟩, rfl⟩
    · rw [UsageAggregator.tickAt_eq_none hzero hseconds]
      exact ⟨⟨h.node, h.duration, h.base, h.sequence⟩, rfl⟩

theorem Lives.step (h : history.Lives nodeId life) (op : TickOp) :
    (history.step op).Lives nodeId life := by
  cases op with
  | register counters => exact ⟨h.node, h.duration, h.base, h.sequence⟩
  | tick delay system => exact (h.tick_cases delay system).1

theorem Lives.stamps (h : history.Lives nodeId life) (op : TickOp) :
    ∀ window ∈ history.finalized op,
      window.schemaVersion = usageSchemaVersion ∧ window.nodeId = nodeId := by
  intro window hin
  cases op with
  | register counters => cases hin
  | tick delay system =>
    unfold finalized at hin
    dsimp only at hin
    cases htick : history.aggregator.tickAt (history.now delay) system with
    | none =>
      rw [htick] at hin
      cases hin
    | some result =>
      rw [htick] at hin
      have hstamps := UsageAggregator.tickAt_stamps htick window hin
      exact ⟨hstamps.1, hstamps.2.trans h.node⟩

/-- The windows of an operation are those that come due. -/
theorem Lives.mem_finalized_iff (h : history.Lives nodeId life) (op : TickOp)
    {session : SessionKey} {number : Nat} {time : SystemTime} :
    (∃ window ∈ history.finalized op,
        window.session = session ∧ window.sequence = number ∧ window.windowStart = time) ↔
      ∃ system, history.Due session number system op ∧ time = life.startOf system number := by
  cases op with
  | register counters => simp [finalized, Due]
  | tick delay system =>
    have hframes := (h.tick_cases delay system).2
    have hframe : (∃ window ∈ history.finalized (.tick delay system), window.session = session ∧
        window.sequence = number ∧ window.windowStart = time) ↔
          ∃ frame ∈ (history.finalized (.tick delay system)).map UsageWindow.frame,
            frame.session = session ∧ frame.sequence = number ∧ frame.windowStart = time := by
      simp [UsageWindow.frame]
    rw [hframe, hframes]
    split
    · rename_i hseconds
      simp only [List.mem_flatMap, List.mem_range'_1, List.mem_map, Due]
      constructor
      · rintro ⟨_, ⟨k, ⟨hfirst, hlast⟩, counters, hcounters, rfl⟩, hsession, hnumber, htime⟩
        have hnumber : k + 1 = number := hnumber
        refine ⟨system, ⟨rfl, hseconds, by omega, by omega, counters, hcounters, hsession⟩, ?_⟩
        rw [← htime, ← hnumber]
        unfold UsageAggregator.frameAt UsageAggregator.endTime UsageAggregator.endOffset
        rw [h.base, h.duration]
        rfl
      · rintro ⟨_, ⟨rfl, -, hfirst, hlast, counters, hcounters, hsession⟩, htime⟩
        refine ⟨_, ⟨number - 1, ⟨by omega, by omega⟩, counters, hcounters, rfl⟩, hsession, ?_, ?_⟩
        · show number - 1 + 1 = number
          omega
        · rw [htime]
          unfold UsageAggregator.frameAt UsageAggregator.endTime UsageAggregator.endOffset
          rw [h.base, h.duration, Nat.sub_add_cancel (by omega)]
          rfl
    · rename_i hshort
      constructor
      · rintro ⟨_, hin, -⟩
        cases hin
      · rintro ⟨_, ⟨-, hseconds, -⟩, -⟩
        exact absurd hseconds hshort

/-- The windows of a run are those that come due in it. -/
theorem Lives.mem_finalizedIn_iff (h : history.Lives nodeId life) (ops : List TickOp)
    {session : SessionKey} {number : Nat} {time : SystemTime} :
    (∃ window ∈ history.finalizedIn ops,
        window.session = session ∧ window.sequence = number ∧ window.windowStart = time) ↔
      ∃ system, history.DueIn session number system ops ∧
        time = life.startOf system number := by
  induction ops generalizing history with
  | nil => simp [finalizedIn, DueIn]
  | cons op rest ih =>
    have hfirst := @Lives.mem_finalized_iff _ _ _ h op session number time
    have hrest := ih (h.step op)
    simp only [finalizedIn, List.mem_append, or_and_right, exists_or, DueIn]
    rw [hfirst, hrest]

theorem Lives.stampsIn (h : history.Lives nodeId life) (ops : List TickOp) :
    ∀ window ∈ history.finalizedIn ops,
      window.schemaVersion = usageSchemaVersion ∧ window.nodeId = nodeId := by
  induction ops generalizing history with
  | nil => simp [finalizedIn]
  | cons op rest ih =>
    intro window hin
    rcases List.mem_append.mp hin with hin | hin
    · exact h.stamps op window hin
    · exact ih (h.step op) window hin

end TickHistory

namespace AggregatorLife

variable {life : AggregatorLife} {nodeId : NodeId}

/-- Among all windows that the aggregators of a node finalize, windows of one identity are those
of one node, session, start and number exactly if windows of one session and number that come due
in two of the lives start at one time. -/
theorem identified_iff (nodeId : NodeId) (lives : List AggregatorLife) :
    (∀ first ∈ lives, ∀ second ∈ lives,
        ∀ window ∈ first.windows nodeId, ∀ other ∈ second.windows nodeId,
          window.idempotencyId = other.idempotencyId →
            window.nodeId = other.nodeId ∧ window.session = other.session ∧
              window.windowStart = other.windowStart ∧ window.sequence = other.sequence) ↔
      ∀ first ∈ lives, ∀ second ∈ lives, ∀ session number system otherSystem,
        first.Due nodeId session number system → second.Due nodeId session number otherSystem →
          first.startOf system number = second.startOf otherSystem number := by
  constructor
  · intro hidentified first hfirst second hsecond session number system otherSystem hdue hother
    obtain ⟨window, hwindow, hsession, hnumber, htime⟩ :=
      (TickHistory.Lives.start.mem_finalizedIn_iff first.ops).mpr ⟨system, hdue, rfl⟩
    obtain ⟨other, hin, hsession', hnumber', htime'⟩ :=
      (TickHistory.Lives.start.mem_finalizedIn_iff second.ops).mpr ⟨otherSystem, hother, rfl⟩
    obtain ⟨hschema, hnode⟩ := TickHistory.Lives.start.stampsIn first.ops window hwindow
    obtain ⟨hschema', hnode'⟩ := TickHistory.Lives.start.stampsIn second.ops other hin
    have hid : window.idempotencyId = other.idempotencyId := by
      rw [UsageWindow.idempotencyId_inj]
      unfold UsageWindow.identity
      rw [hschema, hschema', hnode, hnode', hsession, hsession', hnumber, hnumber']
    have hequal := (hidentified first hfirst second hsecond window hwindow other hin hid).2.2.1
    rw [← htime, ← htime', hequal]
  · intro haligned first hfirst second hsecond window hwindow other hin hid
    have hequal := UsageWindow.idempotencyId_inj.mp hid
    simp only [UsageWindow.identity, List.cons.injEq, and_true] at hequal
    obtain ⟨-, hnode, hnamespace, hsession, hnumber⟩ := hequal
    have hkey : window.session = other.session := by
      rcases hw : window.session with ⟨⟨a⟩, ⟨b⟩⟩
      rcases ho : other.session with ⟨⟨c⟩, ⟨d⟩⟩
      simp_all
    obtain ⟨system, hdue, hstart⟩ := (TickHistory.Lives.start.mem_finalizedIn_iff first.ops).mp
      ⟨window, hwindow, hkey, hnumber, rfl⟩
    obtain ⟨otherSystem, hother, hstart'⟩ :=
      (TickHistory.Lives.start.mem_finalizedIn_iff second.ops).mp ⟨other, hin, rfl, rfl, rfl⟩
    refine ⟨TypedId.get_injective hnode, hkey, ?_, hnumber⟩
    rw [hstart, hstart']
    exact haligned first hfirst second hsecond _ _ _ _ hdue hother

end AggregatorLife

namespace Sample

/-- An aggregator with windows of a minute that finalizes the first one. -/
def minuteLife (baseTime : PlatformTime) : AggregatorLife where
  windowDuration := 60000000000
  baseInstant := 0
  baseTime := baseTime
  ops := [.register { metadata := { nodeId := ⟨1⟩, session := ⟨⟨1⟩, ⟨1⟩⟩ } },
    .tick 60000000000 unixEpoch]

end Sample

namespace AggregatorLife

/-- The first windows of two aggregators that were started an hour apart have one identity. -/
theorem restart_not_identified : ¬ ∀ (nodeId : NodeId) (lives : List AggregatorLife),
    ∀ first ∈ lives, ∀ second ∈ lives,
      ∀ window ∈ first.windows nodeId, ∀ other ∈ second.windows nodeId,
        window.idempotencyId = other.idempotencyId →
          window.nodeId = other.nodeId ∧ window.session = other.session ∧
            window.windowStart = other.windowStart ∧ window.sequence = other.sequence := by
  intro h
  let hour : PlatformTime := ⟨3600000000000, by decide⟩
  have hwindows := h ⟨1⟩ [Sample.minuteLife Sample.unixEpoch, Sample.minuteLife hour]
    (Sample.minuteLife Sample.unixEpoch) (by simp) (Sample.minuteLife hour) (by simp)
  revert hwindows
  decide +kernel

end AggregatorLife

end Signalweave
