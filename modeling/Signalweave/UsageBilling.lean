import Signalweave.UsageTiling

/-!
# Reported connection time

The time that is reported stays behind the time for which the connections have been connected, as
long as no window is finalized that ended before a connection started. The counters owe the whole
seconds that they hold and the time that their open connections have run.
-/

namespace Signalweave

/-- One connection over its life. -/
structure Life where
  handle : ConnectionHandle
  started : Instant
  ended : Option Instant := none

namespace Life

/-- The time for which the connection has been connected. -/
def time (now : Instant) (life : Life) : Duration := life.ended.getD now - life.started

/-- A life ends, unless it has ended before. -/
def finish (handle : ConnectionHandle) (now : Instant) (life : Life) : Life :=
  if life.handle = handle ∧ life.ended = none then { life with ended := some now } else life

/-- The handles of the lives that have not ended. -/
def openHandles (lives : List Life) : List ConnectionHandle :=
  (lives.filter fun life => life.ended.isNone).map handle

/-- The time of all lives up to now. -/
def totalTime (now : Instant) (lives : List Life) : Duration := (lives.map (time now)).sum

variable {clock now : Instant} {handle : ConnectionHandle} {lives : List Life}

theorem time_finish (life : Life) : (life.finish handle now).time now = life.time now := by
  unfold finish
  split
  · rename_i hopen
    unfold time
    rw [hopen.2]
    rfl
  · rfl

theorem totalTime_finish : totalTime now (lives.map (finish handle now)) = totalTime now lives := by
  unfold totalTime
  rw [List.map_map]
  exact congrArg List.sum (List.map_congr_left fun life _ => life.time_finish)

theorem totalTime_start :
    totalTime now (lives ++ [{ handle, started := now }]) = totalTime now lives := by
  simp [totalTime, time]

theorem openHandles_start :
    openHandles (lives ++ [{ handle, started := now }]) = openHandles lives ++ [handle] := by
  simp [openHandles, List.filter_append]

theorem openHandles_finish :
    openHandles (lives.map (finish handle now)) = (openHandles lives).filter (· ≠ handle) := by
  induction lives with
  | nil => rfl
  | cons life rest ih =>
    unfold openHandles at ih ⊢
    by_cases hopen : life.ended = none <;> by_cases hhandle : life.handle = handle <;>
      simp_all [finish]

/-- Time runs for the open connections. -/
theorem totalTime_advance (hstarted : ∀ life ∈ lives, life.started ≤ clock) (hle : clock ≤ now) :
    totalTime now lives = totalTime clock lives + (openHandles lives).length * (now - clock) := by
  induction lives with
  | nil => simp [totalTime, openHandles]
  | cons life rest ih =>
    have hrest := ih fun other hin => hstarted other (List.mem_cons_of_mem _ hin)
    have hfirst := hstarted life (List.mem_cons_self ..)
    unfold totalTime openHandles at hrest ⊢
    rw [List.map_cons, List.sum_cons, List.map_cons, List.sum_cons, hrest]
    cases hended : life.ended with
    | none =>
      have htime : life.time now = now - clock + life.time clock := by
        unfold time
        rw [hended]
        exact (Nat.sub_add_sub_cancel hle hfirst).symm
      simp only [hended, Option.isNone_none, List.filter_cons_of_pos, List.map_cons,
        List.length_cons, htime]
      ring
    | some instant =>
      have htime : life.time now = life.time clock := by
        unfold time
        rw [hended]
        rfl
      simp only [hended, Option.isNone_some, Bool.false_eq_true, not_false_eq_true,
        List.filter_cons_of_neg, htime]
      ring

end Life

namespace UsageCounters

variable {counters : UsageCounters} {clock now : Instant} {principal : PrincipalId}
  {handle : ConnectionHandle} {ends : List Instant} {lives : List Life}

/-- The time that the open connections have run since their last snapshot. -/
def runningTime (counters : UsageCounters) (now : Instant) : Nat :=
  ((counters.active.map ActiveConnection.started).map (now - ·)).sum

/-- What the counters may still report, in nanoseconds. -/
def owed (counters : UsageCounters) (now : Instant) : Nat :=
  counters.connectionSeconds * 1000000000 + counters.runningTime now

theorem owed_startConnection :
    (counters.startConnection principal now).2.owed now = counters.owed now := by
  simp [owed, runningTime, startConnection]

/-- The connection that ends turns what it has run into whole seconds. -/
theorem owed_endConnection_le :
    (counters.endConnection handle now).owed now ≤ counters.owed now := by
  rcases @endConnection_cases counters now handle with ⟨-, hsame⟩ | ⟨ended, -, hperm, hsame⟩
  · rw [hsame]
  · have hrunning := ((hperm.map ActiveConnection.started).map (now - ·)).sum_eq
    rw [List.map_cons, List.map_cons, List.sum_cons] at hrunning
    have hwhole := Nat.div_mul_le_self (now - ended.started) 1000000000
    have hseconds : (counters.endConnection handle now).connectionSeconds =
        counters.connectionSeconds + (now - ended.started) / 1000000000 := by
      rw [hsame]
      rfl
    unfold owed runningTime
    rw [hseconds, ← hrunning, Nat.add_mul, Nat.add_assoc]
    exact Nat.add_le_add_left (Nat.add_le_add_right hwhole _) _

/-- Time runs for the open connections. -/
theorem owed_advance (hstarted : ∀ connection ∈ counters.active, connection.started ≤ clock)
    (hle : clock ≤ now) :
    counters.owed now = counters.owed clock + counters.active.length * (now - clock) := by
  have hspans := Rounding.sum_spans_advance (List.forall_mem_map.mpr hstarted) hle
  rw [List.length_map] at hspans
  unfold owed runningTime
  rw [hspans, Nat.add_assoc]

/-- What is reported for the open connections by the end of a window, and what they run after it,
is no more than what they have run. -/
theorem owed_snapshotAndReset_le {windowEnd : Instant} (hstarted : ∀ connection ∈ counters.active,
      connection.started ≤ windowEnd ∧ windowEnd ≤ now) :
    (counters.snapshotAndReset windowEnd).1.connectionSeconds * 1000000000 +
      (counters.snapshotAndReset windowEnd).2.owed now ≤ counters.owed now := by
  have hcut := @Rounding.sum_spans_cut_le 1000000000 windowEnd now _
    (List.forall_mem_map.mpr hstarted)
  have hafter : (counters.snapshotAndReset windowEnd).2.owed now =
      (counters.active.map ActiveConnection.started).length * (now - windowEnd) := by
    simp [owed, runningTime, snapshotAndReset, Function.comp_def]
  have hreported : (counters.snapshotAndReset windowEnd).1.connectionSeconds =
      counters.connectionSeconds + ((counters.active.map ActiveConnection.started).map
        fun start => (windowEnd - start) / 1000000000).sum := by
    rw [List.map_map]
    rfl
  rw [hafter, hreported, Nat.add_mul, Nat.add_assoc]
  exact Nat.add_le_add_left hcut _

/-- The times come one after the other, after the starts of the open connections and up to now. -/
def Follow (counters : UsageCounters) (times : List Instant) (now : Instant) : Prop :=
  ∀ connection ∈ counters.active, (connection.started :: (times ++ [now])).Pairwise (· ≤ ·)

theorem Follow.head {windowEnd : Instant} (h : counters.Follow (windowEnd :: ends) now) :
    ∀ connection ∈ counters.active, connection.started ≤ windowEnd ∧ windowEnd ≤ now := by
  intro connection hin
  obtain ⟨hstarted, hrest⟩ := List.pairwise_cons.mp (h connection hin)
  exact ⟨hstarted windowEnd (List.mem_cons_self ..), (List.pairwise_cons.mp hrest).1 now (by simp)⟩

theorem Follow.tail {windowEnd : Instant} (h : counters.Follow (windowEnd :: ends) now) :
    (counters.snapshotAndReset windowEnd).2.Follow ends now := by
  intro connection hin
  obtain ⟨before, hbefore, rfl⟩ := List.mem_map.mp hin
  exact (List.pairwise_cons.mp (h before hbefore)).2

/-- Snapshots at times that follow report no more than what is owed. -/
theorem owed_snapshots_le (h : counters.Follow ends now) :
    (counters.snapshots ends).1 * 1000000000 + (counters.snapshots ends).2.owed now ≤
      counters.owed now := by
  induction ends generalizing counters with
  | nil =>
    simp only [snapshots, Nat.zero_mul, Nat.zero_add]
    exact Nat.le_refl _
  | cons windowEnd rest ih =>
    have hfirst := owed_snapshotAndReset_le h.head
    have hlater := ih h.tail
    simp only [snapshots]
    rw [Nat.add_mul, Nat.add_assoc]
    exact Nat.le_trans (Nat.add_le_add_left hlater _) hfirst

/-- The lives are those of the connections that were started on the counters: those without an end
are open. -/
structure Tracks (clock : Instant) (counters : UsageCounters) (lives : List Life) : Prop where
  handled : counters.Handled
  running : ∀ connection ∈ counters.active, connection.started ≤ clock
  lived : ∀ life ∈ lives, life.started ≤ clock
  opened : (Life.openHandles lives).Perm (counters.active.map ActiveConnection.handle)

theorem Tracks.advance (h : Tracks clock counters lives) (hle : clock ≤ now) :
    Tracks now counters lives :=
  ⟨h.handled, fun connection hin => Nat.le_trans (h.running connection hin) hle,
    fun life hin => Nat.le_trans (h.lived life hin) hle, h.opened⟩

/-- What is owed grows as the lives do. -/
theorem Tracks.owed_advance (h : Tracks clock counters lives) (hle : clock ≤ now) :
    counters.owed now + Life.totalTime clock lives =
      counters.owed clock + Life.totalTime now lives := by
  have hlength := h.opened.length_eq
  rw [List.length_map] at hlength
  rw [UsageCounters.owed_advance h.running hle, Life.totalTime_advance h.lived hle, hlength]
  exact Nat.add_right_comm _ _ _ |>.trans (Nat.add_assoc _ _ _)

theorem Tracks.startConnection (h : Tracks now counters lives) :
    Tracks now (counters.startConnection principal now).2
      (lives ++ [{ handle := (counters.startConnection principal now).1, started := now }]) := by
  refine ⟨h.handled.startConnection, ?_, ?_, ?_⟩
  · intro connection hin
    rcases List.mem_append.mp hin with hold | hnew
    · exact h.running connection hold
    · rw [List.mem_singleton.mp hnew]
  · intro life hin
    rcases List.mem_append.mp hin with hold | hnew
    · exact h.lived life hold
    · rw [List.mem_singleton.mp hnew]
  · rw [Life.openHandles_start]
    show List.Perm _ ((counters.active ++ [_]).map ActiveConnection.handle)
    rw [List.map_append]
    exact h.opened.append_right _

theorem Tracks.endConnection (h : Tracks now counters lives) :
    Tracks now (counters.endConnection handle now) (lives.map (Life.finish handle now)) := by
  refine ⟨h.handled.endConnection, ?_, ?_, ?_⟩
  · intro connection hin
    exact h.running connection ((mem_endConnection h.handled).mp hin).1
  · intro life hin
    obtain ⟨before, hbefore, rfl⟩ := List.mem_map.mp hin
    have hstarted := h.lived before hbefore
    unfold Life.finish
    split
    · exact hstarted
    · exact hstarted
  · rw [Life.openHandles_finish]
    apply (h.opened.filter _).trans
    have hbefore := h.handled.distinct.filter (· ≠ handle)
    refine (List.perm_ext_iff_of_nodup hbefore h.handled.endConnection.distinct).mpr ?_
    intro other
    simp only [List.mem_filter, List.mem_map, decide_eq_true_eq, mem_endConnection h.handled]
    constructor
    · rintro ⟨⟨connection, hin, rfl⟩, hne⟩
      exact ⟨connection, ⟨hin, hne⟩, rfl⟩
    · rintro ⟨connection, ⟨hin, hne⟩, rfl⟩
      exact ⟨⟨connection, hin, rfl⟩, hne⟩

theorem Tracks.snapshots (h : Tracks now counters lives) (hfollow : counters.Follow ends now) :
    Tracks now (counters.snapshots ends).2 lives := by
  induction ends generalizing counters with
  | nil => exact h
  | cons windowEnd rest ih =>
    refine ih ⟨h.handled.snapshotAndReset, ?_, h.lived, ?_⟩ hfollow.tail
    · intro connection hin
      obtain ⟨before, hbefore, rfl⟩ := List.mem_map.mp hin
      exact (hfollow.head before hbefore).2
    · show List.Perm _ ((counters.active.map _).map ActiveConnection.handle)
      rw [List.map_map]
      exact h.opened

end UsageCounters

namespace UsageAggregator

variable {aggregator : UsageAggregator} {now started : Instant} {index count : Nat}

/-- Ends of windows that have ended, the numbers of 32 bits. -/
theorem endInstants_eq (hduration : 0 < aggregator.windowDuration) (hnow : now ≤ Instant.max)
    (hended : index + count ≤ aggregator.windowsEnded now) (hnumbers : index + count < 2 ^ 32) :
    aggregator.endInstants now index count = (List.range' index count).map fun k =>
      aggregator.baseInstant + aggregator.windowDuration * (k + 1) := by
  apply List.map_congr_left
  intro k hin
  have hlt := (List.mem_range'_1.mp hin).2
  have hend := (lt_windowsEnded_iff hduration).mp (Nat.lt_of_lt_of_le hlt hended)
  unfold endInstant endOffset Instant.checkedAdd
  rw [Nat.mod_eq_of_lt (by omega), if_pos (Nat.le_trans hend hnow)]
  rfl

/-- They follow a start that is not after the first of them. -/
theorem endInstants_pairwise (hduration : 0 < aggregator.windowDuration) (hnow : now ≤ Instant.max)
    (hended : index + count ≤ aggregator.windowsEnded now) (hnumbers : index + count < 2 ^ 32)
    (hfirst : started ≤ aggregator.baseInstant + aggregator.windowDuration * (index + 1))
    (hstarted : started ≤ now) :
    (started :: (aggregator.endInstants now index count ++ [now])).Pairwise (· ≤ ·) := by
  have hmono : ∀ {first later : Nat}, first ≤ later →
      aggregator.baseInstant + aggregator.windowDuration * (first + 1) ≤
        aggregator.baseInstant + aggregator.windowDuration * (later + 1) := by
    intro first later hle
    exact Nat.add_le_add_left (Nat.mul_le_mul_left _ (Nat.succ_le_succ hle)) _
  rw [endInstants_eq hduration hnow hended hnumbers, List.pairwise_cons, List.pairwise_append]
  refine ⟨?_, ?_, List.pairwise_singleton _ _, ?_⟩
  · intro time hin
    rcases List.mem_append.mp hin with hend | hlast
    · obtain ⟨k, hk, rfl⟩ := List.mem_map.mp hend
      exact Nat.le_trans hfirst (hmono (List.mem_range'_1.mp hk).1)
    · rw [List.mem_singleton.mp hlast]
      exact hstarted
  · rw [List.pairwise_map]
    exact (List.pairwise_lt_range' 1 (by decide)).imp fun hlt => hmono (Nat.le_of_lt hlt)
  · intro time hin last hlast
    obtain ⟨k, hk, rfl⟩ := List.mem_map.mp hin
    rw [List.mem_singleton.mp hlast]
    exact (lt_windowsEnded_iff hduration).mp
      (Nat.lt_of_lt_of_le (List.mem_range'_1.mp hk).2 hended)

/-- With windows of whole seconds the whole seconds count the windows that have ended. -/
theorem windowsElapsed_of_whole {seconds : Nat}
    (hduration : aggregator.windowDuration = seconds * 1000000000) :
    aggregator.windowsElapsed now = aggregator.windowsEnded now := by
  unfold windowsElapsed windowsEnded Duration.asSecs
  rw [hduration]
  exact Rounding.div_div_of_whole (by decide)

/-- When windows are finalized while connections are open, each of these started before the first
of the windows ended, and the numbers of the windows have 32 bits. -/
def Timely (aggregator : UsageAggregator) (now : Instant) : Prop :=
  aggregator.windowsEnded now ≤ aggregator.finalizedWindows ∨
    ∀ counters ∈ aggregator.counters, ∀ connection ∈ counters.active,
      aggregator.windowsEnded now < 2 ^ 32 ∧ connection.started ≤
        aggregator.baseInstant + aggregator.windowDuration * (aggregator.finalizedWindows + 1)

/-- The snapshots of a timely tick follow the starts of the connections. -/
theorem Timely.follow (hduration : 0 < aggregator.windowDuration) (hnow : now ≤ Instant.max)
    (htimely : aggregator.Timely now)
    (hrunning : ∀ counters ∈ aggregator.counters, ∀ connection ∈ counters.active,
      connection.started ≤ now) :
    ∀ counters ∈ aggregator.counters, counters.Follow (aggregator.endInstants now
      aggregator.finalizedWindows (aggregator.windowsEnded now - aggregator.finalizedWindows))
        now := by
  intro counters hin connection hopen
  have hstarted := hrunning counters hin connection hopen
  by_cases hdue : aggregator.windowsEnded now ≤ aggregator.finalizedWindows
  · rw [Nat.sub_eq_zero_of_le hdue]
    show (connection.started :: [now]).Pairwise (· ≤ ·)
    simpa using hstarted
  · obtain ⟨hnumbers, hfirst⟩ := (htimely.resolve_left hdue) counters hin connection hopen
    have hsum := Nat.add_sub_cancel' (Nat.le_of_not_le hdue)
    apply endInstants_pairwise hduration hnow (Nat.le_of_eq hsum) _ hfirst hstarted
    rw [hsum]
    exact hnumbers

end UsageAggregator

/-! ## Runs -/

/-- What happens to an aggregator and the counters that are registered with it, some time after
what happened before. -/
inductive BillingOp where
  | register (metadata : AdmissionMetadata)
  | startConnection (server : Nat) (principal : PrincipalId) (delay : Duration)
  | endConnection (server : Nat) (handle : ConnectionHandle) (delay : Duration)
  | tick (delay : Duration) (system : SystemTime)

/-- An aggregator beside the lives of the connections on each registered counters and the seconds
in all windows so far. -/
structure BillingHistory where
  clock : Instant
  aggregator : UsageAggregator
  lives : List (List Life) := []
  billed : Nat := 0

namespace BillingHistory

variable {history : BillingHistory} {seconds : Nat}

/-- An aggregator of which nothing has been asked. -/
def start (nodeId : NodeId) (windowDuration : Duration) (baseInstant : Instant)
    (baseTime : SystemTime) : BillingHistory :=
  { clock := 0, aggregator := .withBase nodeId windowDuration baseInstant baseTime }

/-- The monotonic clock goes on, at most to its last instant. -/
def advance (history : BillingHistory) (delay : Duration) : BillingHistory :=
  { history with clock := min (history.clock + delay) Instant.max }

/-- A connection begins on a server. -/
def startConnection (history : BillingHistory) (server : Nat) (principal : PrincipalId) :
    BillingHistory :=
  match history.aggregator.counters[server]? with
  | none => history
  | some counters =>
    let started := counters.startConnection principal history.clock
    { history with
      aggregator := { history.aggregator with
        counters := history.aggregator.counters.set server started.2 }
      lives := history.lives.modify server
        (· ++ [{ handle := started.1, started := history.clock }]) }

/-- A connection ends on a server. -/
def endConnection (history : BillingHistory) (server : Nat) (handle : ConnectionHandle) :
    BillingHistory :=
  match history.aggregator.counters[server]? with
  | none => history
  | some counters =>
    { history with
      aggregator := { history.aggregator with
        counters := history.aggregator.counters.set server
          (counters.endConnection handle history.clock) }
      lives := history.lives.modify server (·.map (Life.finish handle history.clock)) }

/-- Windows are closed, and their seconds billed. -/
def tick (history : BillingHistory) (system : SystemTime) : BillingHistory :=
  match history.aggregator.tickAt history.clock system with
  | none => history
  | some (windows, aggregator) =>
    { history with
      aggregator
      billed := history.billed + (windows.map fun window => window.metrics.connectionSeconds).sum }

/-- A server is registered, a connection begins or ends, or windows are closed. -/
def step (history : BillingHistory) : BillingOp → BillingHistory
  | .register metadata =>
    { history with
      aggregator := history.aggregator.register { metadata }
      lives := history.lives ++ [[]] }
  | .startConnection server principal delay =>
    (history.advance delay).startConnection server principal
  | .endConnection server handle delay => (history.advance delay).endConnection server handle
  | .tick delay system => (history.advance delay).tick system

/-- The seconds that the counters hold for the next window. -/
def residual (history : BillingHistory) : Nat :=
  (history.aggregator.counters.map UsageCounters.connectionSeconds).sum

/-- The time for which all connections have been connected. -/
def connected (history : BillingHistory) : Nat :=
  (history.lives.map (Life.totalTime history.clock)).sum

/-- No more time is reported than the connections have been connected. -/
def Fair (history : BillingHistory) : Prop :=
  (history.billed + history.residual) * 1000000000 ≤ history.connected

/-- A tick closes its windows in time. -/
def Timely (history : BillingHistory) : BillingOp → Prop
  | .tick delay _ => history.aggregator.Timely (history.advance delay).clock
  | _ => True

/-- What the counters of all servers owe by now. -/
def owed (history : BillingHistory) : Nat :=
  (history.aggregator.counters.map fun counters => counters.owed history.clock).sum

/-- What has been reported and what is still owed stay behind the time that was connected. -/
structure Balanced (seconds : Nat) (history : BillingHistory) : Prop where
  duration : history.aggregator.windowDuration = seconds * 1000000000
  clock : history.clock ≤ Instant.max
  sequence : history.aggregator.nextSequence = history.aggregator.finalizedWindows + 1
  tracks : List.Forall₂ (UsageCounters.Tracks history.clock) history.aggregator.counters
    history.lives
  owed : history.billed * 1000000000 + history.owed ≤ history.connected

/-! ### Entries of lists side by side -/

theorem forall₂_update {α β : Type} {R : α → β → Prop} {first : List α} {second : List β}
    {index : Nat} {old new : α} {change : β → β} (h : List.Forall₂ R first second)
    (hold : first[index]? = some old) (hnew : ∀ other, R old other → R new (change other)) :
    List.Forall₂ R (first.set index new) (second.modify index change) := by
  induction h generalizing index with
  | nil => cases hold
  | @cons head other tail others hhead htail ih =>
    cases index with
    | zero =>
      cases hold
      exact .cons (hnew other hhead) htail
    | succ index => exact .cons hhead (ih hold)

theorem sum_map_set_le {α : Type} {values : List α} {weight : α → Nat} {index : Nat}
    {old new : α} (hold : values[index]? = some old) (hle : weight new ≤ weight old) :
    ((values.set index new).map weight).sum ≤ (values.map weight).sum := by
  induction values generalizing index with
  | nil => exact Nat.le_refl _
  | cons head tail ih =>
    cases index with
    | zero =>
      cases hold
      exact Nat.add_le_add_right hle _
    | succ index => exact Nat.add_le_add_left (ih hold) _

theorem map_modify_of_eq {α β : Type} {values : List α} {index : Nat} {change : α → α}
    {read : α → β} (h : ∀ value, read (change value) = read value) :
    (values.modify index change).map read = values.map read := by
  induction values generalizing index with
  | nil => rw [List.modify_nil]
  | cons head tail ih =>
    cases index with
    | zero => rw [List.modify_zero_cons, List.map_cons, h, List.map_cons]
    | succ index => rw [List.modify_succ_cons, List.map_cons, ih, List.map_cons]

/-! ### Steps -/

theorem Balanced.fair (h : history.Balanced seconds) : history.Fair := by
  have hresidual : history.residual * 1000000000 ≤ history.owed := by
    unfold residual BillingHistory.owed
    rw [← List.sum_map_mul_right]
    apply List.sum_le_sum
    intro counters _
    exact Nat.le_add_right _ _
  unfold Fair
  rw [Nat.add_mul]
  exact Nat.le_trans (Nat.add_le_add_left hresidual _) h.owed

theorem owed_advance {clock now : Instant} {counters : List UsageCounters}
    {lives : List (List Life)}
    (h : List.Forall₂ (UsageCounters.Tracks clock) counters lives) (hle : clock ≤ now) :
    (counters.map fun counters => counters.owed now).sum +
        (lives.map (Life.totalTime clock)).sum =
      (counters.map fun counters => counters.owed clock).sum +
        (lives.map (Life.totalTime now)).sum := by
  induction h with
  | nil => rfl
  | cons hhead _ ih =>
    have hfirst := hhead.owed_advance hle
    simp only [List.map_cons, List.sum_cons]
    rw [Nat.add_add_add_comm, hfirst, ih, Nat.add_add_add_comm]

theorem Balanced.advance (h : history.Balanced seconds) (delay : Duration) :
    (history.advance delay).Balanced seconds := by
  have hle : history.clock ≤ (history.advance delay).clock :=
    Nat.le_min.mpr ⟨Nat.le_add_right _ _, h.clock⟩
  refine ⟨h.duration, Nat.min_le_right _ _, h.sequence, ?_, ?_⟩
  · exact h.tracks.imp fun _ _ htracks => htracks.advance hle
  · have hgrow : (history.advance delay).owed + history.connected =
        history.owed + (history.advance delay).connected := owed_advance h.tracks hle
    have howed := h.owed
    show history.billed * 1000000000 + (history.advance delay).owed ≤ _
    omega

theorem Balanced.startConnection (h : history.Balanced seconds) (server : Nat)
    (principal : PrincipalId) : (history.startConnection server principal).Balanced seconds := by
  unfold BillingHistory.startConnection
  cases hserver : history.aggregator.counters[server]? with
  | none => exact h
  | some counters =>
    refine ⟨h.duration, h.clock, h.sequence, ?_, ?_⟩
    · exact forall₂_update h.tracks hserver fun lives htracks => htracks.startConnection
    · have hsum := @sum_map_set_le _ _ (fun counters => counters.owed history.clock) _ _ _ hserver
        (Nat.le_of_eq (@UsageCounters.owed_startConnection counters history.clock principal))
      have hlives := @map_modify_of_eq _ _ history.lives server _ _ fun lives =>
        @Life.totalTime_start history.clock
          (counters.startConnection principal history.clock).1 lives
      show history.billed * 1000000000 + _ ≤ (List.map _ (history.lives.modify server _)).sum
      rw [hlives]
      exact Nat.le_trans (Nat.add_le_add_left hsum _) h.owed

theorem Balanced.endConnection (h : history.Balanced seconds) (server : Nat)
    (handle : ConnectionHandle) : (history.endConnection server handle).Balanced seconds := by
  unfold BillingHistory.endConnection
  cases hserver : history.aggregator.counters[server]? with
  | none => exact h
  | some counters =>
    refine ⟨h.duration, h.clock, h.sequence, ?_, ?_⟩
    · exact forall₂_update h.tracks hserver fun lives htracks => htracks.endConnection
    · have hsum := @sum_map_set_le _ _ (fun counters => counters.owed history.clock) _ _ _ hserver
        (@UsageCounters.owed_endConnection_le counters history.clock handle)
      have hlives := @map_modify_of_eq _ _ history.lives server _ _ fun lives =>
        @Life.totalTime_finish history.clock handle lives
      show history.billed * 1000000000 + _ ≤ (List.map _ (history.lives.modify server _)).sum
      rw [hlives]
      exact Nat.le_trans (Nat.add_le_add_left hsum _) h.owed

theorem running_of_tracks {clock : Instant} {counters : List UsageCounters}
    {lives : List (List Life)} (h : List.Forall₂ (UsageCounters.Tracks clock) counters lives) :
    ∀ server ∈ counters, ∀ connection ∈ server.active, connection.started ≤ clock := by
  induction h with
  | nil => exact fun _ hin => absurd hin List.not_mem_nil
  | cons hhead _ ih => exact List.forall_mem_cons.mpr ⟨hhead.running, ih⟩

/-- The snapshots of all counters report no more than what these owe. -/
theorem snapshotSeconds_le {aggregator : UsageAggregator} {now : Instant} {ends : List Instant}
    (hfollow : ∀ counters ∈ aggregator.counters, counters.Follow ends now) :
    aggregator.snapshotSeconds ends * 1000000000 +
        ((aggregator.snapshotAll ends).map fun counters => counters.owed now).sum ≤
      (aggregator.counters.map fun counters => counters.owed now).sum := by
  unfold UsageAggregator.snapshotSeconds UsageAggregator.snapshotAll
  rw [← List.sum_map_mul_right, List.map_map, ← List.sum_map_add]
  apply List.sum_le_sum
  intro counters hin
  exact UsageCounters.owed_snapshots_le (hfollow counters hin)

theorem Balanced.tick (hseconds : 0 < seconds) (h : history.Balanced seconds) (system : SystemTime)
    (htimely : history.aggregator.Timely history.clock) :
    (history.tick system).Balanced seconds := by
  have hlong : 1000000000 ≤ history.aggregator.windowDuration := by
    rw [h.duration]
    exact Nat.le_mul_of_pos_left _ hseconds
  have hduration : 0 < history.aggregator.windowDuration := Nat.lt_of_lt_of_le (by decide) hlong
  obtain ⟨windows, pending, htick, hfinalizes⟩ :=
    @UsageAggregator.tickAt_eq history.aggregator history.clock system hlong h.clock h.sequence
  have hfollow := htimely.follow hduration h.clock (running_of_tracks h.tracks)
  have hsnapshots := snapshotSeconds_le hfollow
  have hreported := hfinalizes.seconds
  rw [UsageAggregator.windowsElapsed_of_whole h.duration] at htick hreported
  unfold BillingHistory.tick
  rw [htick]
  refine ⟨h.duration, h.clock, ?_, ?_, ?_⟩
  · show history.aggregator.nextSequence + _ = history.aggregator.finalizedWindows + _ + 1
    rw [h.sequence, Nat.add_right_comm]
  · apply List.forall₂_map_left_iff.mpr
    exact ((List.forall₂_and_left _ _).mpr ⟨hfollow, h.tracks⟩).imp fun _ _ hboth =>
      hboth.2.snapshots hboth.1
  · have howed := h.owed
    show (history.billed + _) * 1000000000 + _ ≤ history.connected
    rw [hreported, Nat.add_mul, Nat.add_assoc]
    exact Nat.le_trans (Nat.add_le_add_left hsnapshots _) howed

theorem Balanced.step (hseconds : 0 < seconds) (h : history.Balanced seconds) (op : BillingOp)
    (htimely : history.Timely op) : (history.step op).Balanced seconds := by
  cases op with
  | register metadata =>
    have hnew : UsageCounters.Tracks history.clock { metadata } [] :=
      ⟨⟨List.nodup_nil, fun _ hin => absurd hin List.not_mem_nil⟩,
        fun _ hin => absurd hin List.not_mem_nil, fun _ hin => absurd hin List.not_mem_nil, .nil⟩
    refine ⟨h.duration, h.clock, h.sequence, ?_, ?_⟩
    · exact List.rel_append h.tracks (.cons hnew .nil)
    · have hnone : UsageCounters.owed { metadata } history.clock = 0 := by
        simp [UsageCounters.owed, UsageCounters.runningTime]
      show history.billed * 1000000000 +
          ((history.aggregator.counters ++ [_]).map fun counters : UsageCounters =>
            counters.owed history.clock).sum ≤
        ((history.lives ++ [[]]).map (Life.totalTime _)).sum
      rw [List.map_append, List.sum_append, List.map_singleton, List.sum_singleton, hnone,
        List.map_append, List.sum_append]
      exact h.owed
  | startConnection server principal delay =>
    exact (h.advance delay).startConnection server principal
  | endConnection server handle delay => exact (h.advance delay).endConnection server handle
  | tick delay system => exact (h.advance delay).tick hseconds system htimely

/-- In a run whose ticks are timely, no more time is ever reported than the connections have been
connected. -/
theorem run_fair (nodeId : NodeId) {seconds : Nat} (hseconds : 0 < seconds) (baseInstant : Instant)
    (baseTime : SystemTime) {ops : List BillingOp}
    (htimely : Transition.Meets step Timely
      (start nodeId (seconds * 1000000000) baseInstant baseTime) ops) :
    Transition.Always step Fair (start nodeId (seconds * 1000000000) baseInstant baseTime) ops := by
  have hstart : Balanced seconds (start nodeId (seconds * 1000000000) baseInstant baseTime) :=
    ⟨rfl, Nat.zero_le _, rfl, .nil, by simp [start, BillingHistory.owed, UsageAggregator.withBase]⟩
  have halways : Transition.Always step (Balanced seconds) _ ops :=
    Transition.always_of_meets (fun _ op h htimely => h.step hseconds op htimely) hstart htimely
  exact halways.imp fun _ h => h.fair

/-- A connection that runs from the fifth second on through two windows of ten seconds. -/
theorem run_fair_windows : Transition.Always step Fair (start ⟨1⟩ (10 * 1000000000) 0 0)
    [.register { nodeId := ⟨1⟩, session := ⟨⟨1⟩, ⟨1⟩⟩ }, .startConnection 0 ⟨1⟩ 5000000000,
      .tick 16000000000 0, .endConnection 0 1 4500000000, .tick 5000000000 0] :=
  run_fair ⟨1⟩ (by decide) 0 0 ⟨trivial, trivial, Or.inr (by decide +kernel), trivial,
    Or.inr (by decide +kernel), trivial⟩

/-- A connection that starts after the end of a window and before the tick that finalizes it is
charged from the end of the window on. -/
theorem run_not_fair : ¬ ∀ nodeId seconds baseInstant baseTime ops, 0 < seconds →
    Transition.Always step Fair (start nodeId (seconds * 1000000000) baseInstant baseTime) ops := by
  intro h
  have hlast := (h ⟨1⟩ 10 0 0 [.register { nodeId := ⟨1⟩, session := ⟨⟨1⟩, ⟨1⟩⟩ },
    .startConnection 0 ⟨1⟩ 15000000000, .tick 1000000000 0, .endConnection 0 1 4000000000]
    (by decide)).last
  revert hlast
  unfold Fair
  decide +kernel

end BillingHistory

end Signalweave
