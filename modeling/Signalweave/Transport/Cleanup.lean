import Signalweave.Transport.Announcing

/-!
# A fan-out comes to its end

Sending an envelope and cleaning up after it call each other. Each clean-up takes a connection from
the core for good or calls nothing, so that the calls return, and what is removed with the
connection is announced by this clean-up only.
-/

open Std

namespace Signalweave.Transport

open Protocol (Envelope)
open Stateful WovenCore

/-- The call cleans a dead connection up. -/
def Task.isCleanup : Task → Bool
  | .cleanup _ => true
  | _ => false

namespace Serving

/-- The call of `distribute_to_space_excluding`. -/
def distributing (worker : Worker) (space : SpaceKey) (envelope : Envelope)
    (excluded : Option ConnectionId) : Serving where
  worker
  tasks := [.distribute space envelope excluded]
  opened := worker.core
  places := placeIn worker.core

/-- The nested calls, each with the channels that have room then and the clock of its clean-up. -/
def fanOut (state : Serving) (calls : List ((ConnectionId → Bool) × ReleaseClock)) : Serving :=
  Transition.run (fun state call => state.work call.1 call.2) state calls

/-- How often a connection is taken from the core. -/
def removals (c : ConnectionId) : Serving → List ((ConnectionId → Bool) × ReleaseClock) → Nat
  | _, [] => 0
  | state, call :: rest =>
    let next := state.work call.1 call.2
    (if c ∈ state.worker.core.connections ∧ c ∉ next.worker.core.connections then 1 else 0) +
      removals c next rest

/-- The call returns after finitely many nested calls. It takes no connection from the core twice,
and who is registered for a space when it returns has been told once, beyond what the envelope
says itself, of each entity of the space that has been removed. -/
structure FansOut (worker : Worker) (space : SpaceKey) (envelope : Envelope)
    (excluded : Option ConnectionId) : Prop where
  returns : ∀ calls : ℕ → (ConnectionId → Bool) × ReleaseClock,
    ∃ n, ((distributing worker space envelope excluded).fanOut
      ((List.range n).map calls)).tasks = []
  once : ∀ calls c, removals c (distributing worker space envelope excluded) calls ≤ 1
  told : ∀ calls state, (distributing worker space envelope excluded).fanOut calls = state →
    state.tasks = [] → ∀ key (id : EntityId) record c,
      (worker.core.sessionAt key).entities[id]? = some record → c ∈ state.worker.recipients →
        state.worker.Recorded c ⟨key, record.space⟩ →
          (state.heard c ⟨key, record.space⟩ id).count false =
            (if c ∈ worker.targets space excluded then announces envelope ⟨key, record.space⟩ id
              else none).toList.count false +
              if id ∈ (state.worker.core.sessionAt key).entities then 0 else 1

/-! ## Termination -/

/-- The connections of the core, the envelopes to be sent and the connections to be cleaned up. -/
def pending (state : Serving) : ℕ ×ₗ ℕ ×ₗ ℕ :=
  toLex (state.worker.core.connections.size,
    toLex (state.tasks.countP fun task => !Task.isCleanup task,
      state.tasks.countP Task.isCleanup))

variable {state : Serving} {accepts : ConnectionId → Bool} {clock : ReleaseClock}

theorem size_le_of_subset {core core' : WovenCore}
    (h : ∀ c, c ∈ core'.connections → c ∈ core.connections) :
    core'.connections.size ≤ core.connections.size := by
  rw [← ExtTreeMap.length_keys, ← ExtTreeMap.length_keys]
  have hsubset : core'.connections.keys ⊆ core.connections.keys := fun c hin =>
    ExtTreeMap.mem_keys.mpr (h c (ExtTreeMap.mem_keys.mp hin))
  exact (ExtTreeMap.nodup_keys.subperm hsubset).length_le

theorem size_lt_of_loses {core core' : WovenCore} {connection : ConnectionId}
    {removed : List RemovedEntity} (h : Loses core core' connection removed)
    (hlive : connection ∈ core.connections) : core'.connections.size < core.connections.size := by
  rw [← ExtTreeMap.length_keys, ← ExtTreeMap.length_keys]
  have hnodup : (connection :: core'.connections.keys).Nodup := by
    refine List.nodup_cons.mpr ⟨?_, ExtTreeMap.nodup_keys⟩
    intro hin
    exact ((h.live connection).mp (ExtTreeMap.mem_keys.mp hin)).2 rfl
  have hsubset : connection :: core'.connections.keys ⊆ core.connections.keys := by
    intro c hin
    rcases List.mem_cons.mp hin with rfl | hin
    · exact ExtTreeMap.mem_keys.mpr hlive
    · exact ExtTreeMap.mem_keys.mpr ((h.live c).mp (ExtTreeMap.mem_keys.mp hin)).1
  exact (hnodup.subperm hsubset).length_le

theorem pending_lt_of_fewer {next : Serving}
    (hsize : next.worker.core.connections.size ≤ state.worker.core.connections.size)
    (hfewer : next.tasks.countP (fun task => !task.isCleanup) <
      state.tasks.countP fun task => !task.isCleanup) : next.pending < state.pending := by
  rcases Nat.lt_or_eq_of_le hsize with hless | hsame
  · exact Prod.Lex.toLex_lt_toLex.mpr (Or.inl hless)
  · exact Prod.Lex.toLex_lt_toLex.mpr
      (Or.inr ⟨hsame, Prod.Lex.toLex_lt_toLex.mpr (Or.inl hfewer)⟩)

theorem countP_cleanups (connections : List ConnectionId) :
    (connections.map Task.cleanup).countP (fun task => !task.isCleanup) = 0 := by
  rw [List.countP_eq_zero]
  intro task htask
  obtain ⟨c, -, rfl⟩ := List.mem_map.mp htask
  exact Bool.false_ne_true

/-- Each call leaves less to be done, however many it makes itself. -/
theorem work_lowers (h : Reachable state.worker.core) (hbusy : state.tasks ≠ []) :
    (state.work accepts clock).pending < state.pending := by
  unfold work
  cases htasks : state.tasks with
  | nil => exact absurd htasks hbusy
  | cons task rest =>
    cases task with
    | distribute space envelope excluded =>
      refine pending_lt_of_fewer (Nat.le_refl _) ?_
      show (_ ++ rest).countP _ < _
      rw [List.countP_append, countP_cleanups, htasks, List.countP_cons, Nat.zero_add]
      exact Nat.lt_succ_self _
    | deliver connection envelope =>
      dsimp only
      unfold deliverToConnection
      split
      · split
        · refine pending_lt_of_fewer (Nat.le_refl _) ?_
          rw [htasks]
          simp [Task.isCleanup]
        · refine pending_lt_of_fewer (Nat.le_refl _) ?_
          rw [htasks]
          simp [Task.isCleanup]
      · refine pending_lt_of_fewer (Nat.le_refl _) ?_
        rw [htasks]
        simp [Task.isCleanup]
    | cleanup connection =>
      dsimp only
      rcases cleanupDeadConnection_cases h connection clock rest with
        ⟨summary, core', hlive, -, hloses, heq⟩ | ⟨core', -, -, -, -, hsame, heq⟩
      · rw [heq]
        exact Prod.Lex.toLex_lt_toLex.mpr (Or.inl (size_lt_of_loses hloses hlive))
      · rw [heq]
        have hsize : core'.connections.size = state.worker.core.connections.size :=
          Nat.le_antisymm (size_le_of_subset fun c => (hsame c).mp)
            (size_le_of_subset fun c => (hsame c).mpr)
        refine Prod.Lex.toLex_lt_toLex.mpr (Or.inr ⟨hsize, ?_⟩)
        refine Prod.Lex.toLex_lt_toLex.mpr (Or.inr ⟨?_, ?_⟩)
        · rw [htasks]
          simp [Task.isCleanup]
        · show rest.countP Task.isCleanup < state.tasks.countP Task.isCleanup
          rw [htasks, List.countP_cons_of_pos rfl]
          exact Nat.lt_succ_self _

/-! ## What a fan-out removes and announces -/

/-- The entities are those from before that have not gone, where they were, and who is to be told of
one is told the more that it has left if it has gone. -/
structure Tallies (before state : Serving) : Prop where
  core : Reachable state.worker.core
  kept : ∀ key (id : EntityId) record,
    (state.worker.core.sessionAt key).entities[id]? = some record →
      (before.worker.core.sessionAt key).entities[id]? = some record
  told : ∀ key (id : EntityId) record c,
    (before.worker.core.sessionAt key).entities[id]? = some record →
      state.Audience c ⟨key, record.space⟩ →
        (state.notices c ⟨key, record.space⟩ id).count false =
          (before.notices c ⟨key, record.space⟩ id).count false +
            if id ∈ (state.worker.core.sessionAt key).entities then 0 else 1

theorem Tallies.work {before : Serving} (h : Tallies before state) :
    Tallies before (state.work accepts clock) := by
  have hreachable : Reachable (state.work accepts clock).worker.core :=
    reachable_step h.core (.work accepts clock)
  rcases work_cases h.core accepts clock with ⟨hsessions, -, -, hnotices⟩ |
    ⟨connection, rest, removed, htasks, hloses, hnotices⟩
  · have hsame : ∀ key, (state.work accepts clock).worker.core.sessionAt key =
        state.worker.core.sessionAt key := by
      intro key
      rw [sessionAt, hsessions, ← sessionAt]
    refine ⟨hreachable, ?_, ?_⟩
    · intro key id record hrecord
      rw [hsame] at hrecord
      exact h.kept key id record hrecord
    · intro key id record c hrecord haudience
      obtain ⟨hbefore, -, htold⟩ := hnotices c _ haudience
      rw [htold, hsame]
      exact h.told key id record c hrecord hbefore
  · refine ⟨hreachable, ?_, ?_⟩
    · intro key id record hrecord
      exact h.kept key id record (hloses.removes.old key id record hrecord)
    · intro key id record c hrecord haudience
      obtain ⟨-, hbefore, -, htold⟩ := hnotices c _ haudience
      have hold := h.told key id record c hrecord hbefore
      have hsplit : (state.notices c ⟨key, record.space⟩ id).count false =
          (state.heard c ⟨key, record.space⟩ id).count false +
            (state.worker.coming state.tasks c ⟨key, record.space⟩ id).count false :=
        List.count_append
      rw [hsplit] at hold
      rw [htold, List.count_append, List.count_append, List.count_replicate]
      by_cases hfalls : state.worker.core.EntityFalls connection key id
      · have hthere := hloses.removes.found key id hfalls
        obtain ⟨record', hrecord'⟩ := Option.isSome_iff_exists.mp
          (ExtTreeMap.mem_iff_isSome_getElem?.mp hthere)
        have hsame := (h.kept key id record' hrecord').symm.trans hrecord
        obtain rfl := Option.some.inj hsame
        rw [hloses.removes.listed key id record' _ hrecord' hfalls, if_pos rfl,
          if_neg (hloses.removes.gone key id hfalls)]
        rw [if_pos hthere] at hold
        simp
        omega
      · rw [timesRemoved_eq_zero_of_loses hloses hfalls]
        have hiff : id ∈ ((state.work accepts clock).worker.core.sessionAt key).entities ↔
            id ∈ (state.worker.core.sessionAt key).entities := by
          constructor
          · intro hin
            obtain ⟨record', hrecord'⟩ := Option.isSome_iff_exists.mp
              (ExtTreeMap.mem_iff_isSome_getElem?.mp hin)
            exact OrderedMap.mem_of_getElem? (hloses.removes.old key id record' hrecord')
          · intro hin
            obtain ⟨record', hrecord'⟩ := Option.isSome_iff_exists.mp
              (ExtTreeMap.mem_iff_isSome_getElem?.mp hin)
            exact OrderedMap.mem_of_getElem? (hloses.removes.kept key id record' hrecord' hfalls)
        simp only [hiff]
        simpa using hold

/-! ## The whole fan-out -/

theorem mem_connections_of_work (h : Reachable state.worker.core) {c : ConnectionId}
    (hlive : c ∈ (state.work accepts clock).worker.core.connections) :
    c ∈ state.worker.core.connections := by
  rcases work_cases h accepts clock with ⟨-, -, hconnections, -⟩ | ⟨connection, rest, removed, -,
    hloses, -⟩
  · exact (hconnections c).mp hlive
  · exact ((hloses.live c).mp hlive).1

theorem removals_le (h : Reachable state.worker.core) (c : ConnectionId)
    (calls : List ((ConnectionId → Bool) × ReleaseClock)) :
    removals c state calls ≤ if c ∈ state.worker.core.connections then 1 else 0 := by
  induction calls generalizing state with
  | nil => exact Nat.zero_le _
  | cons call rest ih =>
    have hrest : removals c (state.work call.1 call.2) rest ≤ _ :=
      ih (reachable_step h (.work call.1 call.2))
    have hback : c ∈ (state.work call.1 call.2).worker.core.connections →
        c ∈ state.worker.core.connections := mem_connections_of_work h
    unfold removals
    dsimp only
    by_cases hnext : c ∈ (state.work call.1 call.2).worker.core.connections
    · rw [if_pos hnext] at hrest
      rw [if_neg fun hdrop => hdrop.2 hnext, if_pos (hback hnext)]
      omega
    · rw [if_neg hnext] at hrest
      simp only [hnext, not_false_eq_true, and_true]
      split <;> omega

theorem fansOut {worker : Worker} (h : Reachable worker.core) (space : SpaceKey)
    (envelope : Envelope) (excluded : Option ConnectionId) :
    FansOut worker space envelope excluded := by
  have hcore : Reachable (distributing worker space envelope excluded).worker.core := h
  refine ⟨?_, ?_, ?_⟩
  · intro calls
    exact Transition.exists_done (J := fun state : Serving => Reachable state.worker.core)
      wellFounded_lt pending (fun _ call hreachable =>
        reachable_step hreachable (.work call.1 call.2))
      (fun _ _ hreachable hbusy => work_lowers hreachable hbusy) hcore calls
  · intro calls c
    refine Nat.le_trans (removals_le hcore c calls) ?_
    split <;> decide
  · rintro calls state rfl hserved key id record c hrecord hrecipient hrecorded
    have hstart : Tallies (distributing worker space envelope excluded)
        (distributing worker space envelope excluded) := by
      refine ⟨h, fun _ _ _ hrecord => hrecord, ?_⟩
      intro key id record c hrecord _
      rw [if_pos (show id ∈ _ from OrderedMap.mem_of_getElem? hrecord)]
      rfl
    have hrun : Tallies (distributing worker space envelope excluded)
        ((distributing worker space envelope excluded).fanOut calls) :=
      Transition.run_invariant (fun _ _ htallies => htallies.work) hstart calls
    have haudience : ((distributing worker space envelope excluded).fanOut calls).Audience c
        ⟨key, record.space⟩ := by
      refine ⟨hrecipient, hrecorded, ?_⟩
      rw [hserved]
      exact List.not_mem_nil
    have htold := hrun.told key id record c hrecord haudience
    have hafter : ((distributing worker space envelope excluded).fanOut calls).notices c
        ⟨key, record.space⟩ id =
          ((distributing worker space envelope excluded).fanOut calls).heard c
          ⟨key, record.space⟩ id := by
      unfold notices
      rw [hserved]
      exact List.append_nil _
    have hbefore : (distributing worker space envelope excluded).notices c ⟨key, record.space⟩ id =
        (if c ∈ worker.targets space excluded then announces envelope ⟨key, record.space⟩ id
          else none).toList := by
      refine (Worker.coming_cons : Worker.coming worker [_] c ⟨key, record.space⟩ id = _).trans ?_
      exact List.append_nil _
    rwa [hafter, hbefore] at htold

theorem fansOut_arrivals :
    let state := Transition.run step (start Sample.narrow)
      (Sample.arrival ⟨1⟩ "a" ++ Sample.arrival ⟨2⟩ "bb")
    state.worker.targets (Sample.spaceKey 1) none = [⟨1⟩, ⟨2⟩] ∧
      FansOut state.worker (Sample.spaceKey 1)
        (entityEnteredEnvelope (Sample.spaceKey 1) ⟨1⟩ ⟨1⟩) none := by
  intro state
  have hreachable : Reachable state.worker.core :=
    Transition.run_invariant (P := fun state : Serving => Reachable state.worker.core)
      (fun _ event hcore => reachable_step hcore event) Sample.narrow_reachable _
  exact ⟨by decide +kernel, fansOut hreachable _ _ _⟩

end Serving

end Signalweave.Transport
