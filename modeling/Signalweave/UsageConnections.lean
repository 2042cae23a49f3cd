import Signalweave.Usage

/-!
# The open connections of the usage counters

Each open connection has a handle of its own. A connection that ends is swapped out of the list,
which reorders the others and changes nothing else.
-/

namespace Signalweave

/-- `swap_remove` takes one element out and keeps the others in some order. -/
theorem swapRemove_perm {α : Type} {values : List α} {index : Nat} (h : index < values.length) :
    (values[index] :: swapRemove values index).Perm values := by
  have hne : values ≠ [] := List.ne_nil_of_length_pos (Nat.lt_of_le_of_lt (Nat.zero_le _) h)
  have hset : values.set index (values.getLast hne) ≠ [] := by
    intro hnil
    have hlength := congrArg List.length hnil
    rw [List.length_set] at hlength
    simp at hlength
    exact hne hlength
  -- The last element stays last, whether it is the one that is removed or not.
  have hlast : (values.set index (values.getLast hne)).getLast hset = values.getLast hne := by
    rw [List.getLast_eq_getElem, List.getElem_set]
    split
    · rfl
    · simp [List.getLast_eq_getElem]
  have hsplit := List.dropLast_append_getLast hset
  rw [hlast] at hsplit
  have hperm : ((values.set index (values.getLast hne)).dropLast ++ [values.getLast hne]).Perm
      (values.getLast hne :: values.eraseIdx index) := by
    rw [hsplit]
    exact List.set_perm_cons_eraseIdx h _
  have hrest : (values.set index (values.getLast hne)).dropLast.Perm (values.eraseIdx index) :=
    ((List.perm_append_singleton _ _).symm.trans hperm).cons_inv
  rw [swapRemove, List.getLast?_eq_some_getLast hne]
  exact (hrest.cons values[index]).trans (List.getElem_cons_eraseIdx_perm h)

namespace UsageCounters

variable {counters : UsageCounters} {principal : PrincipalId} {now : Instant}
  {handle : ConnectionHandle}

/-- Handles are given out in turn, and no two open connections have the same. -/
structure Handled (counters : UsageCounters) : Prop where
  distinct : (counters.active.map ActiveConnection.handle).Nodup
  issued : ∀ connection ∈ counters.active, connection.handle < counters.nextHandle

/-- Ending the connection of an unknown handle changes nothing; the connection of a known one is
taken out and its time is added. -/
theorem endConnection_cases :
    (∀ connection ∈ counters.active, connection.handle ≠ handle) ∧
        counters.endConnection handle now = counters ∨
      ∃ connection, connection.handle = handle ∧
        (connection :: (counters.endConnection handle now).active).Perm counters.active ∧
        counters.endConnection handle now = { counters with
          active := (counters.endConnection handle now).active
          connectionSeconds := counters.connectionSeconds +
            Duration.asSecs (Instant.saturatingDurationSince now connection.started) } := by
  unfold endConnection
  cases hindex : counters.active.findIdx? (·.handle == handle) with
  | none =>
    left
    refine ⟨?_, rfl⟩
    intro connection hin
    have hnot := List.findIdx?_eq_none_iff.mp hindex connection hin
    simpa using hnot
  | some index =>
    right
    obtain ⟨hlt, hfound, -⟩ := List.findIdx?_eq_some_iff_getElem.mp hindex
    dsimp only
    rw [List.getElem?_eq_getElem hlt]
    exact ⟨counters.active[index], by simpa using hfound, swapRemove_perm hlt, rfl⟩

theorem Handled.startConnection (h : counters.Handled) :
    (counters.startConnection principal now).2.Handled := by
  refine ⟨?_, ?_⟩
  · show ((counters.active ++ [_]).map ActiveConnection.handle).Nodup
    rw [List.map_append, List.nodup_append]
    refine ⟨h.distinct, List.nodup_singleton _, ?_⟩
    intro first hfirst second hsecond heq
    obtain ⟨connection, hin, rfl⟩ := List.mem_map.mp hfirst
    rw [List.map_singleton, List.mem_singleton] at hsecond
    have hlt := h.issued connection hin
    rw [heq, hsecond] at hlt
    exact Nat.lt_irrefl _ hlt
  · intro connection hin
    show connection.handle < counters.nextHandle + 1
    rcases List.mem_append.mp hin with hold | hnew
    · exact Nat.lt_succ_of_lt (h.issued connection hold)
    · rw [List.mem_singleton.mp hnew]
      exact Nat.lt_succ_self _

theorem Handled.endConnection (h : counters.Handled) :
    (counters.endConnection handle now).Handled := by
  rcases @endConnection_cases counters now handle with ⟨-, hsame⟩ | ⟨ended, -, hperm, hsame⟩
  · rw [hsame]
    exact h
  · have hdistinct := (hperm.map ActiveConnection.handle).nodup_iff.mpr h.distinct
    refine ⟨(List.nodup_cons.mp hdistinct).2, ?_⟩
    intro connection hin
    have hnext : (counters.endConnection handle now).nextHandle = counters.nextHandle := by
      rw [hsame]
    rw [hnext]
    exact h.issued connection (hperm.subset (List.mem_cons_of_mem _ hin))

/-- The connections that stay open are those of the other handles. -/
theorem mem_endConnection {connection : ActiveConnection} (h : counters.Handled) :
    connection ∈ (counters.endConnection handle now).active ↔
      connection ∈ counters.active ∧ connection.handle ≠ handle := by
  rcases @endConnection_cases counters now handle with ⟨hother, hsame⟩ | ⟨ended, hended, hperm, -⟩
  · rw [hsame]
    exact ⟨fun hin => ⟨hin, hother connection hin⟩, And.left⟩
  · have hdistinct := (hperm.map ActiveConnection.handle).nodup_iff.mpr h.distinct
    rw [List.map_cons, List.nodup_cons, hended] at hdistinct
    rw [← hperm.mem_iff, List.mem_cons]
    constructor
    · intro hin
      exact ⟨Or.inr hin, fun heq =>
        hdistinct.1 (List.mem_map.mpr ⟨connection, hin, heq⟩)⟩
    · rintro ⟨rfl | hin, hne⟩
      · exact absurd hended hne
      · exact hin

end UsageCounters

end Signalweave
