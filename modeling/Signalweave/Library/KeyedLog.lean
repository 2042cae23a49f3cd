import Signalweave.Library.OrderedMap

/-!
# Logs of keyed values

A log lists keyed values, the oldest first. A table is explained by a log when it holds for each
key what the log says: the latest of its values, or the greatest of its numbers.
-/

open Std

namespace KeyedLog

variable {κ ν : Type} [DecidableEq κ] {log more : List (κ × ν)} {k : κ}

/-- The values a log has for a key. -/
def valuesAt (log : List (κ × ν)) (k : κ) : List ν :=
  (log.filter fun entry => entry.1 = k).map Prod.snd

@[simp] theorem valuesAt_singleton {a : κ} {v : ν} :
    valuesAt [(a, v)] k = if a = k then [v] else [] := by
  by_cases h : a = k <;> simp [valuesAt, h]

@[simp] theorem valuesAt_append : valuesAt (log ++ more) k = valuesAt log k ++ valuesAt more k := by
  simp [valuesAt]

theorem mem_valuesAt {v : ν} : v ∈ valuesAt log k ↔ (k, v) ∈ log := by
  simp [valuesAt]

/-- A test of the keys keeps all the values of a key or none. -/
theorem valuesAt_filter {p : κ → Bool} :
    valuesAt (log.filter fun entry => p entry.1) k = if p k = true then valuesAt log k else [] := by
  unfold valuesAt
  rw [List.filter_filter]
  split
  · rename_i hp
    congr 1
    apply List.filter_congr
    rintro ⟨a, v⟩ -
    by_cases h : a = k <;> simp [h, hp]
  · rename_i hp
    rw [List.filter_eq_nil_iff.mpr, List.map_nil]
    rintro ⟨a, v⟩ -
    by_cases h : a = k <;> simp [h, hp]

/-! ## The latest value -/

/-- The last value under a key. -/
def latest (log : List (κ × ν)) (k : κ) : Option ν := (valuesAt log k).getLast?

@[simp] theorem latest_nil : latest ([] : List (κ × ν)) k = none := rfl

theorem latest_append : latest (log ++ more) k = (latest more k).or (latest log k) := by
  rw [latest, valuesAt_append, List.getLast?_append]
  rfl

theorem latest_singleton {a : κ} {v : ν} : latest [(a, v)] k = if a = k then some v else none := by
  rw [latest, valuesAt_singleton]
  split <;> rfl

theorem latest_filter {p : κ → Bool} :
    latest (log.filter fun entry => p entry.1) k = if p k = true then latest log k else none := by
  rw [latest, valuesAt_filter]
  split <;> rfl

theorem mem_of_latest {v : ν} (h : latest log k = some v) : (k, v) ∈ log :=
  mem_valuesAt.mp (List.mem_of_getLast? h)

theorem latest_eq_none : latest log k = none ↔ ∀ v, (k, v) ∉ log := by
  rw [latest, List.getLast?_eq_none_iff, List.eq_nil_iff_forall_not_mem]
  exact forall_congr' fun v => not_congr mem_valuesAt

/-! ## The greatest number -/

section Greatest

variable {log more : List (κ × Nat)} {m n : Nat}

/-- The greatest value under a key. -/
def greatest (log : List (κ × Nat)) (k : κ) : Option Nat := (valuesAt log k).max?

@[simp] theorem greatest_nil : greatest ([] : List (κ × Nat)) k = none := rfl

theorem greatest_singleton {a : κ} : greatest [(a, n)] k = if a = k then some n else none := by
  rw [greatest, valuesAt_singleton]
  split <;> rfl

theorem greatest_filter {p : κ → Bool} :
    greatest (log.filter fun entry => p entry.1) k =
      if p k = true then greatest log k else none := by
  rw [greatest, valuesAt_filter]
  split <;> rfl

theorem mem_of_greatest (h : greatest log k = some n) : (k, n) ∈ log :=
  mem_valuesAt.mp (List.max?_mem h)

theorem le_greatest (h : (k, n) ∈ log) : ∃ m, greatest log k = some m ∧ n ≤ m := by
  have hmem := mem_valuesAt.mpr h
  cases hmax : greatest log k with
  | none =>
    rw [List.max?_eq_none_iff.mp hmax] at hmem
    cases hmem
  | some m => exact ⟨m, rfl, (List.max?_eq_some_iff.mp hmax).2 n hmem⟩

/-- Numbers that are all greater than those before them hide them. -/
theorem greatest_append
    (h : ∀ m n, greatest log k = some m → greatest more k = some n → m < n) :
    greatest (log ++ more) k = (greatest more k).or (greatest log k) := by
  have hnone : ∀ l : List (κ × Nat), greatest l k = none → valuesAt l k = [] :=
    fun l hl => List.max?_eq_none_iff.mp hl
  cases hm : greatest log k with
  | none => rw [greatest, valuesAt_append, hnone log hm, List.nil_append, Option.or_none, greatest]
  | some m =>
    cases hn : greatest more k with
    | none => rw [greatest, valuesAt_append, hnone more hn, List.append_nil, Option.none_or, ← hm,
        greatest]
    | some n =>
      have hlt := h m n hm hn
      rw [Option.some_or, greatest, List.max?_eq_some_iff, valuesAt_append]
      refine ⟨List.mem_append_right _ (List.max?_mem hn), fun a ha => ?_⟩
      rcases List.mem_append.mp ha with hlog | hmore
      · exact Nat.le_of_lt (Nat.lt_of_le_of_lt ((List.max?_eq_some_iff.mp hm).2 a hlog) hlt)
      · exact (List.max?_eq_some_iff.mp hn).2 a hmore

end Greatest

/-! ## Tables -/

section Tables

variable [Ord κ] [TransOrd κ] [LawfulEqOrd κ] {table : ExtTreeMap κ ν}

/-- A table is the log of its own entries. -/
theorem latest_toList : latest table.toList k = table[k]? := by
  cases h : latest table.toList k with
  | none =>
    rw [latest_eq_none] at h
    symm
    rw [← Option.not_isSome_iff_eq_none]
    rintro hsome
    obtain ⟨v, hv⟩ := Option.isSome_iff_exists.mp hsome
    exact h v (ExtTreeMap.mem_toList_iff_getElem?_eq_some.mpr hv)
  | some v => exact (ExtTreeMap.mem_toList_iff_getElem?_eq_some.mp (mem_of_latest h)).symm

theorem getElem?_foldl_insert :
    (log.foldl (fun table entry => table.insert entry.1 entry.2) table)[k]? =
      (latest log k).or table[k]? := by
  induction log generalizing table with
  | nil => rfl
  | cons entry rest ih =>
    rw [List.foldl_cons, ih, OrderedMap.getElem?_insert, ← List.singleton_append, latest_append,
      latest_singleton, Option.or_assoc]
    congr 1
    by_cases h : entry.1 = k
    · rw [if_pos h, if_pos h.symm, Option.some_or]
    · rw [if_neg h, if_neg (Ne.symm h), Option.none_or]

theorem insert_greatest {table : ExtTreeMap κ Nat} {log : List (κ × Nat)} {a : κ} {n : Nat}
    (h : ∀ k, table[k]? = greatest log k) (hn : ∀ last, table[a]? = some last → last < n) (k : κ) :
    (table.insert a n)[k]? = greatest (log ++ [(a, n)]) k := by
  rw [OrderedMap.getElem?_insert, greatest_append, greatest_singleton, h]
  · by_cases hk : a = k
    · rw [if_pos hk, if_pos hk.symm, Option.some_or]
    · rw [if_neg hk, if_neg (Ne.symm hk), Option.none_or]
  · intro m n' hm hn'
    rw [greatest_singleton] at hn'
    obtain ⟨rfl, hsome⟩ := Option.ite_none_right_eq_some.mp hn'
    obtain rfl := Option.some.inj hsome
    exact hn m ((h a).trans hm)

end Tables

end KeyedLog
