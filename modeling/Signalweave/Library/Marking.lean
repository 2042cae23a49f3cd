import Mathlib

/-!
# Marking entries of a history

A history only grows at its end. What happens to an entry later is marked on the entry itself:
on the first entry a test selects, or on all of them. The lemmas say what a mark does to the
entries another test selects.
-/

namespace Marking

variable {α β : Type} {p q : α → Bool} {f : α → α} {g : α → β} {R : α → α → Prop} {l : List α}

/-- The first entry that the test selects is marked. -/
def markFirst (p : α → Bool) (f : α → α) : List α → List α
  | [] => []
  | a :: rest => if p a then f a :: rest else a :: markFirst p f rest

/-- Every entry that the test selects is marked. -/
def markAll (p : α → Bool) (f : α → α) (l : List α) : List α :=
  l.map fun a => if p a then f a else a

theorem markFirst_cons_of_pos {a : α} (h : p a = true) :
    markFirst p f (a :: l) = f a :: l := by
  rw [markFirst, if_pos h]

theorem markFirst_cons_of_neg {a : α} (h : p a = false) :
    markFirst p f (a :: l) = a :: markFirst p f l := by
  rw [markFirst, if_neg (by simp [h])]

/-! ## What no mark changes -/

theorem map_markFirst (h : ∀ a, g (f a) = g a) : (markFirst p f l).map g = l.map g := by
  induction l with
  | nil => rfl
  | cons a rest ih =>
    cases hp : p a with
    | true => rw [markFirst_cons_of_pos hp, List.map_cons, List.map_cons, h]
    | false => rw [markFirst_cons_of_neg hp, List.map_cons, List.map_cons, ih]

theorem map_markAll (h : ∀ a, g (f a) = g a) : (markAll p f l).map g = l.map g := by
  rw [markAll, List.map_map]
  apply List.map_congr_left
  intro a _
  rw [Function.comp_apply]
  split
  · exact h a
  · rfl

theorem mem_markFirst {b : α} (h : b ∈ markFirst p f l) :
    b ∈ l ∨ ∃ a ∈ l, p a = true ∧ b = f a := by
  induction l with
  | nil => exact .inl h
  | cons a rest ih =>
    cases hp : p a with
    | true =>
      rw [markFirst_cons_of_pos hp] at h
      rcases List.mem_cons.mp h with rfl | h
      · exact .inr ⟨a, List.mem_cons_self, hp, rfl⟩
      · exact .inl (List.mem_cons_of_mem _ h)
    | false =>
      rw [markFirst_cons_of_neg hp] at h
      rcases List.mem_cons.mp h with rfl | h
      · exact .inl List.mem_cons_self
      · rcases ih h with h | ⟨c, hc, hmarked⟩
        · exact .inl (List.mem_cons_of_mem _ h)
        · exact .inr ⟨c, List.mem_cons_of_mem _ hc, hmarked⟩

theorem mem_markAll {b : α} (h : b ∈ markAll p f l) :
    b ∈ l ∨ ∃ a ∈ l, p a = true ∧ b = f a := by
  obtain ⟨a, ha, rfl⟩ := List.mem_map.mp h
  cases hp : p a with
  | true => exact .inr ⟨a, ha, hp, by simp⟩
  | false => exact .inl (by simpa using ha)

/-! ## How many entries another test selects -/

/-- A mark that brings nothing into a selection. -/
theorem countP_markFirst_le (h : ∀ a, q (f a) = true → q a = true) :
    (markFirst p f l).countP q ≤ l.countP q := by
  induction l with
  | nil => exact Nat.le_refl _
  | cons a rest ih =>
    cases hp : p a with
    | true =>
      rw [markFirst_cons_of_pos hp, List.countP_cons, List.countP_cons]
      refine Nat.add_le_add_left ?_ _
      split
      · rw [if_pos (h a ‹_›)]
      · exact Nat.zero_le _
    | false =>
      rw [markFirst_cons_of_neg hp, List.countP_cons, List.countP_cons]
      exact Nat.add_le_add_right ih _

theorem countP_markAll_le (h : ∀ a, q (f a) = true → q a = true) :
    (markAll p f l).countP q ≤ l.countP q := by
  rw [markAll, List.countP_map]
  apply List.countP_mono_left
  intro a _ hmarked
  rw [Function.comp_apply] at hmarked
  split at hmarked
  · exact h a hmarked
  · exact hmarked

/-! ## The entries another test selects -/

/-- Marks on entries outside the selection, and that stay outside. -/
theorem filter_markFirst_other (h : ∀ a, p a = true → q a = false ∧ q (f a) = false) :
    (markFirst p f l).filter q = l.filter q := by
  induction l with
  | nil => rfl
  | cons a rest ih =>
    cases hp : p a with
    | true =>
      obtain ⟨hbefore, hafter⟩ := h a hp
      rw [markFirst_cons_of_pos hp, List.filter_cons_of_neg (by simp [hafter]),
        List.filter_cons_of_neg (by simp [hbefore])]
    | false => rw [markFirst_cons_of_neg hp, List.filter_cons, ih, List.filter_cons]

theorem filter_markAll_other (h : ∀ a, p a = true → q a = false ∧ q (f a) = false) :
    (markAll p f l).filter q = l.filter q := by
  induction l with
  | nil => rfl
  | cons a rest ih =>
    rw [markAll, List.map_cons, ← markAll]
    cases hp : p a with
    | true =>
      obtain ⟨hbefore, hafter⟩ := h a hp
      rw [if_pos rfl, List.filter_cons_of_neg (by simp [hafter]),
        List.filter_cons_of_neg (by simp [hbefore]), ih]
    | false => rw [if_neg (by simp), List.filter_cons, ih, List.filter_cons]

/-- The marked entry is the first of the selection, and leaves it. -/
theorem filter_markFirst_self (h : ∀ a, p a = true → p (f a) = false) :
    (markFirst p f l).filter p = (l.filter p).tail := by
  induction l with
  | nil => rfl
  | cons a rest ih =>
    cases hp : p a with
    | true =>
      rw [markFirst_cons_of_pos hp, List.filter_cons_of_neg (by simp [h a hp]),
        List.filter_cons_of_pos hp, List.tail_cons]
    | false =>
      rw [markFirst_cons_of_neg hp, List.filter_cons_of_neg (by simp [hp]),
        List.filter_cons_of_neg (by simp [hp]), ih]

/-- The marked entries leave the selection, the others stay. -/
theorem filter_markAll_leave (h : ∀ a, p a = true → q (f a) = false) :
    (markAll p f l).filter q = l.filter fun a => q a && !p a := by
  induction l with
  | nil => rfl
  | cons a rest ih =>
    rw [markAll, List.map_cons, ← markAll]
    cases hp : p a with
    | true =>
      rw [if_pos rfl, List.filter_cons_of_neg (by simp [h a hp]),
        List.filter_cons_of_neg (by simp [hp]), ih]
    | false =>
      rw [if_neg (by simp), List.filter_cons, List.filter_cons, ih]
      simp [hp]

/-- The marked entry enters a selection that has nothing behind it: it becomes the last. -/
theorem filter_markFirst_enter (hbefore : ∀ a, p a = true → q a = false)
    (hafter : ∀ a, p a = true → q (f a) = true)
    (h : l.Pairwise fun a b => p a = true → q b = false) :
    (markFirst p f l).filter q = l.filter q ++ ((l.filter p).head?.map f).toList := by
  induction l with
  | nil => rfl
  | cons a rest ih =>
    obtain ⟨hhead, hrest⟩ := List.pairwise_cons.mp h
    cases hp : p a with
    | true =>
      have hnone : rest.filter q = [] :=
        List.filter_eq_nil_iff.mpr fun b hb => by simp [hhead b hb hp]
      rw [markFirst_cons_of_pos hp, List.filter_cons_of_pos (hafter a hp),
        List.filter_cons_of_neg (by simp [hbefore a hp]), List.filter_cons_of_pos hp, hnone]
      rfl
    | false =>
      rw [markFirst_cons_of_neg hp, List.filter_cons, List.filter_cons, ih hrest,
        List.filter_cons_of_neg (by simp [hp])]
      split <;> rfl

/-- The marked entries that enter a selection with nothing behind the first of them. -/
theorem filter_markAll_enter (hbefore : ∀ a, p a = true → q a = false)
    (h : l.Pairwise fun a b => p a = true → q (f a) = true → q b = false) :
    (markAll p f l).filter q = l.filter q ++ (l.filter fun a => p a && q (f a)).map f := by
  induction l with
  | nil => rfl
  | cons a rest ih =>
    obtain ⟨hhead, hrest⟩ := List.pairwise_cons.mp h
    rw [markAll, List.map_cons, ← markAll, List.filter_cons, ih hrest]
    cases hp : p a with
    | true =>
      cases hq : q (f a) with
      | true =>
        have hnone : rest.filter q = [] :=
          List.filter_eq_nil_iff.mpr fun b hb => by simp [hhead b hb hp hq]
        simp [hp, hq, hbefore a hp, hnone]
      | false => simp [hp, hq, hbefore a hp]
    | false => cases hq : q a <;> simp [hp, hq]

/-- Wherever they stand, the marked entries enter the selection once each. -/
theorem filter_markFirst_perm (hbefore : ∀ a, p a = true → q a = false)
    (hafter : ∀ a, p a = true → q (f a) = true) :
    (markFirst p f l).filter q |>.Perm (l.filter q ++ ((l.filter p).head?.map f).toList) := by
  induction l with
  | nil => exact .nil
  | cons a rest ih =>
    cases hp : p a with
    | true =>
      rw [markFirst_cons_of_pos hp, List.filter_cons_of_pos (hafter a hp),
        List.filter_cons_of_neg (by simp [hbefore a hp]), List.filter_cons_of_pos hp]
      exact @List.perm_append_comm _ [f a] _
    | false =>
      rw [markFirst_cons_of_neg hp, List.filter_cons, List.filter_cons,
        List.filter_cons_of_neg (by simp [hp])]
      split
      · exact ih.cons a
      · exact ih

theorem filter_markAll_perm (hbefore : ∀ a, p a = true → q a = false)
    (hafter : ∀ a, p a = true → q (f a) = true) :
    (markAll p f l).filter q |>.Perm (l.filter q ++ (l.filter p).map f) := by
  induction l with
  | nil => exact .nil
  | cons a rest ih =>
    rw [markAll, List.map_cons, ← markAll]
    cases hp : p a with
    | true =>
      rw [if_pos rfl, List.filter_cons_of_pos (hafter a hp),
        List.filter_cons_of_neg (by simp [hbefore a hp]), List.filter_cons_of_pos hp,
        List.map_cons]
      exact (ih.cons _).trans List.perm_middle.symm
    | false =>
      rw [if_neg (by simp), List.filter_cons, List.filter_cons,
        List.filter_cons_of_neg (by simp [hp])]
      split
      · exact ih.cons a
      · exact ih

/-! ## Relations between earlier and later entries -/

/-- The entries in front of the marked one are not selected. -/
theorem pairwise_markFirst (h : l.Pairwise R)
    (hearlier : ∀ a b, p a = true → R a b → R (f a) b)
    (hlater : ∀ a b, p a = false → p b = true → R a b → R a (f b)) :
    (markFirst p f l).Pairwise R := by
  induction l with
  | nil => exact .nil
  | cons a rest ih =>
    obtain ⟨hhead, hrest⟩ := List.pairwise_cons.mp h
    cases hp : p a with
    | true =>
      rw [markFirst_cons_of_pos hp]
      exact List.pairwise_cons.mpr ⟨fun b hb => hearlier a b hp (hhead b hb), hrest⟩
    | false =>
      rw [markFirst_cons_of_neg hp]
      refine List.pairwise_cons.mpr ⟨fun b hb => ?_, ih hrest⟩
      rcases mem_markFirst hb with hb | ⟨c, hc, hpc, rfl⟩
      · exact hhead b hb
      · exact hlater a c hp hpc (hhead c hc)

theorem pairwise_markAll (h : l.Pairwise R)
    (hstep : ∀ a b, R a b → R (if p a then f a else a) (if p b then f b else b)) :
    (markAll p f l).Pairwise R :=
  List.pairwise_map.mpr (h.imp (hstep _ _))

end Marking
