import Mathlib

/-!
# Whole units of a sum

Rounding the parts of a sum down to whole units loses what the fractions of the parts add up to.
The sums of the spans from some starts to a common end are the special case that meters have.
-/

namespace Rounding

variable {unit : Nat}

/-- The whole units and the fractions of the parts make up the sum. -/
theorem sum_div_add_sum_mod (parts : List Nat) :
    unit * (parts.map (· / unit)).sum + (parts.map (· % unit)).sum = parts.sum := by
  induction parts with
  | nil => simp
  | cons part rest ih =>
    have hpart := Nat.div_add_mod part unit
    simp only [List.map_cons, List.sum_cons, Nat.mul_add]
    omega

/-- Rounding the parts is rounding the sum exactly if the fractions stay below one unit. -/
theorem sum_div_eq_iff (hunit : 0 < unit) (parts : List Nat) :
    (parts.map (· / unit)).sum = parts.sum / unit ↔ (parts.map (· % unit)).sum < unit := by
  have hsum := @sum_div_add_sum_mod unit parts
  rw [← hsum, Nat.mul_add_div hunit]
  constructor
  · intro h
    exact (Nat.div_eq_zero_iff_lt hunit).mp (by omega)
  · intro h
    rw [Nat.div_eq_of_lt h, Nat.add_zero]

/-- A quotient of whole units is at least the quotient. -/
theorem div_le_div_div {total part : Nat} (hpart : part / unit ≠ 0) :
    total / part ≤ total / unit / (part / unit) := by
  have hunit : 0 < unit := by
    rcases Nat.eq_zero_or_pos unit with rfl | hpos
    · exact absurd (Nat.div_zero part) hpart
    · exact hpos
  rw [Nat.le_div_iff_mul_le (Nat.pos_of_ne_zero hpart), Nat.le_div_iff_mul_le hunit, Nat.mul_assoc]
  calc total / part * (part / unit * unit)
      ≤ total / part * part := Nat.mul_le_mul_left _ (Nat.div_mul_le_self _ _)
    _ ≤ total := Nat.div_mul_le_self _ _

/-- It is the quotient where the divisor is whole. -/
theorem div_div_of_whole {total units : Nat} (hunit : 0 < unit) :
    total / unit / (units * unit / unit) = total / (units * unit) := by
  rw [Nat.mul_div_cancel _ hunit, Nat.div_div_eq_div_mul, Nat.mul_comm unit]

/-- Rounding down to whole units loses less than half of what is at least one unit. -/
theorem le_two_mul_div {part : Nat} (hunit : 0 < unit) (hpart : unit ≤ part) :
    part ≤ 2 * (part / unit) * unit := by
  have hmod := Nat.div_add_mod part unit
  have hlt := Nat.mod_lt part hunit
  have hone : unit * 1 ≤ unit * (part / unit) := Nat.mul_le_mul_left _ (Nat.div_pos hpart hunit)
  have htwice : 2 * (part / unit) * unit = 2 * (unit * (part / unit)) := by ring
  omega

/-- The multiples that a quotient counts are those that fit. -/
theorem lt_div_iff {total part k : Nat} (hpart : 0 < part) :
    k < total / part ↔ (k + 1) * part ≤ total := by
  rw [Nat.lt_iff_add_one_le, Nat.le_div_iff_mul_le hpart]

/-! ## Spans to a common end -/

variable {cut now : Nat}

/-- All spans grow by the same. -/
theorem sum_spans_advance {starts : List Nat} (hstarts : ∀ start ∈ starts, start ≤ cut)
    (hle : cut ≤ now) : (starts.map (now - ·)).sum =
      (starts.map (cut - ·)).sum + starts.length * (now - cut) := by
  induction starts with
  | nil => simp
  | cons start rest ih =>
    have hrest := ih fun other hin => hstarts other (List.mem_cons_of_mem _ hin)
    have hstart := hstarts start (List.mem_cons_self ..)
    simp only [List.map_cons, List.sum_cons, List.length_cons, Nat.add_mul, Nat.one_mul]
    omega

/-- Spans that are cut, the first pieces rounded down, are no longer than before. -/
theorem sum_spans_cut_le {starts : List Nat}
    (hstarts : ∀ start ∈ starts, start ≤ cut ∧ cut ≤ now) :
    (starts.map fun start => (cut - start) / unit).sum * unit + starts.length * (now - cut) ≤
      (starts.map (now - ·)).sum := by
  induction starts with
  | nil => simp
  | cons start rest ih =>
    have hrest := ih fun other hin => hstarts other (List.mem_cons_of_mem _ hin)
    obtain ⟨hstart, hcut⟩ := hstarts start (List.mem_cons_self ..)
    have hwhole := Nat.div_mul_le_self (cut - start) unit
    simp only [List.map_cons, List.sum_cons, List.length_cons, Nat.add_mul, Nat.one_mul]
    omega

end Rounding
