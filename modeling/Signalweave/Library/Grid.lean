import Mathlib

/-!
# Distances on a grid

A coordinate falls into the cell that the floor of its quotient by the cell size names. How many
cells two coordinates are apart says how far apart they are up to one cell.
-/

namespace Grid

variable {K : Type*} [Field K] [LinearOrder K] [IsStrictOrderedRing K]

section Cells

variable [FloorRing K] {size radius a b : K}

/-- How many cells two coordinates are apart. -/
def cellsApart (size a b : K) : ℕ := (⌊a / size⌋ - ⌊b / size⌋).natAbs

/-- Coordinates within a radius are no more cells apart than the radius is long, rounded up. -/
theorem cellsApart_le_ceil (hsize : 0 < size) (h : |a - b| ≤ radius) :
    (cellsApart size a b : ℤ) ≤ ⌈radius / size⌉ := by
  have hfloor : ∀ {x y : K}, x - y ≤ radius → ⌊x / size⌋ - ⌊y / size⌋ ≤ ⌈radius / size⌉ := by
    intro x y hxy
    rw [sub_le_iff_le_add, ← Int.lt_add_one_iff, add_assoc, Int.floor_lt]
    push_cast
    calc x / size ≤ radius / size + y / size := by
          rw [← add_div]
          exact div_le_div_of_nonneg_right (by linarith) hsize.le
      _ < ⌈radius / size⌉ + (⌊y / size⌋ + 1) :=
          add_lt_add_of_le_of_lt (Int.le_ceil _) (Int.lt_floor_add_one _)
  obtain ⟨hlower, hupper⟩ := abs_le.mp h
  have hright := hfloor hupper
  have hleft := hfloor (show b - a ≤ radius by linarith)
  unfold cellsApart
  omega

/-- Where the radius is a multiple of the cell size, no coordinates within it are further apart in
cells than the radius. -/
theorem cellsApart_le_of_multiple (hsize : 0 < size) (h : |a - b| ≤ radius)
    (hmultiple : ∃ k : ℤ, radius = k * size) : (cellsApart size a b : K) ≤ radius / size := by
  have hceil := cellsApart_le_ceil hsize h
  obtain ⟨k, rfl⟩ := hmultiple
  rw [mul_div_cancel_right₀ _ hsize.ne', Int.ceil_intCast] at hceil
  rw [mul_div_cancel_right₀ _ hsize.ne']
  exact_mod_cast hceil

omit [IsStrictOrderedRing K] in
/-- Elsewhere a number of cells is at most the radius exactly when it is less than the radius
rounded up. -/
theorem le_div_iff_lt_ceil (hsize : 0 < size) (hmultiple : ¬ ∃ k : ℤ, radius = k * size) (n : ℕ) :
    (n : K) ≤ radius / size ↔ (n : ℤ) < ⌈radius / size⌉ := by
  rw [Int.lt_ceil, Int.cast_natCast, le_iff_lt_or_eq, or_iff_left]
  intro heq
  apply hmultiple
  refine ⟨n, ?_⟩
  rw [Int.cast_natCast, heq, div_mul_cancel₀ _ hsize.ne']

end Cells

/-! ## Sums of squares -/

/-- No component is longer than the whole. -/
theorem abs_le_of_sum_sq {components : List K} {component radius : K} (hradius : 0 ≤ radius)
    (h : (components.map fun c => c ^ 2).sum ≤ radius ^ 2) (hin : component ∈ components) :
    |component| ≤ radius := by
  apply abs_le_of_sq_le_sq _ hradius
  have hsum : component ^ 2 ≤ (components.map fun c => c ^ 2).sum := by
    apply List.single_le_sum
    · intro square hsquare
      obtain ⟨c, -, rfl⟩ := List.mem_map.mp hsquare
      positivity
    · exact List.mem_map_of_mem hin
  exact hsum.trans h

/-- Both sides of a comparison of squares may be scaled. -/
theorem sum_sq_div_le_iff {components : List K} {scale radius : K} (hscale : 0 < scale) :
    (components.map fun c => (c / scale) ^ 2).sum ≤ (radius / scale) ^ 2 ↔
      (components.map fun c => c ^ 2).sum ≤ radius ^ 2 := by
  have hsum : (components.map fun c => (c / scale) ^ 2).sum =
      (components.map fun c => c ^ 2).sum / scale ^ 2 := by
    simp only [div_pow, div_eq_mul_inv _ (scale ^ 2)]
    rw [List.sum_map_mul_right]
  rw [hsum, div_pow, div_le_div_iff_of_pos_right (by positivity)]

end Grid
