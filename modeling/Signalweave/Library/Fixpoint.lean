import Mathlib

/-!
# Iterating until nothing changes

A loop that applies a growing step until a test finds no growth. The loop is given fuel; when
the step grows a bounded measure, enough fuel makes the result a fixed point.
-/

namespace Fixpoint

variable {α : Type}

/-- Apply `f` until `stable` accepts a step, or the fuel runs out. -/
def untilStable (f : α → α) (stable : α → α → Bool) : Nat → α → α
  | 0, a => a
  | fuel + 1, a => if stable a (f a) then f a else untilStable f stable fuel (f a)

/-- The loop itself, without fuel: a step that the test accepts is the last one. -/
inductive Ends (f : α → α) (stable : α → α → Bool) : α → α → Prop
  | stop {a : α} (last : stable a (f a) = true) : Ends f stable a (f a)
  | again {a b : α} (more : stable a (f a) = false) (rest : Ends f stable (f a) b) :
    Ends f stable a b

variable {f : α → α} {stable : α → α → Bool} {I : α → Prop}

theorem untilStable_invariant (hstep : ∀ a, I a → I (f a)) {a : α} (h : I a) (fuel : Nat) :
    I (untilStable f stable fuel a) := by
  induction fuel generalizing a with
  | zero => exact h
  | succ fuel ih =>
    unfold untilStable
    split
    · exact hstep a h
    · exact ih (hstep a h)

/-- With fuel for the room left under the measure's bound, the loop ends because the step
changed nothing. -/
theorem untilStable_fixed (I : α → Prop) (measure : α → Nat) {bound : Nat}
    (hstep : ∀ a, I a → I (f a))
    (hbound : ∀ a, I a → measure a ≤ bound)
    (hstable : ∀ a, I a → stable a (f a) = true → f a = a)
    (hgrow : ∀ a, I a → stable a (f a) = false → measure a < measure (f a))
    {a : α} (h : I a) {fuel : Nat} (hfuel : bound < measure a + fuel) :
    f (untilStable f stable fuel a) = untilStable f stable fuel a := by
  induction fuel generalizing a with
  | zero =>
    have := hbound a h
    omega
  | succ fuel ih =>
    unfold untilStable
    cases hs : stable a (f a) with
    | true =>
      rw [if_pos rfl, hstable a h hs, hstable a h hs]
    | false =>
      rw [if_neg Bool.false_ne_true]
      apply ih (hstep a h)
      have := hgrow a h hs
      omega

/-- With that much fuel the loop ends by itself, and the result is its own. -/
theorem untilStable_ends (I : α → Prop) (measure : α → Nat) {bound : Nat}
    (hstep : ∀ a, I a → I (f a)) (hbound : ∀ a, I a → measure a ≤ bound)
    (hgrow : ∀ a, I a → stable a (f a) = false → measure a < measure (f a))
    {a : α} (h : I a) {fuel : Nat} (hfuel : bound < measure a + fuel) :
    Ends f stable a (untilStable f stable fuel a) := by
  induction fuel generalizing a with
  | zero =>
    have := hbound a h
    omega
  | succ fuel ih =>
    unfold untilStable
    cases hs : stable a (f a) with
    | true =>
      rw [if_pos rfl]
      exact .stop hs
    | false =>
      rw [if_neg Bool.false_ne_true]
      refine .again hs (ih (hstep a h) ?_)
      have := hgrow a h hs
      omega

end Fixpoint
