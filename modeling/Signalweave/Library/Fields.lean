import Mathlib.Data.List.Basic

/-!
# Numbers after a separator

A list of numbers written in decimal digits, each after a separator that is no digit, can be read
back.
-/

namespace Fields

variable {sep : Char}

/-- The digits of the numbers, the separator before each. -/
def fields (sep : Char) : List Nat → List Char
  | [] => []
  | number :: rest => sep :: (Nat.toDigits 10 number ++ fields sep rest)

theorem toDigits_inj {first second : Nat} :
    Nat.toDigits 10 first = Nat.toDigits 10 second ↔ first = second := by
  constructor
  · intro h
    have hread := congrArg (fun digits => Nat.ofDigitChars 10 digits 0) h
    simpa using hread
  · rintro rfl
    rfl

/-- What follows the digits is nothing or starts with the separator, and so the digits end where
they should. -/
theorem takeWhile_fields (hsep : sep.isDigit = false) (number : Nat) (rest : List Nat) :
    (Nat.toDigits 10 number ++ fields sep rest).takeWhile Char.isDigit =
      Nat.toDigits 10 number := by
  have hdigits : ∀ c ∈ Nat.toDigits 10 number, c.isDigit = true := fun c hin =>
    Nat.isDigit_of_mem_toDigits (by decide) (by decide) hin
  rw [List.takeWhile_append_of_pos hdigits]
  cases rest <;> simp [fields, hsep]

theorem fields_injective (hsep : sep.isDigit = false) {first second : List Nat}
    (h : fields sep first = fields sep second) : first = second := by
  induction first generalizing second with
  | nil =>
    cases second with
    | nil => rfl
    | cons _ _ => simp [fields] at h
  | cons number rest ih =>
    cases second with
    | nil => simp [fields] at h
    | cons number' rest' =>
      simp only [fields, List.cons.injEq, true_and] at h
      have hdigits := congrArg (List.takeWhile Char.isDigit) h
      rw [takeWhile_fields hsep, takeWhile_fields hsep] at hdigits
      rw [hdigits, List.append_cancel_left_eq] at h
      rw [toDigits_inj.mp hdigits, ih h]

end Fields
