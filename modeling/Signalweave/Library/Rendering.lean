import Mathlib.Algebra.BigOperators.Group.List.Basic
import Mathlib.Data.List.DropRight
import Mathlib.Tactic.Ring

/-!
# Values written out

A value is written out by its constructors: the name, and the fields between brackets with commas.
Of such a text only its size in bytes matters here, which adds up over the parts.
-/

namespace Rendering

/-- A number of 64 bits in decimal. -/
def number (n : ℕ) : String := (n % 2 ^ 64).repr

/-- Texts with commas between them. -/
def commas (texts : List String) : String := ", ".intercalate texts

/-- `f.debug_tuple(name)` with its fields. -/
def tuple (name : String) (fields : List String) : String := name ++ "(" ++ commas fields ++ ")"

/-- `f.debug_struct(name)` with its fields. -/
def record (name : String) (fields : List (String × String)) : String :=
  name ++ " \x7b " ++ commas (fields.map fun field => field.1 ++ ": " ++ field.2) ++ " \x7d"

/-- `f.debug_list()` with its items. -/
def list (items : List String) : String := "[" ++ commas items ++ "]"

/-- `#[derive(Debug)]` of `Option`. -/
def option : Option String → String
  | none => "None"
  | some text => tuple "Some" [text]

/-- The decimals of a fraction of so many digits, without the zeros at their end. -/
def decimals (width fraction : ℕ) : String :=
  match ((Nat.toDigits 10 fraction).leftpad width '0').rdropWhile (· = '0') with
  | [] => ""
  | chars => "." ++ String.ofList chars

/-- A length of time in nanoseconds, in the largest unit that it fills. -/
def duration (nanos : ℕ) : String :=
  if 10 ^ 9 ≤ nanos then number (nanos / 10 ^ 9) ++ decimals 9 (nanos % 10 ^ 9) ++ "s"
  else if 10 ^ 6 ≤ nanos then number (nanos / 10 ^ 6) ++ decimals 6 (nanos % 10 ^ 6) ++ "ms"
  else if 10 ^ 3 ≤ nanos then number (nanos / 10 ^ 3) ++ decimals 3 (nanos % 10 ^ 3) ++ "µs"
  else number nanos ++ "ns"

example : duration 1500000000 = "1.5s" := by decide +kernel

/-! ## Sizes -/

/-- The digits of a number of 64 bits. -/
def digits (n : ℕ) : ℕ := (Nat.toDigits 10 (n % 2 ^ 64)).length

/-- The size of texts with commas between them. -/
def commasSize (sizes : List ℕ) : ℕ := sizes.sum + 2 * (sizes.length - 1)

theorem digits_pos (n : ℕ) : 0 < digits n := Nat.length_toDigits_pos

theorem digits_le (n : ℕ) : digits n ≤ 20 := by
  apply (Nat.length_toDigits_le_iff (by decide) (by decide)).mpr
  exact (Nat.mod_lt n (by decide)).trans (by decide)

theorem utf8Size_of_isDigit {c : Char} (h : c.isDigit = true) : c.utf8Size = 1 := by
  have hlow : c.toNat < 128 := by
    simp only [Char.isDigit, Bool.and_eq_true, decide_eq_true_eq] at h
    have hnine : c.val ≤ 57 := h.2
    exact Nat.lt_of_le_of_lt (UInt32.le_iff_toNat_le.mp hnine) (by decide)
  exact Char.utf8Size_eq_one_iff.mpr (UInt32.le_iff_toNat_le.mpr (Nat.le_of_lt_succ hlow))

theorem utf8ByteSize_ofList {chars : List Char} (h : ∀ c ∈ chars, c.isDigit = true) :
    (String.ofList chars).utf8ByteSize = chars.length := by
  induction chars with
  | nil => rfl
  | cons c rest ih =>
    have hrest := ih fun c' hc' => h c' (List.mem_cons_of_mem c hc')
    have hone := utf8Size_of_isDigit (h c List.mem_cons_self)
    rw [String.ofList_cons, String.utf8ByteSize_append, String.utf8ByteSize_singleton, hrest, hone,
      List.length_cons, Nat.add_comm]

@[simp] theorem size_number (n : ℕ) : (number n).utf8ByteSize = digits n := by
  unfold number digits
  rw [Nat.repr_eq_ofList_toDigits, utf8ByteSize_ofList]
  exact fun c hc => Nat.isDigit_of_mem_toDigits (by decide) (by decide) hc

theorem size_commas (texts : List String) :
    (commas texts).utf8ByteSize = commasSize (texts.map String.utf8ByteSize) := by
  unfold commas commasSize
  induction texts with
  | nil => rfl
  | cons text rest ih =>
    cases rest with
    | nil => simp
    | cons next rest =>
      rw [String.intercalate_cons_cons, String.utf8ByteSize_append, String.utf8ByteSize_append, ih]
      show text.utf8ByteSize + 2 + _ = _
      simp only [List.map_cons, List.sum_cons, List.length_cons, List.length_map,
        Nat.add_sub_cancel]
      ring

theorem size_tuple (name : String) (fields : List String) :
    (tuple name fields).utf8ByteSize =
      name.utf8ByteSize + 2 + commasSize (fields.map String.utf8ByteSize) := by
  unfold tuple
  rw [String.utf8ByteSize_append, String.utf8ByteSize_append, String.utf8ByteSize_append,
    size_commas]
  show _ + 1 + _ + 1 = _
  ring

theorem size_record (name : String) (fields : List (String × String)) :
    (record name fields).utf8ByteSize = name.utf8ByteSize + 5 +
      commasSize (fields.map fun field => field.1.utf8ByteSize + 2 + field.2.utf8ByteSize) := by
  unfold record
  rw [String.utf8ByteSize_append, String.utf8ByteSize_append, String.utf8ByteSize_append,
    size_commas,
    List.map_map]
  have hfield : String.utf8ByteSize ∘ (fun field : String × String => field.1 ++ ": " ++ field.2) =
      fun field => field.1.utf8ByteSize + 2 + field.2.utf8ByteSize := by
    funext field
    rw [Function.comp_apply, String.utf8ByteSize_append, String.utf8ByteSize_append]
    rfl
  rw [hfield]
  show _ + 3 + _ + 2 = _
  ring

theorem size_list (items : List String) :
    (list items).utf8ByteSize = 2 + commasSize (items.map String.utf8ByteSize) := by
  unfold list
  rw [String.utf8ByteSize_append, String.utf8ByteSize_append, size_commas]
  show 1 + _ + 1 = _
  ring

theorem size_option_some (text : String) :
    (option (some text)).utf8ByteSize = 6 + text.utf8ByteSize := by
  rw [option, size_tuple, commasSize]
  show 4 + 2 + (text.utf8ByteSize + 0 + 0) = _
  rfl

theorem size_decimals_le {width fraction : ℕ} (hwidth : 0 < width) (h : fraction < 10 ^ width) :
    (decimals width fraction).utf8ByteSize ≤ width + 1 := by
  have hdigits : (Nat.toDigits 10 fraction).length ≤ width :=
    (Nat.length_toDigits_le_iff (by decide) hwidth).mpr h
  have hpadded : ((Nat.toDigits 10 fraction).leftpad width '0').length = width := by
    rw [List.length_leftpad]
    exact max_eq_left hdigits
  unfold decimals
  have hkept := List.rdropWhile_prefix (· = '0') ((Nat.toDigits 10 fraction).leftpad width '0')
  have hshort := hkept.length_le
  have hchars : ∀ c ∈ ((Nat.toDigits 10 fraction).leftpad width '0').rdropWhile (· = '0'),
      c.isDigit = true := by
    intro c hc
    rcases List.mem_append.mp (hkept.subset hc) with hzero | hdigit
    · rw [List.eq_of_mem_replicate hzero]
      rfl
    · exact Nat.isDigit_of_mem_toDigits (by decide) (by decide) hdigit
  split
  · exact Nat.zero_le _
  · rw [String.utf8ByteSize_append, utf8ByteSize_ofList hchars]
    show 1 + _ ≤ _
    omega

theorem size_duration_le (nanos : ℕ) : (duration nanos).utf8ByteSize ≤ 32 := by
  have hdecimals : ∀ width, 0 < width →
      (decimals width (nanos % 10 ^ width)).utf8ByteSize ≤ width + 1 := fun width hwidth =>
    size_decimals_le hwidth (Nat.mod_lt _ (Nat.pow_pos (by decide)))
  have hnine := hdecimals 9 (by decide)
  have hsix := hdecimals 6 (by decide)
  have hthree := hdecimals 3 (by decide)
  have hnumber : ∀ n, (number n).utf8ByteSize ≤ 20 := fun n => by
    rw [size_number]
    exact digits_le n
  unfold duration
  split
  · rw [String.utf8ByteSize_append, String.utf8ByteSize_append]
    have := hnumber (nanos / 10 ^ 9)
    show _ + _ + 1 ≤ _
    omega
  · split
    · rw [String.utf8ByteSize_append, String.utf8ByteSize_append]
      have := hnumber (nanos / 10 ^ 6)
      show _ + _ + 2 ≤ _
      omega
    · split
      · rw [String.utf8ByteSize_append, String.utf8ByteSize_append]
        have := hnumber (nanos / 10 ^ 3)
        show _ + _ + 3 ≤ _
        omega
      · rw [String.utf8ByteSize_append]
        have := hnumber nanos
        show _ + 2 ≤ _
        omega

end Rendering
