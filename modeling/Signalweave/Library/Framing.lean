import Mathlib.Data.List.Basic

/-!
# A stream that is cut into frames

A reader looks at the beginning of what has come of a stream. It finds a frame there and says what
is in it and how long it is, or it has to wait for more, or the stream is broken. What it has found
does not change when more comes. A stream is then cut in one way, however it comes in pieces.
-/

namespace Framing

variable {α β ε : Type}

/-- What the reader says stays as it is when more of the stream has come. -/
structure Lawful (next : List α → Except ε (Option (β × ℕ))) : Prop where
  nil : next [] = .ok none
  error_append : ∀ bytes more error, next bytes = .error error → next (bytes ++ more) = .error error
  some_append : ∀ bytes more item n, next bytes = .ok (some (item, n)) →
    next (bytes ++ more) = .ok (some (item, n))
  length : ∀ bytes item n, next bytes = .ok (some (item, n)) → 0 < n ∧ n ≤ bytes.length

/-- Takes the frames from the beginning of a stream, as many as the first argument allows: the items
in them, what is left, and the error that ended it. -/
def drain (next : List α → Except ε (Option (β × ℕ))) : ℕ → List α → List β × List α × Option ε
  | 0, bytes => ([], bytes, none)
  | fuel + 1, bytes =>
    match next bytes with
    | .error error => ([], bytes, some error)
    | .ok none => ([], bytes, none)
    | .ok (some (item, n)) =>
      let (items, rest, error) := drain next fuel (bytes.drop n)
      (item :: items, rest, error)

/-- The stream is the frames of the items, and a rest that is no frame yet. -/
inductive Cut (next : List α → Except ε (Option (β × ℕ))) : List α → List β → List α → Prop
  | rest {bytes : List α} : next bytes = .ok none → Cut next bytes [] bytes
  | frame {bytes rest : List α} {item : β} {items : List β} {n : ℕ} :
    next bytes = .ok (some (item, n)) → Cut next (bytes.drop n) items rest →
      Cut next bytes (item :: items) rest

namespace Cut

variable {next : List α → Except ε (Option (β × ℕ))} {bytes more rest : List α} {items : List β}

theorem incomplete (h : Cut next bytes items rest) : next rest = .ok none := by
  induction h with
  | rest hrest => exact hrest
  | frame _ _ ih => exact ih

theorem eq_rest (h : Cut next bytes [] rest) : bytes = rest := by
  cases h
  rfl

/-- Draining comes to the end of the frames when it is allowed one for each byte. -/
theorem drain_eq (hnext : Lawful next) (h : Cut next bytes items rest) {fuel : ℕ}
    (hfuel : bytes.length ≤ fuel) : drain next fuel bytes = (items, rest, none) := by
  induction h generalizing fuel with
  | @rest bytes hrest =>
    cases fuel with
    | zero => rfl
    | succ fuel => simp only [drain, hrest]
  | @frame bytes rest item items n hframe _ ih =>
    obtain ⟨hpos, hlen⟩ := hnext.length bytes item n hframe
    cases fuel with
    | zero => omega
    | succ fuel =>
      have hshorter : (bytes.drop n).length ≤ fuel := by
        rw [List.length_drop]
        omega
      simp only [drain, hframe, ih hshorter]

/-- A stream is cut in one way. -/
theorem unique (hnext : Lawful next) {items' : List β} {rest' : List α}
    (h : Cut next bytes items rest) (h' : Cut next bytes items' rest') :
    items = items' ∧ rest = rest' := by
  have hboth := (h.drain_eq hnext (Nat.le_refl _)).symm.trans (h'.drain_eq hnext (Nat.le_refl _))
  simpa using hboth

/-- What comes after a stream is cut together with the rest of it. -/
theorem append (hnext : Lawful next) {items' : List β} {rest' : List α}
    (h : Cut next bytes items rest) (hmore : Cut next (rest ++ more) items' rest') :
    Cut next (bytes ++ more) (items ++ items') rest' := by
  induction h with
  | rest _ => exact hmore
  | @frame bytes rest item items n hframe _ ih =>
    obtain ⟨-, hlen⟩ := hnext.length bytes item n hframe
    have hdrop : (bytes ++ more).drop n = bytes.drop n ++ more := List.drop_append_of_le_length hlen
    refine .frame (hnext.some_append bytes more item n hframe) ?_
    rw [hdrop]
    exact ih hmore

/-- A stream that comes in two pieces is cut in two steps. -/
theorem split (hnext : Lawful next) (h : Cut next (bytes ++ more) items rest) :
    ∃ first middle second, Cut next bytes first middle ∧ Cut next (middle ++ more) second rest ∧
      items = first ++ second := by
  generalize hwhole : bytes ++ more = whole at h
  induction h generalizing bytes with
  | rest hrest =>
    subst hwhole
    cases hfirst : next bytes with
    | error error =>
      rw [hnext.error_append bytes more error hfirst] at hrest
      cases hrest
    | ok found =>
      cases found with
      | none => exact ⟨[], bytes, [], .rest hfirst, .rest hrest, rfl⟩
      | some found =>
        rw [hnext.some_append bytes more found.1 found.2 hfirst] at hrest
        cases hrest
  | @frame _ rest item items n hframe hcut ih =>
    subst hwhole
    cases hfirst : next bytes with
    | error error =>
      rw [hnext.error_append bytes more error hfirst] at hframe
      cases hframe
    | ok found =>
      cases found with
      | none => exact ⟨[], bytes, item :: items, .rest hfirst, .frame hframe hcut, rfl⟩
      | some found =>
        have hsame := hnext.some_append bytes more found.1 found.2 hfirst
        rw [hframe] at hsame
        cases hsame
        obtain ⟨-, hlen⟩ := hnext.length bytes _ _ hfirst
        obtain ⟨first, middle, second, hfirstCut, hsecondCut, hitems⟩ :=
          ih (List.drop_append_of_le_length hlen).symm
        refine ⟨_ :: first, middle, second, .frame hfirst hfirstCut, hsecondCut, ?_⟩
        rw [hitems]
        rfl

/-- Frames one after another are cut with nothing left. -/
theorem of_frames (hnext : Lawful next) {frames : List (List α)} {items : List β}
    (h : List.Forall₂ (fun frame item => next frame = .ok (some (item, frame.length)))
      frames items) :
    Cut next frames.flatten items [] := by
  induction h with
  | nil => exact .rest hnext.nil
  | @cons frame item frames items hframe _ ih =>
    refine .frame (hnext.some_append frame frames.flatten item frame.length hframe) ?_
    rw [List.flatten_cons, List.drop_left]
    exact ih

end Cut

end Framing
