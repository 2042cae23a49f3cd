import Mathlib

/-!
# Methods that mutate and may fail

A method on a mutable receiver that returns early on an error keeps what it wrote before the
error. `EStateM` is that shape: both outcomes carry a state. `Returns` and `Fails` are its two
outcomes read as relations, with one rule for each way a method is built, so that a method's
inversion lemma is obtained by rewriting along its text.
-/

/-- The value of an option, or the given error. -/
def Option.okOr {ε α : Type} (o : Option α) (e : ε) : Except ε α :=
  match o with
  | some a => .ok a
  | none => .error e

@[simp] theorem Option.okOr_some {ε α : Type} (a : α) (e : ε) : (some a).okOr e = .ok a := rfl

@[simp] theorem Option.okOr_eq_ok {ε α : Type} {o : Option α} {e : ε} {a : α} :
    o.okOr e = .ok a ↔ o = some a := by
  cases o <;> simp [Option.okOr]

@[simp] theorem Option.okOr_eq_error {ε α : Type} {o : Option α} {e e' : ε} :
    o.okOr e = .error e' ↔ o = none ∧ e = e' := by
  cases o <;> simp [Option.okOr]

namespace Stateful

variable {ε σ α β : Type}

instance monadLiftExcept : MonadLift (Except ε) (EStateM ε σ) where
  monadLift
    | .ok a => pure a
    | .error e => throw e

/-- From state `s` the method ends normally, with value `a` and state `s'`. -/
def Returns (x : EStateM ε σ α) (s : σ) (a : α) (s' : σ) : Prop :=
  x.run s = .ok a s'

/-- From state `s` the method ends with error `e`, leaving state `s'`. -/
def Fails (x : EStateM ε σ α) (s : σ) (e : ε) (s' : σ) : Prop :=
  x.run s = .error e s'

/-- The state a method leaves behind, whichever way it ends. -/
def after (x : EStateM ε σ α) (s : σ) : σ :=
  match x.run s with
  | .ok _ s' => s'
  | .error _ s' => s'

theorem returns_or_fails (x : EStateM ε σ α) (s : σ) :
    (∃ a, Returns x s a (after x s)) ∨ (∃ e, Fails x s e (after x s)) := by
  unfold Returns Fails after
  cases x.run s with
  | ok a s' => exact .inl ⟨a, rfl⟩
  | error e s' => exact .inr ⟨e, rfl⟩

theorem Returns.after_eq {x : EStateM ε σ α} {s s' : σ} {a : α} (h : Returns x s a s') :
    after x s = s' := by
  unfold Returns at h
  simp only [after, h]

theorem Fails.after_eq {x : EStateM ε σ α} {s s' : σ} {e : ε} (h : Fails x s e s') :
    after x s = s' := by
  unfold Fails at h
  simp only [after, h]

theorem Returns.not_fails {x : EStateM ε σ α} {s s' s'' : σ} {a : α} {e : ε}
    (h : Returns x s a s') : ¬ Fails x s e s'' := by
  unfold Returns at h
  simp [Fails, h]

/-! ## Postconditions -/

/-- From state `s` the method ends normally as `Q` says or with an error as `E` says. -/
def Ends (x : EStateM ε σ α) (s : σ) (Q : α → σ → Prop) (E : ε → σ → Prop) : Prop :=
  match x.run s with
  | .ok a s' => Q a s'
  | .error e s' => E e s'

section Ends

variable {s : σ} {Q : α → σ → Prop} {E : ε → σ → Prop}

theorem Ends.returns {x : EStateM ε σ α} {s' : σ} {a : α} (h : Ends x s Q E)
    (hx : Returns x s a s') : Q a s' := by
  unfold Returns at hx
  rwa [Ends, hx] at h

theorem Ends.fails {x : EStateM ε σ α} {s' : σ} {e : ε} (h : Ends x s Q E)
    (hx : Fails x s e s') : E e s' := by
  unfold Fails at hx
  rwa [Ends, hx] at h

theorem Ends.after {x : EStateM ε σ α} {P : σ → Prop} (h : Ends x s (fun _ => P) fun _ => P) :
    P (Stateful.after x s) := by
  unfold Ends at h
  unfold Stateful.after
  cases hx : x.run s <;> simpa [hx] using h

/-- A computation ends well when each of its ends is one. -/
theorem ends_of_forall {x : EStateM ε σ α} (hreturns : ∀ a s', Returns x s a s' → Q a s')
    (hfails : ∀ e s', Fails x s e s' → E e s') : Ends x s Q E := by
  unfold Ends
  cases hx : x.run s with
  | ok a s' => exact hreturns a s' hx
  | error e s' => exact hfails e s' hx

theorem Ends.mono {x : EStateM ε σ α} {Q' : α → σ → Prop} {E' : ε → σ → Prop} (h : Ends x s Q E)
    (hQ : ∀ a s', Q a s' → Q' a s') (hE : ∀ e s', E e s' → E' e s') : Ends x s Q' E' := by
  unfold Ends at *
  cases hx : x.run s with
  | ok a s' => exact hQ a s' (by simpa [hx] using h)
  | error e s' => exact hE e s' (by simpa [hx] using h)

theorem Ends.and {x : EStateM ε σ α} {Q' : α → σ → Prop} (h : Ends x s Q E)
    (h' : Ends x s Q' fun _ _ => True) : Ends x s (fun a s' => Q a s' ∧ Q' a s') E := by
  unfold Ends at *
  cases hx : x.run s with
  | ok a s' =>
    rw [hx] at h h'
    exact ⟨h, h'⟩
  | error e s' =>
    rw [hx] at h
    exact h

@[simp] theorem ends_pure {a : α} : Ends (pure a) s Q E ↔ Q a s := Iff.rfl

@[simp] theorem ends_throw {e : ε} : Ends (throw e) s Q E ↔ E e s := Iff.rfl

@[simp] theorem ends_bind {x : EStateM ε σ β} {f : β → EStateM ε σ α} :
    Ends (x >>= f) s Q E ↔ Ends x s (fun b s' => Ends (f b) s' Q E) E := by
  change (match EStateM.bind x f s with | .ok a s' => Q a s' | .error e s' => E e s') ↔ _
  unfold Ends EStateM.bind EStateM.run
  cases x s <;> rfl

@[simp] theorem ends_map {x : EStateM ε σ β} {f : β → α} :
    Ends (f <$> x) s Q E ↔ Ends x s (fun b => Q (f b)) E := by
  change (match EStateM.map f x s with | .ok a s' => Q a s' | .error e s' => E e s') ↔ _
  unfold Ends EStateM.map EStateM.run
  cases x s <;> rfl

@[simp] theorem ends_lift {x : Except ε α} :
    Ends (liftM x) s Q E ↔ (∀ a, x = .ok a → Q a s) ∧ ∀ e, x = .error e → E e s := by
  cases x with
  | ok a => exact ⟨fun h => ⟨fun _ ha => by cases ha; exact h, by simp⟩, fun h => h.1 a rfl⟩
  | error e => exact ⟨fun h => ⟨by simp, fun _ he => by cases he; exact h⟩, fun h => h.2 e rfl⟩

@[simp] theorem ends_get {Q : σ → σ → Prop} : Ends (get : EStateM ε σ σ) s Q E ↔ Q s s := Iff.rfl

@[simp] theorem ends_set {t : σ} {Q : PUnit → σ → Prop} :
    Ends (set t : EStateM ε σ PUnit) s Q E ↔ Q ⟨⟩ t := Iff.rfl

@[simp] theorem ends_modify {f : σ → σ} {Q : PUnit → σ → Prop} :
    Ends (modify f : EStateM ε σ PUnit) s Q E ↔ Q ⟨⟩ (f s) := Iff.rfl

@[simp] theorem ends_ite {p : Prop} [Decidable p] {x y : EStateM ε σ α} :
    Ends (if p then x else y) s Q E ↔ (p → Ends x s Q E) ∧ (¬ p → Ends y s Q E) := by
  by_cases h : p <;> simp [h]

/-- A loop keeps what each of its rounds keeps. -/
theorem Ends.foldlM {γ : Type} {f : β → γ → EStateM ε σ β} {I : β → σ → Prop} {list : List γ}
    (hstep : ∀ b s' c, c ∈ list → I b s' → Ends (f b c) s' I E) {b : β} (h : I b s) :
    Ends (list.foldlM f b) s I E := by
  induction list generalizing b s with
  | nil => exact h
  | cons c rest ih =>
    rw [List.foldlM_cons, ends_bind]
    apply (hstep b s c List.mem_cons_self h).mono
    · intro b' s' h'
      exact ih (fun b s' c hc => hstep b s' c (List.mem_cons_of_mem _ hc)) h'
    · exact fun _ _ he => he

/-- A loop whose invariant speaks of the elements it has walked over. -/
theorem Ends.foldlM_along {γ : Type} {f : β → γ → EStateM ε σ β} {I : List γ → β → σ → Prop}
    {list : List γ}
    (hstep : ∀ seen c rest, seen ++ c :: rest = list → ∀ b s', I seen b s' →
      Ends (f b c) s' (I (seen ++ [c])) E) {b : β} (h : I [] b s) :
    Ends (list.foldlM f b) s (I list) E := by
  suffices hrest : ∀ rest seen b s, seen ++ rest = list → I seen b s →
      Ends (rest.foldlM f b) s (I list) E from hrest list [] b s rfl h
  intro rest
  induction rest with
  | nil =>
    intro seen b s hlist hinv
    rw [List.append_nil] at hlist
    exact hlist ▸ hinv
  | cons c rest ih =>
    intro seen b s hlist hinv
    rw [List.foldlM_cons, ends_bind]
    apply (hstep seen c rest hlist b s hinv).mono
    · intro b' s' h'
      exact ih (seen ++ [c]) b' s' (by rw [List.append_assoc, List.singleton_append, hlist]) h'
    · exact fun _ _ he => he

end Ends

/-! ## One rule for each construct -/

@[simp] theorem returns_pure {a b : α} {s s' : σ} :
    Returns (pure a : EStateM ε σ α) s b s' ↔ a = b ∧ s = s' := by
  change (EStateM.Result.ok a s : EStateM.Result ε σ α) = .ok b s' ↔ _
  simp

@[simp] theorem returns_throw {e : ε} {b : α} {s s' : σ} :
    ¬ Returns (throw e : EStateM ε σ α) s b s' := by
  change ¬ (EStateM.Result.error e s : EStateM.Result ε σ α) = .ok b s'
  simp

@[simp] theorem returns_bind {x : EStateM ε σ α} {f : α → EStateM ε σ β} {s s' : σ} {b : β} :
    Returns (x >>= f) s b s' ↔ ∃ a s₁, Returns x s a s₁ ∧ Returns (f a) s₁ b s' := by
  change EStateM.bind x f s = _ ↔ _
  unfold EStateM.bind Returns EStateM.run
  cases x s <;> simp

@[simp] theorem fails_bind {x : EStateM ε σ α} {f : α → EStateM ε σ β} {s s' : σ} {e : ε} :
    Fails (x >>= f) s e s' ↔
      Fails x s e s' ∨ ∃ a s₁, Returns x s a s₁ ∧ Fails (f a) s₁ e s' := by
  change EStateM.bind x f s = _ ↔ _
  unfold EStateM.bind Returns Fails EStateM.run
  cases x s <;> simp

@[simp] theorem returns_map {x : EStateM ε σ α} {f : α → β} {s s' : σ} {b : β} :
    Returns (f <$> x) s b s' ↔ ∃ a, Returns x s a s' ∧ f a = b := by
  change EStateM.map f x s = _ ↔ _
  unfold EStateM.map Returns EStateM.run
  cases x s <;> simp [and_comm]

@[simp] theorem fails_map {x : EStateM ε σ α} {f : α → β} {s s' : σ} {e : ε} :
    Fails (f <$> x) s e s' ↔ Fails x s e s' := by
  change EStateM.map f x s = _ ↔ _
  unfold EStateM.map Fails EStateM.run
  cases x s <;> simp

@[simp] theorem returns_lift {x : Except ε α} {s s' : σ} {a : α} :
    Returns (liftM x : EStateM ε σ α) s a s' ↔ x = .ok a ∧ s = s' := by
  cases x with
  | ok b => exact returns_pure.trans (by simp)
  | error e => exact ⟨fun h => absurd h returns_throw, by simp⟩

@[simp] theorem returns_get {s s' t : σ} :
    Returns (get : EStateM ε σ σ) s t s' ↔ s = t ∧ s = s' := by
  change (EStateM.Result.ok s s : EStateM.Result ε σ σ) = .ok t s' ↔ _
  simp

@[simp] theorem returns_set {s s' t : σ} {u : PUnit} :
    Returns (set t : EStateM ε σ PUnit) s u s' ↔ t = s' := by
  change (EStateM.Result.ok _ t : EStateM.Result ε σ PUnit) = .ok u s' ↔ _
  simp

/-- Leaving the answer of a method out does not change what it leaves behind. -/
theorem after_discard (x : EStateM ε σ α) (s : σ) :
    after (x >>= fun _ => pure ()) s = after x s := by
  rcases returns_or_fails x s with ⟨a, h⟩ | ⟨e, h⟩
  · have hreturns : Returns (x >>= fun _ => pure ()) s () (after x s) := by
      rw [returns_bind]
      exact ⟨a, _, h, returns_pure.mpr ⟨rfl, rfl⟩⟩
    exact hreturns.after_eq
  · have hfails : Fails (x >>= fun _ => pure ()) s e (after x s) := by
      rw [fails_bind]
      exact .inl h
    exact hfails.after_eq

end Stateful

/-! ## The same rules for a check that has no state -/

@[simp] theorem Except.bind_eq_ok {ε α β : Type} {x : Except ε α} {f : α → Except ε β} {b : β} :
    (x >>= f) = .ok b ↔ ∃ a, x = .ok a ∧ f a = .ok b := by
  cases x <;> simp [bind, Except.bind]

@[simp] theorem Except.bind_eq_error {ε α β : Type} {x : Except ε α} {f : α → Except ε β}
    {e : ε} :
    (x >>= f) = .error e ↔ x = .error e ∨ ∃ a, x = .ok a ∧ f a = .error e := by
  cases x <;> simp [bind, Except.bind]

@[simp] theorem Except.pure_eq_ok {ε α : Type} {a b : α} :
    (pure a : Except ε α) = .ok b ↔ a = b := by
  simp [pure, Except.pure]

@[simp] theorem Except.ite_eq_ok {ε α : Type} {p : Prop} [Decidable p] {x y : Except ε α} {a : α} :
    (if p then x else y) = .ok a ↔ (p ∧ x = .ok a) ∨ (¬ p ∧ y = .ok a) := by
  by_cases h : p <;> simp [h]

@[simp] theorem Except.throw_bind {ε α β : Type} {e : ε} {f : α → Except ε β} :
    ((throw e : Except ε α) >>= f) = throw e := rfl

@[simp] theorem Except.throw_ne_ok {ε α : Type} {e : ε} {a : α} :
    ¬ (throw e : Except ε α) = .ok a := by
  simp [throw, throwThe, MonadExceptOf.throw]
