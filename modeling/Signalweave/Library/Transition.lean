import Mathlib

/-!
# Runs of a deterministic transition system

A system is a step function from a state and an input to the next state. An invariant is
proved once for the step and holds in every reachable state; a property that only some steps
keep is characterised along a run by the steps that keep it.
-/

namespace Transition

variable {σ ι : Type}

/-- The state after a list of inputs. -/
def run (step : σ → ι → σ) (s : σ) (inputs : List ι) : σ := inputs.foldl step s

@[simp] theorem run_nil (step : σ → ι → σ) (s : σ) : run step s [] = s := rfl

@[simp] theorem run_cons (step : σ → ι → σ) (s : σ) (i : ι) (rest : List ι) :
    run step s (i :: rest) = run step (step s i) rest := rfl

theorem run_append (step : σ → ι → σ) (s : σ) (first second : List ι) :
    run step s (first ++ second) = run step (run step s first) second :=
  List.foldl_append ..

/-- The states a system gets to from an initial one. -/
def Reachable (step : σ → ι → σ) (init : σ → Prop) (s : σ) : Prop :=
  ∃ s₀ inputs, init s₀ ∧ run step s₀ inputs = s

section Invariants

variable {step : σ → ι → σ} {init : σ → Prop} {P : σ → Prop}

theorem Reachable.start {s : σ} (h : init s) : Reachable step init s := ⟨s, [], h, rfl⟩

theorem Reachable.next {s : σ} (h : Reachable step init s) (i : ι) :
    Reachable step init (step s i) := by
  obtain ⟨s₀, inputs, h₀, rfl⟩ := h
  exact ⟨s₀, inputs ++ [i], h₀, by rw [run_append, run_cons, run_nil]⟩

/-- What a step keeps on the inputs that meet a condition, a run on such inputs keeps. -/
theorem run_invariant_of {C : ι → Prop} (hstep : ∀ s i, P s → C i → P (step s i)) {s : σ} (h : P s)
    {inputs : List ι} (hinputs : ∀ i ∈ inputs, C i) : P (run step s inputs) := by
  induction inputs generalizing s with
  | nil => exact h
  | cons i rest ih =>
    exact ih (hstep s i h (hinputs i List.mem_cons_self)) fun later hin =>
      hinputs later (List.mem_cons_of_mem _ hin)

/-- What a step keeps, a run keeps. -/
theorem run_invariant (hstep : ∀ s i, P s → P (step s i)) {s : σ} (h : P s) (inputs : List ι) :
    P (run step s inputs) :=
  run_invariant_of (C := fun _ => True) (fun s i hp _ => hstep s i hp) h fun _ _ => trivial

/-- What holds initially and is kept by a step holds in every reachable state. -/
theorem Reachable.invariant (hinit : ∀ s, init s → P s) (hstep : ∀ s i, P s → P (step s i))
    {s : σ} (h : Reachable step init s) : P s := by
  obtain ⟨s₀, inputs, h₀, rfl⟩ := h
  exact run_invariant hstep (hinit s₀ h₀) inputs

end Invariants

/-- Where the steps of a system are steps of a part of it, so are the runs. -/
theorem run_project {τ : Type} {step : σ → ι → σ} {step' : τ → ι → τ} {f : σ → τ}
    (h : ∀ s i, f (step s i) = step' (f s) i) (s : σ) (inputs : List ι) :
    f (run step s inputs) = run step' (f s) inputs := by
  induction inputs generalizing s with
  | nil => rfl
  | cons i rest ih => rw [run_cons, run_cons, ih, h]

/-- A system comes to its end, whatever its inputs, where each step before the end lowers a
measure. -/
theorem exists_done {step : σ → ι → σ} {J done : σ → Prop} {μ : Type} {r : μ → μ → Prop}
    (hr : WellFounded r) (m : σ → μ) (hJ : ∀ s i, J s → J (step s i))
    (hlower : ∀ s i, J s → ¬ done s → r (m (step s i)) (m s)) {s : σ} (hs : J s) (inputs : ℕ → ι) :
    ∃ n, done (run step s ((List.range n).map inputs)) := by
  induction hm : m s using hr.induction generalizing s inputs with
  | _ value ih =>
    subst hm
    by_cases hdone : done s
    · exact ⟨0, hdone⟩
    · obtain ⟨n, hn⟩ := ih _ (hlower s (inputs 0) hs hdone) (hJ s (inputs 0) hs)
        (fun i => inputs (i + 1)) rfl
      refine ⟨n + 1, ?_⟩
      rw [List.range_succ_eq_map, List.map_cons, run_cons, List.map_map]
      exact hn

/-- What the steps of a run put out, in their order. -/
def outputs {ο : Type} (step : σ → ι → σ) (out : σ → ι → List ο) : σ → List ι → List ο
  | _, [] => []
  | s, i :: rest => out s i ++ outputs step out (step s i) rest

theorem outputs_append {ο : Type} (step : σ → ι → σ) (out : σ → ι → List ο) (s : σ)
    (first second : List ι) : outputs step out s (first ++ second) =
      outputs step out s first ++ outputs step out (run step s first) second := by
  induction first generalizing s with
  | nil => rfl
  | cons i rest ih =>
    rw [List.cons_append, outputs, outputs, ih, List.append_assoc]
    rfl

/-- The property holds in every state of the run, the first and the last included. -/
def Always (step : σ → ι → σ) (P : σ → Prop) : σ → List ι → Prop
  | s, [] => P s
  | s, i :: rest => P s ∧ Always step P (step s i) rest

/-- Every step of the run is taken from a state and on an input that meet the condition. -/
def Meets (step : σ → ι → σ) (C : σ → ι → Prop) : σ → List ι → Prop
  | _, [] => True
  | s, i :: rest => C s i ∧ Meets step C (step s i) rest

instance decidableMeets {step : σ → ι → σ} {C : σ → ι → Prop} [∀ s i, Decidable (C s i)] :
    ∀ s inputs, Decidable (Meets step C s inputs)
  | _, [] => inferInstanceAs (Decidable True)
  | s, i :: rest =>
    have : Decidable (Meets step C (step s i) rest) := decidableMeets (step s i) rest
    inferInstanceAs (Decidable (C s i ∧ Meets step C (step s i) rest))

theorem Always.head {step : σ → ι → σ} {P : σ → Prop} {s : σ} {inputs : List ι}
    (h : Always step P s inputs) : P s := by
  cases inputs with
  | nil => exact h
  | cons _ _ => exact h.1

theorem Always.last {step : σ → ι → σ} {P : σ → Prop} {s : σ} {inputs : List ι}
    (h : Always step P s inputs) : P (run step s inputs) := by
  induction inputs generalizing s with
  | nil => exact h
  | cons i rest ih => exact ih h.2

theorem Always.imp {step : σ → ι → σ} {P Q : σ → Prop} (hPQ : ∀ s, P s → Q s) {s : σ}
    {inputs : List ι} (h : Always step P s inputs) : Always step Q s inputs := by
  induction inputs generalizing s with
  | nil => exact hPQ s h
  | cons i rest ih => exact ⟨hPQ s h.1, ih h.2⟩

/-- Where a step from a state with the property keeps it exactly under the condition, a run
keeps it exactly when all its steps meet the condition. -/
theorem always_iff_meets {step : σ → ι → σ} {J P : σ → Prop} {C : σ → ι → Prop}
    (hJ : ∀ s i, J s → J (step s i)) (hstep : ∀ s i, J s → P s → (P (step s i) ↔ C s i))
    {s : σ} (hs : J s) (hp : P s) (inputs : List ι) :
    Always step P s inputs ↔ Meets step C s inputs := by
  induction inputs generalizing s with
  | nil => exact ⟨fun _ => trivial, fun _ => hp⟩
  | cons i rest ih =>
    constructor
    · rintro ⟨-, hrest⟩
      have hnext : P (step s i) := hrest.head
      exact ⟨(hstep s i hs hp).mp hnext, (ih (hJ s i hs) hnext).mp hrest⟩
    · rintro ⟨hc, hrest⟩
      have hnext := (hstep s i hs hp).mpr hc
      exact ⟨hp, (ih (hJ s i hs) hnext).mpr hrest⟩

/-- Where the steps that have a property are those that meet a condition, as long as all the
earlier ones had it, so are the runs. -/
theorem meets_iff_meets {step : σ → ι → σ} {J : σ → Prop} {R C : σ → ι → Prop}
    (hiff : ∀ s i, J s → (R s i ↔ C s i)) (hJ : ∀ s i, J s → R s i → J (step s i)) {s : σ}
    (hs : J s) (inputs : List ι) : Meets step R s inputs ↔ Meets step C s inputs := by
  induction inputs generalizing s with
  | nil => exact Iff.rfl
  | cons i rest ih =>
    constructor
    · intro h
      exact ⟨(hiff s i hs).mp h.1, (ih (hJ s i hs h.1)).mp h.2⟩
    · intro h
      have hfirst := (hiff s i hs).mpr h.1
      exact ⟨hfirst, (ih (hJ s i hs hfirst)).mpr h.2⟩

/-- A run all of whose steps meet the condition keeps what such a step keeps. -/
theorem always_of_meets {step : σ → ι → σ} {P : σ → Prop} {C : σ → ι → Prop}
    (hstep : ∀ s i, P s → C s i → P (step s i)) {s : σ} (hs : P s) {inputs : List ι}
    (h : Meets step C s inputs) : Always step P s inputs := by
  induction inputs generalizing s with
  | nil => exact hs
  | cons i rest ih => exact ⟨hs, ih (hstep s i hs h.1) h.2⟩

end Transition
