import Signalweave.Library.Transition

/-!
# Refinement of a specification by a machine

A specification is a relation between a state, an event and the next state. A machine answers each
input; the input and the answer are the event an observer sees. Where every step of the machine
is a step of the specification on the abstract states, every run is a run of the specification.
-/

namespace Refinement

variable {σ τ ι ω ε : Type*}

/-- The runs of a specification, with the events that are seen. -/
inductive Run (spec : τ → ε → τ → Prop) : τ → List ε → τ → Prop
  | nil (t : τ) : Run spec t [] t
  | cons {t t' t'' : τ} {event : ε} {events : List ε} (head : spec t event t')
      (tail : Run spec t' events t'') : Run spec t (event :: events) t''

theorem Run.invariant {spec : τ → ε → τ → Prop} {P : τ → Prop} {t t' : τ} {events : List ε}
    (h : Run spec t events t') (hspec : ∀ t event t', P t → spec t event t' → P t') (ht : P t) :
    P t' := by
  induction h with
  | nil => exact ht
  | cons head _ ih => exact ih (hspec _ _ _ ht head)

/-- The events of a run of the machine: each input with the answer to it. -/
def observed (step : σ → ι → σ) (answer : σ → ι → ω) : σ → List ι → List (ι × ω)
  | _, [] => []
  | s, input :: rest => (input, answer s input) :: observed step answer (step s input) rest

/-- A forward simulation: the steps of the machine that start from its invariant are steps of the
specification, so the runs are runs of it. -/
theorem run_of_simulation {σ ι : Type} {τ ω : Type*} {step : σ → ι → σ} {answer : σ → ι → ω}
    {spec : τ → ι × ω → τ → Prop} {abs : σ → τ} {P : σ → Prop}
    (hkeeps : ∀ s input, P s → P (step s input))
    (hstep : ∀ s input, P s → spec (abs s) (input, answer s input) (abs (step s input)))
    {s : σ} (hs : P s) (inputs : List ι) :
    Run spec (abs s) (observed step answer s inputs) (abs (Transition.run step s inputs)) := by
  induction inputs generalizing s with
  | nil => exact .nil _
  | cons input rest ih => exact .cons (hstep s input hs) (ih (hkeeps s input hs))

end Refinement
