import Mathlib.Logic.Relation

/-!
# Things that rest on others

Each thing rests on others. When some are gone, a thing falls with them if the chain of what it
rests on leads to one that is gone. Nothing is asked of the relation: things may rest on each
other in a circle, and a circle stands as long as nothing in it is gone.
-/

namespace Support

variable {α : Type*} {rests rests' : α → α → Prop} {gone gone' falls : α → Prop} {a b : α}

/-- What the thing rests on leads to something that is gone. -/
def Falls (rests : α → α → Prop) (gone : α → Prop) (a : α) : Prop :=
  ∃ b, Relation.ReflTransGen rests a b ∧ gone b

theorem Falls.of_gone (h : gone a) : Falls rests gone a := ⟨a, .refl, h⟩

theorem Falls.of_rests (hrests : rests a b) (h : Falls rests gone b) : Falls rests gone a := by
  obtain ⟨c, hpath, hgone⟩ := h
  exact ⟨c, .head hrests hpath, hgone⟩

/-- What is gone and what rests on something fallen: whatever holds of these holds of all that
falls. -/
theorem Falls.rec_on {P : α → Prop} (h : Falls rests gone a) (hgone : ∀ a, gone a → P a)
    (hrests : ∀ a b, rests a b → Falls rests gone b → P b → P a) : P a := by
  obtain ⟨b, hpath, hb⟩ := h
  induction hpath using Relation.ReflTransGen.head_induction_on with
  | refl => exact hgone _ hb
  | head hstep hrest ih => exact hrests _ _ hstep ⟨b, hrest, hb⟩ ih

/-- What a thing that is gone used to rest on does not matter. -/
theorem falls_congr (hgone : ∀ a, gone a ↔ gone' a)
    (hrests : ∀ a b, ¬ gone a → (rests a b ↔ rests' a b)) :
    Falls rests gone a ↔ Falls rests' gone' a := by
  have hrests' : ∀ a b, ¬ gone' a → (rests' a b ↔ rests a b) :=
    fun a b hleft => (hrests a b fun h => hleft ((hgone a).mp h)).symm
  constructor
  · intro h
    refine h.rec_on (fun a ha => .of_gone ((hgone a).mp ha)) fun a b hstep _ ih => ?_
    by_cases ha : gone a
    · exact .of_gone ((hgone a).mp ha)
    · exact .of_rests ((hrests a b ha).mp hstep) ih
  · intro h
    refine h.rec_on (fun a ha => .of_gone ((hgone a).mpr ha)) fun a b hstep _ ih => ?_
    by_cases ha : gone' a
    · exact .of_gone ((hgone a).mpr ha)
    · exact .of_rests ((hrests' a b ha).mp hstep) ih

/-- It makes no difference that some of what falls has fallen before. -/
theorem falls_pruned (hfalls : ∀ a, falls a → Falls rests gone a) :
    Falls (fun a b => rests a b ∧ ¬ falls a) (fun a => falls a ∨ gone a) a ↔
      Falls rests gone a := by
  constructor
  · intro h
    refine h.rec_on ?_ fun a b hstep _ ih => .of_rests hstep.1 ih
    rintro a (ha | ha)
    · exact hfalls a ha
    · exact .of_gone ha
  · intro h
    refine h.rec_on (fun a ha => .of_gone (.inr ha)) fun a b hstep _ ih => ?_
    by_cases ha : falls a
    · exact .of_gone (.inl ha)
    · exact .of_rests ⟨hstep, ha⟩ ih

/-- Where whatever is there rests only on what is there, nothing that is there falls. -/
theorem not_falls {there : α → Prop} (hgone : ∀ a, there a → ¬ gone a)
    (hrests : ∀ a b, there a → rests a b → there b) (h : there a) : ¬ Falls rests gone a := by
  intro hfalls
  refine hfalls.rec_on (P := fun a => ¬ there a) ?_ ?_ h
  · exact fun a ha hthere => hgone a hthere ha
  · exact fun a b hstep _ ih hthere => ih (hrests a b hthere hstep)

end Support
