import Mathlib.Data.List.Basic

/-!
# Optimistic updates

Any number of writers update a register next to each other. A writer loads the version, publishes
the next one through a gate and then stores it; none of this is one step. The gate lets a version
through only if it is past all those that it has let through before. The versions that get through
then come one after the other, each from a writer that was up to date, and the register never goes
back.
-/

namespace Optimistic

section Lists

variable {α : Type} {items : List α} {i j : Nat} {old new found : α}

theorem getElem?_concat_iff : (items ++ [new])[i]? = some found ↔
    items[i]? = some found ∨ (i = items.length ∧ found = new) := by
  rw [List.getElem?_append]
  split
  · rename_i hlt
    exact ⟨.inl, fun h => h.resolve_right fun hend => by omega⟩
  · rename_i hge
    have hnone : items[i]? = none := List.getElem?_eq_none (by omega)
    rw [hnone, List.getElem?_singleton]
    constructor
    · intro h
      split at h
      · exact .inr ⟨by omega, (Option.some.inj h).symm⟩
      · cases h
    · rintro (hnever | ⟨rfl, rfl⟩)
      · cases hnever
      · rw [if_pos (Nat.sub_self _)]

theorem getElem?_set_iff (hat : items[i]? = some old) : (items.set i new)[j]? = some found ↔
    (j = i ∧ found = new) ∨ (j ≠ i ∧ items[j]? = some found) := by
  by_cases hj : j = i
  · subst hj
    rw [List.getElem?_set_self (List.getElem?_eq_some_iff.mp hat).1]
    constructor
    · intro h
      exact .inl ⟨rfl, (Option.some.inj h).symm⟩
    · rintro (⟨-, rfl⟩ | ⟨hne, -⟩)
      · rfl
      · exact absurd rfl hne
  · rw [List.getElem?_set_ne (Ne.symm hj)]
    exact ⟨fun h => .inr ⟨hj, h⟩, fun h => (h.resolve_left fun hi => hj hi.1).2⟩

end Lists

/-- How a writer counts on from a version. It may wrap around, but not at the first one. -/
structure Numbering where
  first : Nat
  next : Nat → Nat
  next_le : ∀ version, next version ≤ version + 1
  next_first : next first = first + 1

/-- How far an attempt has come, with the version that it is to store. -/
inductive Phase where
  | loaded (next : Nat)
  | published (next : Nat)
  | stored (next : Nat)
  | failed
  deriving DecidableEq

/-- What a writer attempts, from the version that it takes for the current one. -/
structure Attempt where
  base : Nat
  phase : Phase
  deriving DecidableEq

/-- A version that has got through the gate, and the attempt it is from. -/
structure Passed where
  attempt : Nat
  base : Nat
  version : Nat
  deriving DecidableEq

/-- A stored version, with the attempts to raise it and those that have got through. -/
structure Register where
  version : Nat
  attempts : List Attempt := []
  passed : List Passed := []

/-- The gate: the version is past all those let through before. -/
def Register.Admits (register : Register) (version : Nat) : Prop :=
  ∀ passed ∈ register.passed, passed.version < version

/-- What an attempt may do next. -/
inductive Step (numbering : Numbering) (register : Register) : Register → Prop
  | load : Step numbering register { register with
      attempts := register.attempts ++
        [⟨register.version, .loaded (numbering.next register.version)⟩] }
  | miss {base : Nat} : Step numbering register { register with
      attempts := register.attempts ++ [⟨base, .failed⟩] }
  | publish {i base next : Nat} (hat : register.attempts[i]? = some ⟨base, .loaded next⟩)
      (hgate : register.Admits next) : Step numbering register { register with
        attempts := register.attempts.set i ⟨base, .published next⟩
        passed := register.passed ++ [⟨i, base, next⟩] }
  | refuse {i base next : Nat} (hat : register.attempts[i]? = some ⟨base, .loaded next⟩) :
      Step numbering register { register with
        attempts := register.attempts.set i ⟨base, .failed⟩ }
  | store {i base next : Nat} (hat : register.attempts[i]? = some ⟨base, .published next⟩) :
      Step numbering register { register with
        version := next
        attempts := register.attempts.set i ⟨base, .stored next⟩ }
  | idle : Step numbering register register

variable {numbering : Numbering} {register register' : Register}

/-- Where an attempt is whose version has got through. -/
def Register.placed (register : Register) (version : Nat) : Phase :=
  if version ≤ register.version then .stored version else .published version

/-- The versions that have got through follow each other without a gap, each on the one it is based
on; at most the last of them is still to be stored. -/
structure Valid (numbering : Numbering) (register : Register) : Prop where
  loaded : ∀ (i base next : Nat), register.attempts[i]? = some ⟨base, .loaded next⟩ →
    numbering.first ≤ base ∧ base ≤ register.version ∧ next = numbering.next base
  versions : ∀ (m : Nat) (passed : Passed), register.passed[m]? = some passed →
    passed.version = numbering.first + m + 1
  based : ∀ passed ∈ register.passed, passed.version = passed.base + 1
  lower : numbering.first + register.passed.length ≤ register.version + 1
  upper : register.version ≤ numbering.first + register.passed.length
  first : numbering.first ≤ register.version
  placed : ∀ passed ∈ register.passed, register.attempts[passed.attempt]? =
    some ⟨passed.base, register.placed passed.version⟩
  traced : ∀ (i base next : Nat) (phase : Phase), register.attempts[i]? = some ⟨base, phase⟩ →
    phase = .published next ∨ phase = .stored next →
      ∃ passed ∈ register.passed, passed.attempt = i

namespace Valid

theorem start (numbering : Numbering) : Valid numbering { version := numbering.first } := by
  constructor <;> simp

/-- The versions increase from one to the next. -/
theorem increasing (h : Valid numbering register) :
    register.passed.Pairwise fun first second => first.version < second.version := by
  rw [List.pairwise_iff_getElem]
  intro m m' hm hm' hlt
  rw [h.versions m _ (List.getElem?_eq_getElem hm), h.versions m' _ (List.getElem?_eq_getElem hm')]
  omega

theorem eq_of_version (h : Valid numbering register) {first second : Passed}
    (hfirst : first ∈ register.passed) (hsecond : second ∈ register.passed)
    (hversion : first.version = second.version) : first = second := by
  obtain ⟨m, hm⟩ := List.mem_iff_getElem?.mp hfirst
  obtain ⟨m', hm'⟩ := List.mem_iff_getElem?.mp hsecond
  obtain rfl : m = m' := by
    have hposition := h.versions m _ hm
    have hposition' := h.versions m' _ hm'
    omega
  exact Option.some.inj (hm.symm.trans hm')

theorem version_le (h : Valid numbering register) {passed : Passed}
    (hin : passed ∈ register.passed) : passed.version ≤ register.version + 1 := by
  obtain ⟨m, hm⟩ := List.mem_iff_getElem?.mp hin
  have hlength := (List.getElem?_eq_some_iff.mp hm).1
  have hposition := h.versions m _ hm
  have hlower := h.lower
  omega

/-- The last version that the gate has seen is the one before the next that it admits. -/
theorem length_lt (h : Valid numbering register) {next : Nat} (hgate : register.Admits next)
    (hfirst : numbering.first < next) : numbering.first + register.passed.length < next := by
  cases hlast : register.passed.getLast? with
  | none =>
    rw [List.getLast?_eq_none_iff.mp hlast]
    exact hfirst
  | some last =>
    have hlt := hgate last (List.mem_of_getLast? hlast)
    rw [List.getLast?_eq_getElem?] at hlast
    have hposition := h.versions _ _ hlast
    have hlength := (List.getElem?_eq_some_iff.mp hlast).1
    omega

/-- Only a writer that is up to date gets through. -/
theorem admitted (h : Valid numbering register) {i base next : Nat}
    (hat : register.attempts[i]? = some ⟨base, .loaded next⟩) (hgate : register.Admits next) :
    next = base + 1 ∧ base = register.version ∧
      register.version = numbering.first + register.passed.length := by
  obtain ⟨hbase, hle, rfl⟩ := h.loaded i base next hat
  have hnext := numbering.next_le base
  have hupper := h.upper
  have hlower := h.lower
  have hfirst : numbering.first < numbering.next base := by
    cases hpassed : register.passed with
    | nil =>
      rw [hpassed, List.length_nil] at hupper
      obtain rfl : base = numbering.first := by omega
      rw [numbering.next_first]
      omega
    | cons oldest rest =>
      have hin : oldest ∈ register.passed := hpassed ▸ List.mem_cons_self
      have hposition := h.versions 0 oldest (by rw [hpassed]; rfl)
      have hlt := hgate oldest hin
      omega
  have hlength := h.length_lt hgate hfirst
  omega

/-- An attempt that is not past the gate is none of those that are. -/
theorem apart (h : Valid numbering register) {i base next : Nat}
    (hat : register.attempts[i]? = some ⟨base, .loaded next⟩) {passed : Passed}
    (hin : passed ∈ register.passed) : passed.attempt ≠ i := by
  rintro rfl
  have hplaced := (h.placed passed hin).symm.trans hat
  simp only [Register.placed, Option.some.injEq, Attempt.mk.injEq] at hplaced
  obtain ⟨-, hphase⟩ := hplaced
  split at hphase <;> cases hphase

/-! ## What each step keeps -/

/-- A writer that begins, up to date or not. -/
theorem begin (h : Valid numbering register) {attempt : Attempt}
    (hattempt : attempt = ⟨register.version, .loaded (numbering.next register.version)⟩ ∨
      attempt.phase = .failed) :
    Valid numbering { register with attempts := register.attempts ++ [attempt] } where
  loaded i base next hat := by
    rcases getElem?_concat_iff.mp hat with hold | ⟨-, rfl⟩
    · exact h.loaded i base next hold
    · rcases hattempt with hloaded | hfailed
      · cases hloaded
        exact ⟨h.first, Nat.le_refl _, rfl⟩
      · cases hfailed
  versions := h.versions
  based := h.based
  lower := h.lower
  upper := h.upper
  first := h.first
  placed passed hin := getElem?_concat_iff.mpr (.inl (h.placed passed hin))
  traced i base next phase hat hphase := by
    rcases getElem?_concat_iff.mp hat with hold | ⟨-, rfl⟩
    · exact h.traced i base next phase hold hphase
    · rcases hattempt with hloaded | hfailed
      · cases hloaded
        rcases hphase with hphase | hphase <;> cases hphase
      · subst hfailed
        rcases hphase with hphase | hphase <;> cases hphase

theorem refuse (h : Valid numbering register) {i base next : Nat}
    (hat : register.attempts[i]? = some ⟨base, .loaded next⟩) :
    Valid numbering { register with attempts := register.attempts.set i ⟨base, .failed⟩ } where
  loaded j base' next' hj := by
    rcases (getElem?_set_iff hat).mp hj with ⟨-, hfailed⟩ | ⟨-, hold⟩
    · cases hfailed
    · exact h.loaded j base' next' hold
  versions := h.versions
  based := h.based
  lower := h.lower
  upper := h.upper
  first := h.first
  placed passed hin := (getElem?_set_iff hat).mpr (.inr ⟨h.apart hat hin, h.placed passed hin⟩)
  traced j base' next' phase hj hphase := by
    rcases (getElem?_set_iff hat).mp hj with ⟨-, hfailed⟩ | ⟨-, hold⟩
    · cases hfailed
      rcases hphase with hphase | hphase <;> cases hphase
    · exact h.traced j base' next' phase hold hphase

theorem publish (h : Valid numbering register) {i base next : Nat}
    (hat : register.attempts[i]? = some ⟨base, .loaded next⟩) (hgate : register.Admits next) :
    Valid numbering { register with
      attempts := register.attempts.set i ⟨base, .published next⟩
      passed := register.passed ++ [⟨i, base, next⟩] } := by
  obtain ⟨hnext, rfl, hversion⟩ := h.admitted hat hgate
  refine ⟨?_, ?_, ?_, ?_, ?_, h.first, ?_, ?_⟩
  · intro j base' next' hj
    rcases (getElem?_set_iff hat).mp hj with ⟨-, hpublished⟩ | ⟨-, hold⟩
    · cases hpublished
    · exact h.loaded j base' next' hold
  · intro m passed hm
    rcases getElem?_concat_iff.mp hm with hold | ⟨rfl, rfl⟩
    · exact h.versions m passed hold
    · show next = _
      omega
  · intro passed hin
    rcases List.mem_append.mp hin with hold | hnew
    · exact h.based passed hold
    · obtain rfl := List.mem_singleton.mp hnew
      exact hnext
  · rw [List.length_append, List.length_singleton]
    show _ ≤ register.version + 1
    omega
  · rw [List.length_append, List.length_singleton]
    show register.version ≤ _
    omega
  · intro passed hin
    apply (getElem?_set_iff hat).mpr
    rcases List.mem_append.mp hin with hold | hnew
    · exact .inr ⟨h.apart hat hold, h.placed passed hold⟩
    · obtain rfl := List.mem_singleton.mp hnew
      refine .inl ⟨rfl, ?_⟩
      have hlater : ¬ next ≤ register.version := by omega
      simp only [Register.placed, if_neg hlater]
  · intro j base' next' phase hj hphase
    rcases (getElem?_set_iff hat).mp hj with ⟨rfl, -⟩ | ⟨-, hold⟩
    · exact ⟨_, List.mem_append_right _ List.mem_cons_self, rfl⟩
    · obtain ⟨passed, hin, hattempt⟩ := h.traced j base' next' phase hold hphase
      exact ⟨passed, List.mem_append_left _ hin, hattempt⟩

/-- An attempt past the gate is one of those that are. -/
theorem entry (h : Valid numbering register) {i base next : Nat} {phase : Phase}
    (hat : register.attempts[i]? = some ⟨base, phase⟩)
    (hphase : phase = .published next ∨ phase = .stored next) :
    ⟨i, base, next⟩ ∈ register.passed := by
  obtain ⟨passed, hin, rfl⟩ := h.traced i base next phase hat hphase
  have hplaced := (h.placed passed hin).symm.trans hat
  simp only [Register.placed, Option.some.injEq, Attempt.mk.injEq] at hplaced
  obtain ⟨rfl, rfl⟩ := hplaced
  have hversion : passed.version = next := by
    split at hphase
    · rcases hphase with hphase | hphase <;> cases hphase
      rfl
    · rcases hphase with hphase | hphase <;> cases hphase
      rfl
  rw [← hversion]
  exact hin

/-- What is still to be stored is the version that comes next. -/
theorem pending (h : Valid numbering register) {i base next : Nat}
    (hat : register.attempts[i]? = some ⟨base, .published next⟩) : next = register.version + 1 := by
  have hin := h.entry hat (.inl rfl)
  have hle := h.version_le hin
  have hplaced := (h.placed _ hin).symm.trans hat
  simp only [Register.placed, Option.some.injEq, Attempt.mk.injEq, true_and] at hplaced
  split at hplaced
  · cases hplaced
  · dsimp only at hle
    omega

theorem store (h : Valid numbering register) {i base next : Nat}
    (hat : register.attempts[i]? = some ⟨base, .published next⟩) :
    Valid numbering { register with
      version := next
      attempts := register.attempts.set i ⟨base, .stored next⟩ } := by
  have hnext := h.pending hat
  have hpassed := h.entry hat (.inl rfl)
  have hfirst := h.first
  refine ⟨?_, h.versions, h.based, ?_, ?_, ?_, ?_, ?_⟩
  · intro j base' next' hj
    rcases (getElem?_set_iff hat).mp hj with ⟨-, hstored⟩ | ⟨-, hold⟩
    · cases hstored
    · obtain ⟨hbase, hle, heq⟩ := h.loaded j base' next' hold
      refine ⟨hbase, ?_, heq⟩
      show base' ≤ next
      omega
  · have hlower := h.lower
    show numbering.first + register.passed.length ≤ next + 1
    omega
  · obtain ⟨m, hm⟩ := List.mem_iff_getElem?.mp hpassed
    have hlength := (List.getElem?_eq_some_iff.mp hm).1
    have hposition := h.versions m _ hm
    show next ≤ numbering.first + register.passed.length
    dsimp only at hposition
    omega
  · show numbering.first ≤ next
    omega
  · intro passed hin
    apply (getElem?_set_iff hat).mpr
    have hle := h.version_le hin
    have hplaced := h.placed passed hin
    by_cases hsame : passed.version = next
    · -- Only one version is the next, and so it is the attempt's own.
      obtain rfl := h.eq_of_version hin hpassed hsame
      exact .inl ⟨rfl, by simp [Register.placed]⟩
    · have hstored : passed.version ≤ register.version := by omega
      rw [Register.placed, if_pos hstored] at hplaced
      refine .inr ⟨?_, ?_⟩
      · rintro rfl
        cases hplaced.symm.trans hat
      · have hlater : passed.version ≤ next := by omega
        rw [hplaced]
        simp only [Register.placed, if_pos hlater]
  · intro j base' next' phase hj hphase
    rcases (getElem?_set_iff hat).mp hj with ⟨rfl, -⟩ | ⟨-, hold⟩
    · exact ⟨_, hpassed, rfl⟩
    · exact h.traced j base' next' phase hold hphase

theorem step (h : Valid numbering register) (hstep : Step numbering register register') :
    Valid numbering register' := by
  cases hstep with
  | load => exact h.begin (.inl rfl)
  | miss => exact h.begin (.inr rfl)
  | publish hat hgate => exact h.publish hat hgate
  | refuse hat => exact h.refuse hat
  | store hat => exact h.store hat
  | idle => exact h

/-- The version never goes back. -/
theorem step_le (h : Valid numbering register) (hstep : Step numbering register register') :
    register.version ≤ register'.version := by
  cases hstep with
  | @store i base next hat =>
    have hnext := h.pending hat
    show register.version ≤ next
    omega
  | _ => exact Nat.le_refl _

/-- Of all the attempts from one version at most one has got through. -/
theorem attempt_unique (h : Valid numbering register) {i j base next next' : Nat}
    {phase phase' : Phase} (hi : register.attempts[i]? = some ⟨base, phase⟩)
    (hj : register.attempts[j]? = some ⟨base, phase'⟩)
    (hphase : phase = .published next ∨ phase = .stored next)
    (hphase' : phase' = .published next' ∨ phase' = .stored next') : i = j := by
  have hfirst := h.entry hi hphase
  have hsecond := h.entry hj hphase'
  have hversion : next = next' := (h.based _ hfirst).trans (h.based _ hsecond).symm
  exact congrArg Passed.attempt (h.eq_of_version hfirst hsecond hversion)

end Valid

end Optimistic
