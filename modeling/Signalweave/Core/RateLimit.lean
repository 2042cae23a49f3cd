import Signalweave.Core.Outbound
import Signalweave.Library.Transition

/-!
# The rate limit of publications

A window begins with the first publication after the one before it has passed, and admits so many.
A stretch of time that is no longer than a window meets at most two windows that let anything
through.
-/

namespace Signalweave

open Stateful WovenCore

/-- The limiter of a connection, and what it has admitted: when the window began, and when. -/
structure AdmitLog where
  limiter : ConnectionRateLimiter := {}
  admitted : List (Instant × Instant) := []

namespace AdmitLog

/-- A publication is admitted, which leaves the limiter like this. -/
def record (log : AdmitLog) (limiter : ConnectionRateLimiter) (now : Instant) : AdmitLog :=
  { limiter, admitted := log.admitted ++ [(limiter.windowStarted.getD now, now)] }

/-- A publication asks to be admitted. -/
def step (policy : PublishRateLimit) (log : AdmitLog) (now : Instant) : AdmitLog :=
  match log.limiter.admitAt policy now with
  | .ok limiter => log.record limiter now
  | .error _ => log

/-- How many publications of a window have been admitted. -/
def admittedIn (log : AdmitLog) (start : Instant) : Nat :=
  log.admitted.countP fun entry => entry.1 == start

/-- How many have been admitted from one time up to another. -/
def admittedBetween (log : AdmitLog) (first last : Instant) : Nat :=
  log.admitted.countP fun entry => decide (first ≤ entry.2) && decide (entry.2 < last)

/-- The windows do not overlap, each admits as many as it may, and the limiter counts those of the
last one. -/
structure Windowed (policy : PublishRateLimit) (log : AdmitLog) : Prop where
  within : ∀ entry ∈ log.admitted, entry.1 ≤ entry.2 ∧ entry.2 < entry.1 + policy.window
  apart : ∀ entry ∈ log.admitted, ∀ entry' ∈ log.admitted, entry.1 = entry'.1 ∨
    entry.1 + policy.window ≤ entry'.1 ∨ entry'.1 + policy.window ≤ entry.1
  counted : ∀ start, log.admittedIn start ≤ policy.maxPublishes
  empty : log.limiter.windowStarted = none → log.admitted = []
  current : ∀ start, log.limiter.windowStarted = some start →
    log.limiter.publishes = log.admittedIn start ∧ ∀ entry ∈ log.admitted,
      entry.1 = start ∨ entry.1 + policy.window ≤ start

variable {policy : PublishRateLimit} {log : AdmitLog} {now : Instant}

/-- The three ways in which a publication is admitted, and the two in which it is not. -/
theorem admitAt_cases (limiter : ConnectionRateLimiter) (policy : PublishRateLimit)
    (now : Instant) :
    (limiter.windowStarted = none ∧
      limiter.admitAt policy now = .ok { windowStarted := some now, publishes := 1 }) ∨
    ∃ start, limiter.windowStarted = some start ∧
      (now < start ∧ limiter.admitAt policy now = .error .rateLimitClockRegressed ∨
        start + policy.window ≤ now ∧
          limiter.admitAt policy now = .ok { windowStarted := some now, publishes := 1 } ∨
        start ≤ now ∧ now < start + policy.window ∧ limiter.publishes = policy.maxPublishes ∧
          limiter.admitAt policy now =
            .error (.publishRateLimited (policy.window - (now - start))) ∨
        start ≤ now ∧ now < start + policy.window ∧ limiter.publishes ≠ policy.maxPublishes ∧
          limiter.admitAt policy now =
            .ok { limiter with publishes := limiter.publishes + 1 }) := by
  unfold ConnectionRateLimiter.admitAt
  cases hstart : limiter.windowStarted with
  | none => exact Or.inl ⟨rfl, rfl⟩
  | some start =>
    refine Or.inr ⟨start, rfl, ?_⟩
    by_cases hregressed : start ≤ now
    · have helapsed : Instant.checkedDurationSince now start = some (now - start) :=
        if_pos hregressed
      by_cases hpassed : policy.window ≤ now - start
      · refine Or.inr (Or.inl ⟨(Nat.le_sub_iff_add_le' hregressed).mp hpassed, ?_⟩)
        simp [helapsed, hpassed]
      · have hinside : now < start + policy.window := by
          rw [← Nat.sub_lt_iff_lt_add' hregressed]
          exact Nat.lt_of_not_le hpassed
        have hless : now - start < policy.window := Nat.lt_of_not_le hpassed
        by_cases hfull : limiter.publishes = policy.maxPublishes
        · refine Or.inr (Or.inr (Or.inl ⟨hregressed, hinside, hfull, ?_⟩))
          simp [helapsed, hpassed, hfull]
          rfl
        · refine Or.inr (Or.inr (Or.inr ⟨hregressed, hinside, hfull, ?_⟩))
          simp [helapsed, hpassed, hfull, hless]
    · refine Or.inl ⟨Nat.lt_of_not_le hregressed, ?_⟩
      simp [Instant.checkedDurationSince, hregressed]

/-- A window that begins admits one. -/
theorem Windowed.opens (h : log.Windowed policy) (hmax : 0 < policy.maxPublishes)
    (hwindow : 0 < policy.window)
    (hafter : ∀ entry ∈ log.admitted, entry.1 + policy.window ≤ now) :
    (log.record { windowStarted := some now, publishes := 1 } now).Windowed policy := by
  have hnone : log.admittedIn now = 0 := by
    unfold admittedIn
    rw [List.countP_eq_zero]
    intro entry hentry heq
    have hle := hafter entry hentry
    rw [eq_of_beq heq] at hle
    exact absurd hle (Nat.not_le_of_lt (Nat.lt_add_of_pos_right hwindow))
  have hcount : ∀ start, List.countP (fun entry => entry.1 == start)
    (log.admitted ++ [(now, now)]) =
      log.admittedIn start + if start = now then 1 else 0 := by
    intro start
    rw [List.countP_append]
    by_cases hstart : start = now
    · subst hstart
      simp [admittedIn]
    · simp [admittedIn, hstart, Ne.symm hstart]
  refine ⟨?_, ?_, ?_, nofun, ?_⟩
  · intro entry hentry
    rcases List.mem_append.mp hentry with hold | hnew
    · exact h.within entry hold
    · obtain rfl := List.mem_singleton.mp hnew
      exact ⟨Nat.le_refl _, Nat.lt_add_of_pos_right hwindow⟩
  · intro entry hentry entry' hentry'
    rcases List.mem_append.mp hentry with hold | hnew
    · rcases List.mem_append.mp hentry' with hold' | hnew'
      · exact h.apart entry hold entry' hold'
      · obtain rfl := List.mem_singleton.mp hnew'
        exact Or.inr (Or.inl (hafter entry hold))
    · obtain rfl := List.mem_singleton.mp hnew
      rcases List.mem_append.mp hentry' with hold' | hnew'
      · exact Or.inr (Or.inr (hafter entry' hold'))
      · obtain rfl := List.mem_singleton.mp hnew'
        exact Or.inl rfl
  · intro start
    show List.countP _ (log.admitted ++ [(now, now)]) ≤ _
    rw [hcount]
    split
    · rename_i hstart
      rw [hstart, hnone]
      exact hmax
    · exact h.counted start
  · rintro start ⟨⟩
    refine ⟨?_, ?_⟩
    · show 1 = List.countP _ (log.admitted ++ [(now, now)])
      rw [hcount, hnone, if_pos rfl]
    · intro entry hentry
      rcases List.mem_append.mp hentry with hold | hnew
      · exact Or.inr (hafter entry hold)
      · obtain rfl := List.mem_singleton.mp hnew
        exact Or.inl rfl

/-- A window that goes on admits another one. -/
theorem Windowed.goesOn (h : log.Windowed policy) {start : Instant}
    (hstart : log.limiter.windowStarted = some start) (hle : start ≤ now)
    (hinside : now < start + policy.window) (hroom : log.limiter.publishes ≠ policy.maxPublishes) :
    (log.record { log.limiter with publishes := log.limiter.publishes + 1 } now).Windowed
      policy := by
  have hadmitted :
      (log.record { log.limiter with publishes := log.limiter.publishes + 1 } now).admitted =
      log.admitted ++ [(start, now)] := by
    unfold record
    dsimp only
    rw [hstart]
    rfl
  obtain ⟨hpublishes, hbefore⟩ := h.current start hstart
  have hcount : ∀ s, List.countP (fun entry => entry.1 == s) (log.admitted ++ [(start, now)]) =
      log.admittedIn s + if s = start then 1 else 0 := by
    intro s
    rw [List.countP_append]
    by_cases hs : s = start
    · subst hs
      simp [admittedIn]
    · simp [admittedIn, hs, Ne.symm hs]
  refine ⟨?_, ?_, ?_, ?_, ?_⟩
  · rw [hadmitted]
    intro entry hentry
    rcases List.mem_append.mp hentry with hold | hnew
    · exact h.within entry hold
    · obtain rfl := List.mem_singleton.mp hnew
      exact ⟨hle, hinside⟩
  · rw [hadmitted]
    intro entry hentry entry' hentry'
    rcases List.mem_append.mp hentry with hold | hnew
    · rcases List.mem_append.mp hentry' with hold' | hnew'
      · exact h.apart entry hold entry' hold'
      · obtain rfl := List.mem_singleton.mp hnew'
        exact (hbefore entry hold).imp id Or.inl
    · obtain rfl := List.mem_singleton.mp hnew
      rcases List.mem_append.mp hentry' with hold' | hnew'
      · exact (hbefore entry' hold').imp Eq.symm Or.inr
      · obtain rfl := List.mem_singleton.mp hnew'
        exact Or.inl rfl
  · intro s
    unfold admittedIn
    rw [hadmitted, hcount]
    split
    · rename_i hs
      have hle := h.counted start
      rw [hs]
      rw [← hpublishes] at hle ⊢
      exact Nat.lt_of_le_of_ne hle hroom
    · exact h.counted s
  · intro hnone
    rw [show log.limiter.windowStarted = none from hnone] at hstart
    cases hstart
  · intro s hs
    obtain rfl : start = s := Option.some.inj (hstart.symm.trans hs)
    refine ⟨?_, ?_⟩
    · unfold admittedIn
      rw [hadmitted, hcount, if_pos rfl, ← hpublishes]
      rfl
    · rw [hadmitted]
      intro entry hentry
      rcases List.mem_append.mp hentry with hold | hnew
      · exact hbefore entry hold
      · obtain rfl := List.mem_singleton.mp hnew
        exact Or.inl rfl

theorem Windowed.step (h : log.Windowed policy) (hmax : 0 < policy.maxPublishes)
    (hwindow : 0 < policy.window) (now : Instant) : (log.step policy now).Windowed policy := by
  unfold AdmitLog.step
  rcases admitAt_cases log.limiter policy now with ⟨hstart, hanswer⟩ | ⟨start, hstart,
    ⟨-, hanswer⟩ | ⟨hpassed, hanswer⟩ | ⟨-, -, -, hanswer⟩ | ⟨hle, hinside, hroom, hanswer⟩⟩
  · rw [hanswer]
    refine h.opens hmax hwindow ?_
    rw [h.empty hstart]
    exact fun entry hentry => absurd hentry List.not_mem_nil
  · rw [hanswer]
    exact h
  · rw [hanswer]
    refine h.opens hmax hwindow ?_
    intro entry hentry
    rcases (h.current start hstart).2 entry hentry with heq | hle
    · rw [heq]
      exact hpassed
    · exact Nat.le_trans hle (Nat.le_trans (Nat.le_add_right _ _) hpassed)
  · rw [hanswer]
    exact h
  · rw [hanswer]
    exact h.goesOn hstart hle hinside hroom

/-! ## Stretches of time -/

/-- Three windows are too long to meet one stretch. -/
theorem not_three_windows {window first last : ℕ} (hshort : last ≤ first + window)
    {start₁ time₁ start₂ time₂ start₃ time₃ : ℕ}
    (h₁ : start₁ ≤ time₁ ∧ time₁ < start₁ + window) (h₂ : start₂ ≤ time₂ ∧ time₂ < start₂ + window)
    (h₃ : start₃ ≤ time₃ ∧ time₃ < start₃ + window)
    (hin₁ : first ≤ time₁ ∧ time₁ < last) (hin₂ : first ≤ time₂ ∧ time₂ < last)
    (hin₃ : first ≤ time₃ ∧ time₃ < last)
    (h₁₂ : start₁ + window ≤ start₂ ∨ start₂ + window ≤ start₁)
    (h₁₃ : start₁ + window ≤ start₃ ∨ start₃ + window ≤ start₁)
    (h₂₃ : start₂ + window ≤ start₃ ∨ start₃ + window ≤ start₂) : False := by
  omega

theorem countP_le_add {α : Type} {p q r : α → Bool} {list : List α}
    (h : ∀ a ∈ list, p a = true → q a = true ∨ r a = true) :
    list.countP p ≤ list.countP q + list.countP r := by
  induction list with
  | nil => exact Nat.zero_le _
  | cons a rest ih =>
    have hrest := ih fun b hb => h b (List.mem_cons_of_mem _ hb)
    have ha := h a List.mem_cons_self
    rw [List.countP_cons, List.countP_cons, List.countP_cons]
    cases hp : p a with
    | false =>
      simp only [Bool.false_eq_true, if_false]
      omega
    | true =>
      rcases ha hp with hq | hr
      · rw [if_pos hq, if_pos rfl]
        omega
      · rw [if_pos hr, if_pos rfl]
        omega

/-- What a stretch no longer than a window admits is of two windows at most. -/
theorem Windowed.admittedBetween_le (h : log.Windowed policy) {first last : Instant}
    (hshort : last ≤ first + policy.window) :
    log.admittedBetween first last ≤ 2 * policy.maxPublishes := by
  have hbetween : ∀ entry : Instant × Instant,
      (decide (first ≤ entry.2) && decide (entry.2 < last)) = true ↔
        first ≤ entry.2 ∧ entry.2 < last := by
    intro entry
    rw [Bool.and_eq_true, decide_eq_true_eq, decide_eq_true_eq]
  have htwo : ∀ start₁ start₂, (∀ entry ∈ log.admitted, first ≤ entry.2 ∧ entry.2 < last →
      entry.1 = start₁ ∨ entry.1 = start₂) →
      log.admittedBetween first last ≤ 2 * policy.maxPublishes := by
    intro start₁ start₂ hall
    have hle : log.admittedBetween first last ≤ log.admittedIn start₁ + log.admittedIn start₂ := by
      apply countP_le_add
      intro entry hentry hin
      exact (hall entry hentry ((hbetween entry).mp hin)).imp beq_iff_eq.mpr beq_iff_eq.mpr
    have hcounted₁ := h.counted start₁
    have hcounted₂ := h.counted start₂
    omega
  by_cases hany : ∃ entry ∈ log.admitted, first ≤ entry.2 ∧ entry.2 < last
  · obtain ⟨entry₁, hentry₁, hin₁⟩ := hany
    by_cases hother : ∃ entry ∈ log.admitted, (first ≤ entry.2 ∧ entry.2 < last) ∧
        entry.1 ≠ entry₁.1
    · obtain ⟨entry₂, hentry₂, hin₂, hne⟩ := hother
      apply htwo entry₁.1 entry₂.1
      intro entry hentry hin
      by_contra hnot
      obtain ⟨hne₁, hne₂⟩ := not_or.mp hnot
      exact not_three_windows hshort (h.within _ hentry₁) (h.within _ hentry₂)
        (h.within _ hentry) hin₁ hin₂ hin ((h.apart _ hentry₁ _ hentry₂).resolve_left hne.symm)
        ((h.apart _ hentry₁ _ hentry).resolve_left (Ne.symm hne₁))
        ((h.apart _ hentry₂ _ hentry).resolve_left (Ne.symm hne₂))
    · apply htwo entry₁.1 entry₁.1
      intro entry hentry hin
      by_contra hnot
      exact hother ⟨entry, hentry, hin, fun heq => hnot (Or.inl heq)⟩
  · apply htwo 0 0
    exact fun entry hentry hin => absurd ⟨entry, hentry, hin⟩ hany

/-! ## Calls that are not admitted -/

theorem length_le_run (between : List Instant) :
    log.admitted.length ≤ (Transition.run (step policy) log between).admitted.length := by
  induction between generalizing log with
  | nil => exact Nat.le_refl _
  | cons now rest ih =>
    refine Nat.le_trans ?_ ih
    unfold step
    split
    · rw [record, List.length_append]
      exact Nat.le_add_right _ _
    · exact Nat.le_refl _

/-- The time to wait is up when the window has passed. -/
theorem window_passed {now start window : ℕ} (hle : start ≤ now) (hinside : now < start + window) :
    start + window ≤ now + (window - (now - start)) := by
  omega

/-- Calls of which none is admitted leave no trace. -/
theorem run_eq_of_admitted_eq {between : List Instant}
    (h : (Transition.run (step policy) log between).admitted = log.admitted) :
    Transition.run (step policy) log between = log := by
  induction between generalizing log with
  | nil => rfl
  | cons now rest ih =>
    have hsame : log.step policy now = log := by
      have hlength := @length_le_run policy (log.step policy now) rest
      rw [Transition.run_cons] at h
      rw [h] at hlength
      unfold step at hlength ⊢
      split at hlength
      · rw [record, List.length_append, List.length_singleton] at hlength
        omega
      · rfl
    rw [Transition.run_cons, hsame] at h ⊢
    exact ih h

end AdmitLog

/-! ## The gate -/

/-- A publication that is not admitted is refused with the answer of the limiter, and changes
nothing. -/
theorem publishAt_refused_of_admitAt {core : WovenCore} {request : PublishRequest} {now : Instant}
    {call : Nat} {clock : ReleaseClock} {error : CoreError} (hid : request.connection.get ≠ 0)
    (hlive : request.connection ∈ core.connections)
    (hrejected : (core.connectionAt request.connection).rateLimiter.admitAt
      core.config.publishRateLimit now = .error error) :
    Fails (publishAt request now call clock) core error core := by
  have hvalid : validateConnectionId request.connection = .ok () :=
    validateConnectionId_eq_ok.mpr hid
  have hends : Ends (publishAt request now call clock) core (fun _ _ => False)
      fun e core' => e = error ∧ core' = core := by
    simp [publishAt, admitPublish, hvalid, connections_getElem? hlive, hrejected]
    exact fun hdead => absurd hlive hdead
  rcases returns_or_fails (publishAt request now call clock) core with
    ⟨outcome, hreturns⟩ | ⟨e, hfails⟩
  · exact (hends.returns hreturns).elim
  · obtain ⟨rfl, hsame⟩ := hends.fails hfails
    rwa [hsame] at hfails

/-! ## Whole runs -/

/-- How the publications of a connection are limited. A call is early where its clock has gone back
behind the beginning of the window. -/
structure RateLimited (policy : PublishRateLimit) (log : AdmitLog) : Prop where
  anyStretch : ∀ first last, last ≤ first + policy.window →
    log.admittedBetween first last ≤ 2 * policy.maxPublishes
  eachWindow : ∀ start, log.admittedIn start ≤ policy.maxPublishes
  retry : ∀ now retryAfter between,
    log.limiter.admitAt policy now = .error (.publishRateLimited retryAfter) →
      (Transition.run (AdmitLog.step policy) log between).admitted = log.admitted →
        ∃ limiter, (Transition.run (AdmitLog.step policy) log between).limiter.admitAt policy
          (now + retryAfter) = .ok limiter
  early : ∀ now start, log.limiter.windowStarted = some start → now < start →
    log.limiter.admitAt policy now = .error .rateLimitClockRegressed ∧ log.step policy now = log

/-- Whatever the times of the calls, the limiter keeps to its policy; and where the limiter of a
connection does not admit a publication, the core refuses it with this answer and stays as it is. -/
theorem run_rateLimited {policy : PublishRateLimit} (hvalid : policy.validate = .ok policy)
    (times : List Instant) :
    RateLimited policy (Transition.run (AdmitLog.step policy) {} times) ∧
      ∀ (core : WovenCore) (request : PublishRequest) (now : Instant) (call : Nat)
        (clock : ReleaseClock) (error : CoreError), request.connection.get ≠ 0 →
          request.connection ∈ core.connections →
          (core.connectionAt request.connection).rateLimiter.admitAt
            core.config.publishRateLimit now = .error error →
          Fails (publishAt request now call clock) core error core := by
  refine ⟨?_, fun _ _ _ _ _ _ => publishAt_refused_of_admitAt⟩
  have hpositive : 0 < policy.maxPublishes ∧ 0 < policy.window := by
    unfold PublishRateLimit.validate at hvalid
    split at hvalid
    · cases hvalid
    · rename_i hnot
      obtain ⟨hmax, hwindow⟩ := not_or.mp hnot
      exact ⟨Nat.pos_of_ne_zero hmax, Nat.pos_of_ne_zero hwindow⟩
  have hwindowed : (Transition.run (AdmitLog.step policy) {} times).Windowed policy := by
    refine Transition.run_invariant (fun log now h => h.step hpositive.1 hpositive.2 now) ?_ times
    exact ⟨nofun, nofun, fun _ => Nat.zero_le _, fun _ => rfl, nofun⟩
  generalize Transition.run (AdmitLog.step policy) {} times = log at hwindowed
  refine ⟨fun _ _ => hwindowed.admittedBetween_le, hwindowed.counted, ?_, ?_⟩
  · intro now retryAfter between hrejected hnone
    rw [AdmitLog.run_eq_of_admitted_eq hnone]
    rcases AdmitLog.admitAt_cases log.limiter policy now with ⟨-, hanswer⟩ | ⟨start, hstart,
      ⟨-, hanswer⟩ | ⟨-, hanswer⟩ | ⟨hle, hinside, -, hanswer⟩ | ⟨-, -, -, hanswer⟩⟩
    · rw [hanswer] at hrejected
      cases hrejected
    · rw [hanswer] at hrejected
      cases hrejected
    · rw [hanswer] at hrejected
      cases hrejected
    · rw [hanswer] at hrejected
      obtain rfl : policy.window - (now - start) = retryAfter := by
        injection hrejected with hrejected
        injection hrejected
      have hpassed : start + policy.window ≤ now + (policy.window - (now - start)) :=
        AdmitLog.window_passed hle hinside
      rcases AdmitLog.admitAt_cases log.limiter policy (now + (policy.window - (now - start))) with
        ⟨hnone, -⟩ | ⟨start', hstart', hcases⟩
      · rw [hnone] at hstart
        cases hstart
      · obtain rfl : start' = start := Option.some.inj (hstart'.symm.trans hstart)
        rcases hcases with ⟨hearly, -⟩ | ⟨-, hadmitted⟩ | ⟨-, hinside, -⟩ | ⟨-, hinside, -⟩
        · exact absurd (Nat.le_trans (Nat.le_add_right _ _) hpassed) (Nat.not_le_of_lt hearly)
        · exact ⟨_, hadmitted⟩
        · exact absurd hpassed (Nat.not_le_of_lt hinside)
        · exact absurd hpassed (Nat.not_le_of_lt hinside)
    · rw [hanswer] at hrejected
      cases hrejected
  · intro now start hstart hearly
    rcases AdmitLog.admitAt_cases log.limiter policy now with ⟨hnone, -⟩ | ⟨start', hstart', hcases⟩
    · rw [hnone] at hstart
      cases hstart
    · obtain rfl : start' = start := Option.some.inj (hstart'.symm.trans hstart)
      rcases hcases with ⟨-, hanswer⟩ | ⟨hpassed, -⟩ | ⟨hle, -⟩ | ⟨hle, -⟩
      · refine ⟨hanswer, ?_⟩
        unfold AdmitLog.step
        rw [hanswer]
      · exact absurd (Nat.le_trans (Nat.le_add_right _ _) hpassed) (Nat.not_le_of_lt hearly)
      · exact absurd hle (Nat.not_le_of_lt hearly)
      · exact absurd hle (Nat.not_le_of_lt hearly)

namespace Sample

/-- A window of ten nanoseconds admits one publication, and there has been one. -/
def busy : WovenCore :=
  Transition.run step
    { core with config := { publishRateLimit := { maxPublishes := 1, window := 10 } } } published

end Sample

theorem run_rateLimited_busy :
    (Transition.run (AdmitLog.step { maxPublishes := 1, window := 10 }) {}
        [3, 5, 12, 13]).admitted = [(3, 3), (13, 13)] ∧
      RateLimited { maxPublishes := 1, window := 10 }
        (Transition.run (AdmitLog.step { maxPublishes := 1, window := 10 }) {} [3, 5, 12, 13]) ∧
      Fails (publishAt (Sample.publication 6) 4 1 Sample.clock) Sample.busy
        (.publishRateLimited 6) Sample.busy := by
  obtain ⟨hlimited, hrefused⟩ :=
    @run_rateLimited { maxPublishes := 1, window := 10 } rfl [3, 5, 12, 13]
  refine ⟨by decide, hlimited, hrefused _ _ _ _ _ _ (by decide) ?_ ?_⟩
  · decide +kernel
  · decide +kernel

end Signalweave
