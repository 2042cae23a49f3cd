import Signalweave.Core.Soundness

/-!
# Accepted publications

A publication is accepted when `publish_at` returns without an error. What it then writes is
decided by the plan that its checks have made.
-/

open Std

namespace Signalweave

open Stateful WovenCore

/-- `publish_at` up to its first write of more than the rate limiter. -/
def planAt (request : PublishRequest) (now : Instant) (call : Nat) : CoreM PublishPlan := do
  validateConnectionId request.connection
  admitPublish request.connection now
  let core ← get
  core.planPublish request call

/-- The plan of a publication that is accepted. -/
def acceptedPlan (core : WovenCore) (request : PublishRequest) (now : Instant) (call : Nat)
    (clock : ReleaseClock) : Option PublishPlan :=
  match publishAt request now call clock core, planAt request now call core with
  | .ok _ _, .ok plan _ => some plan
  | _, _ => none

/-- The messages that an operation has accepted, in the order of their batch. -/
def Op.accepted (core : WovenCore) : Op → List OutboundMessage
  | .publishAt request now call clock =>
    (acceptedPlan core request now call clock).elim [] fun plan => plan.outbound request.session
  | _ => []

variable {core : WovenCore} {request : PublishRequest} {now : Instant} {call : Nat}
  {clock : ReleaseClock}

theorem publishAt_eq : publishAt request now call clock =
    planAt request now call >>= fun plan => commitPublish request.session plan clock := by
  simp [publishAt, planAt]

/-- What an accepted publication does: it commits its plan, fans the messages out and loses the
connections it finds slow. -/
structure Publishes (core : WovenCore) (request : PublishRequest) (now : Instant) (call : Nat)
    (clock : ReleaseClock) (plan : PublishPlan) (core' : WovenCore) : Prop where
  writes : ∃ limiter fan fanned outcome,
    (core.limited request.connection limiter).planPublish request call = .ok plan ∧
    FannedOut (.publishAt request now call clock) request.session
      ((core.limited request.connection limiter).commitPlan request.session plan)
      (fun c => (plan.outbound request.session).filter
        (((core.limited request.connection limiter).commitPlan request.session plan).owes
          request.session c)) fan fanned ∧
    publishAt request now call clock core = .ok outcome core' ∧
    outcome.disconnectedSlowConsumers = fan.disconnected.toList ∧
    core' = fanned.loseAll fan.disconnected.toList clock

theorem planAt_returns {plan : PublishPlan} {core' : WovenCore}
    (h : Returns (planAt request now call) core plan core') :
    ∃ limiter, core' = core.limited request.connection limiter ∧
      core'.planPublish request call = .ok plan := by
  have hends : Ends (planAt request now call) core (fun plan core' =>
      ∃ limiter, core' = core.limited request.connection limiter ∧
        core'.planPublish request call = .ok plan) fun _ _ => True := by
    simp only [planAt, ends_bind, ends_lift, ends_get]
    refine ⟨fun _ _ => ?_, fun _ _ => trivial⟩
    apply admitPublish_ends fun _ => trivial
    intro limiter _
    exact ⟨fun plan hplan => ⟨limiter, rfl, hplan⟩, fun _ _ => trivial⟩
  exact hends.returns h

theorem step_publishAt : step core (.publishAt request now call clock) =
    after (publishAt request now call clock) core := after_discard _ core

theorem step_of_returns {outcome : PublishOutcome} {core' : WovenCore}
    (h : Returns (publishAt request now call clock) core outcome core') :
    step core (.publishAt request now call clock) = core' := by
  rw [step_publishAt, h.after_eq]

theorem step_of_fails {e : CoreError} {core' : WovenCore}
    (h : Fails (publishAt request now call clock) core e core') :
    step core (.publishAt request now call clock) = core' := by
  rw [step_publishAt, h.after_eq]

theorem acceptedPlan_of_returns {outcome : PublishOutcome} {core' limited : WovenCore}
    {plan : PublishPlan} (h : Returns (publishAt request now call clock) core outcome core')
    (hplanAt : Returns (planAt request now call) core plan limited) :
    acceptedPlan core request now call clock = some plan := by
  unfold acceptedPlan
  rw [show publishAt request now call clock core = .ok outcome core' from h,
    show planAt request now call core = .ok plan _ from hplanAt]

/-- An accepted publication carries out its plan. -/
theorem publishes_of_returns {outcome : PublishOutcome} {core' : WovenCore} (hsound : core.Sound)
    (h : Returns (publishAt request now call clock) core outcome core') :
    ∃ plan, acceptedPlan core request now call clock = some plan ∧
      Publishes core request now call clock plan core' := by
  have hreturns := h
  rw [publishAt_eq, returns_bind] at h
  obtain ⟨plan, limited, hplanAt, hcommit⟩ := h
  obtain ⟨limiter, rfl, hplan⟩ := planAt_returns hplanAt
  have hlimit : Change (.publishAt request now call clock) core
      (core.limited request.connection limiter) := .limit request now call clock limiter
  refine ⟨plan, acceptedPlan_of_returns hreturns hplanAt, ⟨limiter, ?_⟩⟩
  · have hends := commitPublish_ends now (Q := fun outcome core' => ∃ fan fanned,
        FannedOut (.publishAt request now call clock) request.session
          ((core.limited request.connection limiter).commitPlan request.session plan)
          (fun c => (plan.outbound request.session).filter
            (((core.limited request.connection limiter).commitPlan request.session plan).owes
              request.session c)) fan fanned ∧
        outcome.disconnectedSlowConsumers = fan.disconnected.toList ∧
        core' = fanned.loseAll fan.disconnected.toList clock) (hlimit.sound hsound) hplan
      fun fan fanned outcome hfanned _ hslow => ⟨fan, fanned, hfanned, hslow, rfl⟩
    obtain ⟨fan, fanned, hfanned, hslow, hcore⟩ := hends.returns hcommit
    exact ⟨fan, fanned, outcome, hplan, hfanned, hreturns, hslow, hcore⟩

/-- A publication that is refused has touched nothing but the limiter. -/
theorem publishAt_refused {e : CoreError} {core' : WovenCore} (h : core.Sound)
    (hfails : Fails (publishAt request now call clock) core e core') :
    core' = core ∨ ∃ limiter, core' = core.limited request.connection limiter := by
  have hends : Ends (publishAt request now call clock) core (fun _ _ => True)
      fun _ core' => core' = core ∨ ∃ limiter, core' = core.limited request.connection limiter :=
    publishAt_ends h (fun _ => .inl rfl) (fun _ limiter => .inr ⟨limiter, rfl⟩)
      fun _ _ _ _ _ _ _ _ => trivial
  exact hends.fails hfails

/-- The two ends of a publication: it is refused with nothing but the limiter touched, or its
plan is carried out. -/
theorem publishAt_step (h : core.Sound) (request : PublishRequest) (now : Instant) (call : Nat)
    (clock : ReleaseClock) :
    (acceptedPlan core request now call clock = none ∧
      (step core (.publishAt request now call clock) = core ∨
        ∃ limiter, step core (.publishAt request now call clock) =
          core.limited request.connection limiter)) ∨
    ∃ plan, acceptedPlan core request now call clock = some plan ∧
      Publishes core request now call clock plan
        (step core (.publishAt request now call clock)) := by
  rw [step_publishAt]
  rcases returns_or_fails (publishAt request now call clock) core with ⟨outcome, hends⟩ | ⟨e, hends⟩
  · exact .inr (publishes_of_returns h hends)
  · refine .inl ⟨?_, ?_⟩
    · unfold acceptedPlan
      rw [show publishAt request now call clock core = .error e _ from hends]
    · exact publishAt_refused h hends

end Signalweave
