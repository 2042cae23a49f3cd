import Signalweave.Core.EpochAdvance
import Signalweave.Core.Tables

/-!
# Requests that come again

While the scope of a sequence key lasts, every accepted request goes past the ones accepted before
it. The end of the scope frees the numbers: an entity that leaves a space and comes back may have
all of its old requests accepted again.
-/

open Std

namespace Signalweave

open Stateful WovenCore SessionState KeyedLog

/-- An accepted request under the key it was made for. -/
structure AcceptedRequest where
  key : SequenceKey
  sequence : Nat
  renamed : Bool
  deriving DecidableEq

/-- The authority has moved the message to another component, and so under another key. -/
def AuthorityOutcome.renames (proposed : AuthorizedMessage) : AuthorityOutcome → Bool
  | .transform transformed =>
    coalesceComponent transformed.coalesceKey != coalesceComponent proposed.coalesceKey
  | _ => false

/-- The request of a session that an operation has accepted. -/
def Op.requested (core : WovenCore) (key : SessionKey) : Op → List AcceptedRequest
  | .publishAt request now call clock =>
    if request.session = key ∧ (acceptedPlan core request now call clock).isSome then
      [{ key := sequenceKey request.connection (.fromRequest request)
         sequence := request.sequence
         renamed :=
          match core.authorityAnswer request call with
          | .ok outcome => outcome.renames (.fromRequest request)
          | .error _ => false }]
    else []
  | _ => []

/-- A core beside the requests it has accepted in a session, all of them and those whose scope
has lasted since. -/
structure RequestLog where
  core : WovenCore
  accepted : List AcceptedRequest := []
  standing : List AcceptedRequest := []

/-- A later request under the same key has a greater number. -/
def AcceptedRequest.Before (first second : AcceptedRequest) : Prop :=
  first.key = second.key → first.sequence < second.sequence

instance (first second : AcceptedRequest) : Decidable (first.Before second) :=
  inferInstanceAs (Decidable (_ → _))

namespace RequestLog

/-- An operation, with the requests accepted in the session and those whose sequence is kept. -/
def step (key : SessionKey) (log : RequestLog) (op : Op) : RequestLog :=
  let after := Signalweave.step log.core op
  { core := after
    accepted := log.accepted ++ op.requested log.core key
    standing := (log.standing ++ op.requested log.core key).filter fun request =>
      (after.sessionAt key).holdsSequence request.key }

variable {log : RequestLog} {key : SessionKey} {core : WovenCore} {op : Op}

/-- A request that is not renamed uses up its own number. -/
theorem mem_acceptedNumbers {request : PublishRequest} {call : Nat} {plan : PublishPlan}
    {outcome : AuthorityOutcome} (h : core.planPublish request call = .ok plan)
    (hanswer : core.authorityAnswer request call = .ok outcome)
    (hkept : outcome.renames (.fromRequest request) = false) :
    (sequenceKey request.connection (.fromRequest request), request.sequence) ∈
      acceptedNumbers core request call plan := by
  obtain ⟨outcome', authorized, hanswer', hauthorized, hmessages, -⟩ := planPublish_answer h
  obtain rfl := Except.ok.inj (hanswer.symm.trans hanswer')
  rw [acceptedNumbers, hanswer, hmessages]
  cases outcome with
  | accept =>
    obtain rfl := Except.ok.inj hauthorized
    exact List.mem_append_right _ List.mem_cons_self
  | reject reason => cases hauthorized
  | transform transformed =>
    obtain rfl := Except.ok.inj hauthorized
    have hcomponent : coalesceComponent transformed.coalesceKey =
        coalesceComponent request.coalesceKey := by
      simpa [AuthorityOutcome.renames, AuthorizedMessage.fromRequest] using hkept
    refine List.mem_append_right _ (List.mem_singleton.mpr ?_)
    simp only [sequenceKey, AuthorizedMessage.fromRequest, hcomponent]
  | emit emissions => exact List.mem_append_left _ List.mem_cons_self

/-- What an operation that accepts a request says of it. -/
theorem mem_requested {request : AcceptedRequest} (hsound : core.Sound)
    (h : request ∈ op.requested core key) :
    (∀ last, (core.sessionAt key).sequences[request.key]? = some last → last < request.sequence) ∧
      (request.renamed = false → (request.key, request.sequence) ∈ op.sequenced core key) := by
  cases op with
  | publishAt published now call clock =>
    rw [Op.requested] at h
    split at h
    · rename_i haccepted
      obtain ⟨rfl, hsome⟩ := haccepted
      obtain rfl := List.mem_singleton.mp h
      rcases publishAt_step hsound published now call clock with
        ⟨hnone, -⟩ | ⟨plan, hplan, hpublishes⟩
      · rw [hnone] at hsome
        cases hsome
      · have hplanned := hpublishes.planned
        refine ⟨(planPublish_eq_ok hplanned).proposed.fresh, fun hkept => ?_⟩
        obtain ⟨outcome, _, hanswer, -⟩ := planPublish_answer hplanned
        rw [Op.sequenced, if_pos rfl, hplan, Option.elim_some]
        apply mem_acceptedNumbers hplanned hanswer
        simpa [hanswer] using hkept
    · cases h
  | _ => cases h

/-- The standing requests have used up their numbers, and they are in order. -/
structure Ordered (key : SessionKey) (log : RequestLog) : Prop where
  recorded : ∃ sequenced stored, PublishLog.Kept key ⟨log.core, sequenced, stored⟩ ∧
    ∀ request ∈ log.standing, request.renamed = false →
      (request.key, request.sequence) ∈ sequenced
  increasing : log.standing.Pairwise fun first second => first.renamed = false →
    first.Before second

theorem Ordered.step (h : log.Ordered key) (op : Op) : (log.step key op).Ordered key := by
  obtain ⟨sequenced, stored, hkept, hrecorded⟩ := h.recorded
  have hstep := hkept.step op
  have hnew : ∀ request ∈ op.requested log.core key,
      (∀ last, (log.core.sessionAt key).sequences[request.key]? = some last →
        last < request.sequence) ∧
      (request.renamed = false → (request.key, request.sequence) ∈ op.sequenced log.core key) :=
    fun _ hrequest => mem_requested hkept.sound hrequest
  refine ⟨⟨_, _, hstep, fun request hin hplain => ?_⟩, ?_⟩
  · obtain ⟨hin, hholds⟩ := List.mem_filter.mp hin
    refine List.mem_filter.mpr ⟨?_, hholds⟩
    rcases List.mem_append.mp hin with hold | hrequested
    · exact List.mem_append_left _ (hrecorded request hold hplain)
    · exact List.mem_append_right _ ((hnew request hrequested).2 hplain)
  · apply List.Pairwise.filter
    rw [List.pairwise_append]
    refine ⟨h.increasing, ?_, fun first hfirst second hsecond hplain hkey => ?_⟩
    · cases op with
      | publishAt request now call clock =>
        rw [Op.requested]
        split
        · exact List.pairwise_singleton _ _
        · exact .nil
      | _ => exact .nil
    · -- The table has reached the first number, and the second one is past the table.
      obtain ⟨last, hlast, hle⟩ := le_greatest (hrecorded first hfirst hplain)
      refine Nat.lt_of_le_of_lt hle ((hnew second hsecond).1 last ?_)
      rw [← hlast, hkey]
      exact hkept.explains.sequences _

theorem run_core (log : RequestLog) (ops : List Op) :
    (Transition.run (RequestLog.step key) log ops).core =
      Transition.run Signalweave.step log.core ops :=
  Transition.run_project (f := RequestLog.core) (fun _ _ => rfl) log ops

end RequestLog

variable {core : WovenCore}

theorem Initial.ordered (h : Initial core) (key : SessionKey) :
    RequestLog.Ordered key { core } :=
  ⟨⟨[], [], h.kept key, nofun⟩, .nil⟩

/-- Along every run the requests accepted for a key are strictly increasing while the scope of the
key lasts, save for what follows a request that the authority has moved under another key. -/
theorem run_no_replay (h : Initial core) (ops : List Op) (key : SessionKey) :
    let log := Transition.run (RequestLog.step key) { core } ops
    log.core = Transition.run step core ops ∧
      log.standing.Pairwise fun first second => first.renamed = false → first.Before second := by
  intro log
  have hordered : log.Ordered key :=
    Transition.run_invariant (P := RequestLog.Ordered key) (fun _ op h => h.step op)
      (h.ordered key) ops
  exact ⟨RequestLog.run_core _ ops, hordered.increasing⟩

namespace Sample

/-- Two publications for one entity, with a refused one in between. -/
def publishedTwice : List Op :=
  published ++ [.publishAt (publication 5) 1 1 clock, .publishAt (publication 6) 2 2 clock]

/-- The first entity leaves the first space for the second one. -/
def leaveSpace : EntityTransitionRequest :=
  { connection := ⟨1⟩, session, entity := ⟨1⟩, sourceSpace := ⟨1⟩, sourceEpoch := ⟨1⟩,
    destinationSpace := ⟨2⟩, destinationEpoch := ⟨1⟩ }

/-- It comes back, and its one publication with it. -/
def publishedAgain : List Op :=
  published ++ [.transitionEntity leaveSpace,
    .transitionEntity { leaveSpace with sourceSpace := ⟨2⟩, destinationSpace := ⟨1⟩ },
    .publishAt (publication 5) 1 1 clock]

end Sample

theorem run_no_replay_publishedTwice :
    let log := Transition.run (RequestLog.step Sample.session) { core := Sample.core }
      Sample.publishedTwice
    log.standing.map AcceptedRequest.sequence = [5, 6] ∧
      log.standing.Pairwise fun first second => first.renamed = false → first.Before second :=
  ⟨by decide +kernel, (run_no_replay Sample.initial Sample.publishedTwice Sample.session).2⟩

/-- After the entity has come back, its request is accepted a second time. -/
theorem run_replay :
    ¬ ∀ (core : WovenCore) (ops : List Op) (key : SessionKey), Initial core →
      (Transition.run (RequestLog.step key) { core } ops).accepted.Pairwise
        AcceptedRequest.Before := by
  intro hincreasing
  have hreplayed := hincreasing Sample.core Sample.publishedAgain Sample.session Sample.initial
  revert hreplayed
  decide +kernel

end Signalweave
