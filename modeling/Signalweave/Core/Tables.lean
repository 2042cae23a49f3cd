import Signalweave.Core.Journaling
import Signalweave.Core.Scopes
import Signalweave.Library.KeyedLog

/-!
# The tables and the history they stand for

The sequence table and the state table of a session are explained by two logs of what its
publications have accepted. An entry of a log is dropped as soon as its key has lost its scope; of
what is left, the greatest number of a key is its stored sequence and the latest record its state.
-/

open Std

namespace Signalweave

open Stateful WovenCore SessionState KeyedLog

/-! ## What a publication accepts -/

namespace WovenCore

/-- What the authority answers to a request that has passed the checks before. -/
def authorityAnswer (core : WovenCore) (request : PublishRequest) (call : Nat) :
    Except CoreError AuthorityOutcome := do
  let (principal, channel) ← core.checkPublish request
  return channel.authority.evaluate call (core.authorityContext request principal)
    (proposedMessage request)

end WovenCore

/-- The numbers of authorized messages, in the order of the batch. -/
def numbersOf (connection : ConnectionId) (messages : List AuthorizedMessage) :
    List (SequenceKey × Nat) :=
  messages.map fun message => (sequenceKey connection message, message.sequence)

/-- The number of a proposal that emissions have taken the place of. -/
def AuthorityOutcome.proposals (connection : ConnectionId) (proposed : AuthorizedMessage) :
    AuthorityOutcome → List (SequenceKey × Nat)
  | .emit _ => numbersOf connection [proposed]
  | _ => []

/-- The numbers that an accepted publication uses up. -/
def acceptedNumbers (core : WovenCore) (request : PublishRequest) (call : Nat)
    (plan : PublishPlan) : List (SequenceKey × Nat) :=
  (match core.authorityAnswer request call with
    | .ok outcome => outcome.proposals request.connection (.fromRequest request)
    | .error _ => []) ++ numbersOf request.connection plan.messages

/-- The records of the stateful messages, in the order of the batch. -/
def recordsOf (messages : List AuthorizedMessage) : List (StateKey × StateRecord) :=
  (messages.filter fun message => message.persistence == .stateful).map fun message =>
    (stateKey message, { sequence := message.sequence, payload := message.payload })

theorem recordsOf_append (messages more : List AuthorizedMessage) :
    recordsOf (messages ++ more) = recordsOf messages ++ recordsOf more := by
  rw [recordsOf, List.filter_append, List.map_append]
  rfl

/-- The numbers that an operation has accepted in a session. -/
def Op.sequenced (core : WovenCore) (key : SessionKey) : Op → List (SequenceKey × Nat)
  | .publishAt request now call clock =>
    if request.session = key then
      (acceptedPlan core request now call clock).elim [] (acceptedNumbers core request call)
    else []
  | _ => []

/-- The state records that an operation has accepted in a session. -/
def Op.stored (core : WovenCore) (key : SessionKey) : Op → List (StateKey × StateRecord)
  | .publishAt request now call clock =>
    if request.session = key then
      (acceptedPlan core request now call clock).elim [] fun plan => recordsOf plan.messages
    else []
  | _ => []

/-! ## The rate limiter is not asked again -/

section Limited

variable {core : WovenCore} {connection other : ConnectionId} {limiter : ConnectionRateLimiter}
  {request : PublishRequest} {call : Nat}

theorem authenticatedPrincipal_limited :
    (core.limited connection limiter).authenticatedPrincipal other =
      core.authenticatedPrincipal other := by
  unfold authenticatedPrincipal limited modifyConnection
  rw [OrderedMap.getElem?_modify]
  split <;> cases core.connections[other]? <;> rfl

theorem requireMembership_limited {session : SessionKey} :
    (core.limited connection limiter).requireMembership other session =
      core.requireMembership other session := by
  unfold requireMembership limited modifyConnection
  rw [OrderedMap.getElem?_modify]
  split <;> cases core.connections[other]? <;> rfl

theorem requireSubscription_limited {space : SpaceKey} :
    (core.limited connection limiter).requireSubscription other space =
      core.requireSubscription other space := by
  unfold requireSubscription limited modifyConnection
  rw [OrderedMap.getElem?_modify]
  split <;> cases core.connections[other]? <;> rfl

theorem checkPublish_limited :
    (core.limited connection limiter).checkPublish request = core.checkPublish request := by
  unfold checkPublish
  rw [authenticatedPrincipal_limited, requireMembership_limited, requireSubscription_limited]
  rfl

theorem planSequences_limited {key : SessionKey} (messages : List AuthorizedMessage)
    (planned : ExtTreeMap SequenceKey Nat) :
    (core.limited connection limiter).planSequences other key messages planned =
      core.planSequences other key messages planned := by
  induction messages generalizing planned with
  | nil => rfl
  | cons message rest ih =>
    unfold planSequences
    simp only [ih]
    rfl

theorem planPublish_limited :
    (core.limited connection limiter).planPublish request call = core.planPublish request call := by
  unfold planPublish
  rw [checkPublish_limited]
  simp only [planSequences_limited]
  rfl

end Limited

/-! ## The plan -/

section Plan

variable {core : WovenCore} {request : PublishRequest} {call : Nat} {plan : PublishPlan}
  {connection : ConnectionId} {key : SessionKey}

/-- The plan holds the greatest number of each key of what the loop has walked over. -/
theorem planSequences_greatest {messages : List AuthorizedMessage}
    {planned result : ExtTreeMap SequenceKey Nat} {log : List (SequenceKey × Nat)}
    (h : core.planSequences connection key messages planned = .ok result)
    (hplanned : ∀ k, planned[k]? = greatest log k) (k : SequenceKey) :
    result[k]? = greatest (log ++ numbersOf connection messages) k := by
  induction messages generalizing planned log with
  | nil =>
    obtain rfl : planned = result := by simpa [planSequences] using h
    rw [hplanned, numbersOf, List.map_nil, List.append_nil]
  | cons message rest ih =>
    simp only [planSequences, Except.bind_eq_ok] at h
    obtain ⟨_, hvalid, hrest⟩ := h
    have hinsert := insert_greatest hplanned (validateMessage_eq_ok hvalid).unplanned
    rw [ih hrest hinsert, List.append_assoc]
    rfl

theorem authorizedPlan_greatest {config : CoreConfig} {proposed : AuthorizedMessage}
    {outcome : AuthorityOutcome} {authorized : PublishPlan}
    (h : authorizedPlan config connection proposed outcome = .ok authorized) (k : SequenceKey) :
    authorized.sequences[k]? = greatest (outcome.proposals connection proposed) k := by
  cases outcome with
  | accept =>
    obtain rfl := Except.ok.inj h
    simp [AuthorityOutcome.proposals]
  | reject reason => cases h
  | transform transformed =>
    obtain rfl := Except.ok.inj h
    simp [AuthorityOutcome.proposals]
  | emit emissions =>
    simp only [authorizedPlan, Except.ite_eq_ok, reduceCtorEq, and_false, false_or] at h
    obtain rfl := Except.ok.inj h.2
    show ((∅ : ExtTreeMap SequenceKey Nat).insert _ _)[k]? = greatest [_] k
    rw [@insert_greatest _ _ _ _ _ _ [] _ _ (by simp) (by simp)]
    rfl

/-- A plan is the authority's answer, walked over. -/
theorem planPublish_answer (h : core.planPublish request call = .ok plan) :
    ∃ outcome authorized, core.authorityAnswer request call = .ok outcome ∧
      authorizedPlan core.config request.connection (.fromRequest request) outcome =
        .ok authorized ∧ plan.messages = authorized.messages ∧
      core.planSequences request.connection request.session authorized.messages
        authorized.sequences = .ok plan.sequences := by
  simp only [planPublish, Except.bind_eq_ok, Except.ite_eq_ok, Except.throw_bind,
    Except.throw_ne_ok, Except.pure_eq_ok, and_false, false_or] at h
  obtain ⟨⟨principal, channel⟩, hcheck, authorized, hauthorized, planned, hplanned, ⟨⟩,
    -, ⟨⟩, -, -, rfl⟩ := h
  refine ⟨_, authorized, ?_, hauthorized, rfl, hplanned⟩
  rw [authorityAnswer, hcheck]
  rfl

/-- The planned sequence of a key is the greatest number accepted for it. -/
theorem planPublish_greatest (h : core.planPublish request call = .ok plan) (k : SequenceKey) :
    plan.sequences[k]? = greatest (acceptedNumbers core request call plan) k := by
  obtain ⟨outcome, authorized, hanswer, hauthorized, hmessages, hplanned⟩ := planPublish_answer h
  rw [planSequences_greatest hplanned (authorizedPlan_greatest hauthorized), acceptedNumbers,
    hanswer, hmessages]

/-- Every planned sequence goes past the stored one. -/
theorem planPublish_later (h : core.planPublish request call = .ok plan) {k : SequenceKey}
    {last n : Nat} (hlast : (core.sessionAt request.session).sequences[k]? = some last)
    (hn : plan.sequences[k]? = some n) : last < n := by
  have hplanned := planPublish_eq_ok h
  rw [planPublish_greatest h] at hn
  rcases List.mem_append.mp (mem_of_greatest hn) with hproposal | hmessage
  · cases hanswer : core.authorityAnswer request call with
    | error e => simp [hanswer] at hproposal
    | ok outcome =>
      rw [hanswer] at hproposal
      cases outcome with
      | emit emissions =>
        obtain ⟨rfl, rfl⟩ : k = sequenceKey request.connection (.fromRequest request) ∧
            n = request.sequence := by
          simpa [AuthorityOutcome.proposals, numbersOf, AuthorizedMessage.fromRequest] using
            hproposal
        exact hplanned.proposed.fresh last hlast
      | _ => cases hproposal
  · obtain ⟨message, hin, hentry⟩ := List.mem_map.mp hmessage
    obtain ⟨rfl, rfl⟩ := Prod.mk.inj hentry
    obtain ⟨before, hvalid⟩ := hplanned.messages message hin
    exact hvalid.fresh last hlast

end Plan

/-! ## The commit -/

namespace SessionState

variable {session : SessionState} {plan : PublishPlan}

theorem storeState_state {message : AuthorizedMessage} (k : StateKey) :
    (session.storeState message).state[k]? =
      (latest (recordsOf [message]) k).or session.state[k]? := by
  rw [storeState, recordsOf, List.filter_cons]
  split
  · rename_i hstateful
    rw [if_pos (beq_iff_eq.mpr hstateful), List.filter_nil, List.map_singleton, latest_singleton,
      OrderedMap.getElem?_insert]
    by_cases hk : stateKey message = k
    · rw [if_pos hk, if_pos hk.symm, Option.some_or]
    · rw [if_neg hk, if_neg (Ne.symm hk), Option.none_or]
  · rename_i hother
    rw [if_neg fun h => hother (beq_iff_eq.mp h)]
    rfl

theorem foldl_storeState_state (messages : List AuthorizedMessage) (session : SessionState)
    (k : StateKey) : (messages.foldl storeState session).state[k]? =
      (latest (recordsOf messages) k).or session.state[k]? := by
  induction messages generalizing session with
  | nil => rfl
  | cons message rest ih =>
    rw [List.foldl_cons, ih, storeState_state, ← Option.or_assoc, ← latest_append,
      ← recordsOf_append, List.singleton_append]

theorem commit_state (k : StateKey) : (session.commit plan).state[k]? =
    (latest (recordsOf plan.messages) k).or session.state[k]? :=
  foldl_storeState_state plan.messages _ k

theorem commit_sequences (k : SequenceKey) : (session.commit plan).sequences[k]? =
    (plan.sequences[k]?).or session.sequences[k]? := by
  rw [commit, foldl_storeState_eq]
  show (plan.sequences.toList.foldl _ session.sequences)[k]? = _
  rw [getElem?_foldl_insert, latest_toList]

end SessionState

/-! ## What an operation leaves of the tables -/

section Steps

variable {core core' : WovenCore} {key : SessionKey} {request : PublishRequest} {now : Instant}
  {call : Nat} {clock : ReleaseClock} {plan : PublishPlan}

theorem Publishes.planned (h : Publishes core request now call clock plan core') :
    core.planPublish request call = .ok plan := by
  obtain ⟨limiter, fan, fanned, outcome, hplan, -, -, -, -⟩ := h.writes
  rwa [planPublish_limited] at hplan

/-- A publication commits its plan; the slow consumers it loses take their scopes with them. -/
theorem Publishes.sheds (h : Publishes core request now call clock plan core')
    (hsound : core.Sound) (key : SessionKey) :
    (if key = request.session then (core.sessionAt key).commit plan
      else core.sessionAt key).Sheds (core'.sessionAt key) := by
  have hprovisioned := (planPublish_eq_ok h.planned).session
  obtain ⟨limiter, fan, fanned, outcome, hplan, hfanned, -, -, rfl⟩ := h.writes
  have hlimit : Change (.publishAt request now call clock) core
      (core.limited request.connection limiter) := .limit request now call clock limiter
  have hcommit : Change (.publishAt request now call clock)
      (core.limited request.connection limiter)
      ((core.limited request.connection limiter).commitPlan request.session plan) :=
    .commit request now call clock plan hplan
  have hcommitted : fanned.sessionAt key =
      if key = request.session then (core.sessionAt key).commit plan else core.sessionAt key := by
    rw [hfanned.sessionAt, commitPlan, sessionAt_modifySession]
    by_cases hkey : key = request.session
    · rw [if_pos hkey, if_pos ⟨hkey, hprovisioned⟩]
      rfl
    · rw [if_neg hkey, if_neg fun hand => hkey hand.1]
      rfl
  rw [← hcommitted]
  exact sheds_loseAll (hfanned.changes.sound (hcommit.sound (hlimit.sound hsound))) _ clock

/-- A refused publication sheds nothing. -/
theorem sheds_of_refused {connection : ConnectionId} (hsound : core.Sound)
    (h : core' = core ∨ ∃ limiter, core' = core.limited connection limiter) :
    (core.sessionAt key).Sheds (core'.sessionAt key) := by
  have hsame : core'.sessionAt key = core.sessionAt key := by
    rcases h with rfl | ⟨limiter, rfl⟩ <;> rfl
  rw [hsame]
  exact .refl (hsound.consistent.session key)

end Steps

/-! ## Runs -/

/-- A core beside what the publications of a session have accepted under scopes that last. -/
structure PublishLog where
  core : WovenCore
  sequenced : List (SequenceKey × Nat) := []
  stored : List (StateKey × StateRecord) := []

namespace PublishLog

/-- An operation adds what it accepts, and every entry goes when its scope does. -/
def step (key : SessionKey) (log : PublishLog) (op : Op) : PublishLog :=
  let after := Signalweave.step log.core op
  { core := after
    sequenced := (log.sequenced ++ op.sequenced log.core key).filter fun entry =>
      (after.sessionAt key).holdsSequence entry.1
    stored := (log.stored ++ op.stored log.core key).filter fun entry =>
      (after.sessionAt key).holdsState entry.1 }

/-- The logs explain the tables of a session. -/
structure Explains (sequenced : List (SequenceKey × Nat)) (stored : List (StateKey × StateRecord))
    (session : SessionState) : Prop where
  sequences : ∀ k : SequenceKey, session.sequences[k]? = greatest sequenced k
  state : ∀ k : StateKey, session.state[k]? = latest stored k

variable {sequenced : List (SequenceKey × Nat)} {stored : List (StateKey × StateRecord)}
  {session session' : SessionState} {core : WovenCore} {key : SessionKey} {log : PublishLog}

/-- Tables and logs are cut at the same points. -/
theorem Explains.sheds (h : Explains sequenced stored session) (hsheds : session.Sheds session') :
    Explains (sequenced.filter fun entry => session'.holdsSequence entry.1)
      (stored.filter fun entry => session'.holdsState entry.1) session' := by
  constructor
  · intro k
    rw [greatest_filter, ← h.sequences]
    apply Option.ext
    intro last
    rw [hsheds.sequences]
    split <;> simp_all
  · intro k
    rw [latest_filter, ← h.state]
    apply Option.ext
    intro record
    rw [hsheds.state]
    split <;> simp_all

/-- A commit writes what its plan has accepted. -/
theorem Explains.commit {request : PublishRequest} {call : Nat} {plan : PublishPlan}
    (h : Explains sequenced stored (core.sessionAt request.session))
    (hplan : core.planPublish request call = .ok plan) :
    Explains (sequenced ++ acceptedNumbers core request call plan)
      (stored ++ recordsOf plan.messages) ((core.sessionAt request.session).commit plan) := by
  constructor
  · intro k
    rw [SessionState.commit_sequences, planPublish_greatest hplan, h.sequences, greatest_append]
    intro last n hlast hn
    exact planPublish_later hplan ((h.sequences k).trans hlast)
      ((planPublish_greatest hplan k).trans hn)
  · intro k
    rw [SessionState.commit_state, latest_append, h.state]

/-- The tables of a session are explained by its logs. -/
structure Kept (key : SessionKey) (log : PublishLog) : Prop where
  sound : log.core.Sound
  explains : Explains log.sequenced log.stored (log.core.sessionAt key)

theorem Kept.publish (h : log.Kept key) (request : PublishRequest) (now : Instant) (call : Nat)
    (clock : ReleaseClock) : (log.step key (.publishAt request now call clock)).Kept key := by
  refine ⟨sound_step h.sound _, ?_⟩
  rcases publishAt_step h.sound request now call clock with
    ⟨hnone, hstep⟩ | ⟨plan, hplan, hpublishes⟩
  · have hsequenced : Op.sequenced log.core key (.publishAt request now call clock) = [] := by
      rw [Op.sequenced, hnone, Option.elim_none, ite_self]
    have hstored : Op.stored log.core key (.publishAt request now call clock) = [] := by
      rw [Op.stored, hnone, Option.elim_none, ite_self]
    simp only [PublishLog.step, hsequenced, hstored, List.append_nil]
    exact h.explains.sheds (sheds_of_refused h.sound hstep)
  · have hsheds := hpublishes.sheds h.sound key
    by_cases hkey : key = request.session
    · subst hkey
      have hsequenced : Op.sequenced log.core request.session (.publishAt request now call clock) =
          acceptedNumbers log.core request call plan := by
        rw [Op.sequenced, if_pos rfl, hplan, Option.elim_some]
      have hstored : Op.stored log.core request.session (.publishAt request now call clock) =
          recordsOf plan.messages := by
        rw [Op.stored, if_pos rfl, hplan, Option.elim_some]
      rw [if_pos rfl] at hsheds
      simp only [PublishLog.step, hsequenced, hstored]
      exact (h.explains.commit hpublishes.planned).sheds hsheds
    · have hsequenced : Op.sequenced log.core key (.publishAt request now call clock) = [] :=
        if_neg (Ne.symm hkey)
      have hstored : Op.stored log.core key (.publishAt request now call clock) = [] :=
        if_neg (Ne.symm hkey)
      rw [if_neg hkey] at hsheds
      simp only [PublishLog.step, hsequenced, hstored, List.append_nil]
      exact h.explains.sheds hsheds

theorem Kept.step (h : log.Kept key) (op : Op) : (log.step key op).Kept key := by
  by_cases hop : op.publishes
  · cases op with
    | publishAt request now call clock => exact h.publish request now call clock
    | _ => exact hop.elim
  · refine ⟨sound_step h.sound op, ?_⟩
    have hsequenced : op.sequenced log.core key = [] := by
      cases op <;> first | rfl | exact absurd trivial hop
    have hstored : op.stored log.core key = [] := by
      cases op <;> first | rfl | exact absurd trivial hop
    simp only [PublishLog.step, hsequenced, hstored, List.append_nil]
    exact h.explains.sheds (step_sheds h.sound hop)

theorem run_core (log : PublishLog) (ops : List Op) :
    (Transition.run (PublishLog.step key) log ops).core =
      Transition.run Signalweave.step log.core ops :=
  Transition.run_project (f := PublishLog.core) (fun _ _ => rfl) log ops

end PublishLog

variable {core : WovenCore}

theorem Initial.kept (h : Initial core) (key : SessionKey) : PublishLog.Kept key { core } := by
  refine ⟨h.empty.sound, ?_⟩
  show PublishLog.Explains [] [] (core.sessionAt key)
  rw [h.empty.sessionAt]
  exact ⟨fun _ => by simp, fun _ => by simp⟩

/-- Along every run the stored sequence of a key is the greatest number accepted for it since its
scope last began, and the stored record is the one accepted last; a publication that fails leaves
both tables as they were. What is accepted are the messages of a plan, which
`decides_of_planPublish` in `Core.Refines` shows to be what the authority has answered. -/
theorem run_tables (h : Initial core) (ops : List Op) (key : SessionKey) :
    let log := Transition.run (PublishLog.step key) { core } ops
    log.core = Transition.run step core ops ∧
      (∀ k : SequenceKey, (log.core.sessionAt key).sequences[k]? = greatest log.sequenced k) ∧
      (∀ k : StateKey, (log.core.sessionAt key).state[k]? = latest log.stored k) ∧
      ∀ request now call clock e core', Fails (publishAt request now call clock) log.core e core' →
        (core'.sessionAt key).sequences = (log.core.sessionAt key).sequences ∧
          (core'.sessionAt key).state = (log.core.sessionAt key).state := by
  intro log
  have hkept : log.Kept key :=
    Transition.run_invariant (P := PublishLog.Kept key) (fun _ op h => h.step op) (h.kept key) ops
  refine ⟨PublishLog.run_core _ ops, hkept.explains.sequences, hkept.explains.state, ?_⟩
  intro request now call clock e core' hfails
  rcases publishAt_refused hkept.sound hfails with rfl | ⟨limiter, rfl⟩ <;> exact ⟨rfl, rfl⟩

namespace Sample

/-- An authority that answers with two emissions under the key of the proposal. -/
def twice : AuthorityPolicy where
  evaluate _ _ proposed := .emit <| [1, 2].map fun n =>
    { space := proposed.space, spaceEpoch := proposed.spaceEpoch, entity := proposed.entity
      channel := proposed.channel, sequence := proposed.sequence + n
      delivery := proposed.delivery, persistence := proposed.persistence
      coalesceKey := proposed.coalesceKey, payload := [7] }

/-- The channel of this authority. -/
def twiceChannel : ChannelDefinition :=
  { id := ⟨1⟩, delivery := .reliableOrdered, persistence := .stateful, maxPayloadBytes := 64
    authority := twice }

/-- A publication that uses up the numbers five to seven, and one that comes with the last. -/
def emitted : List Op :=
  setup ++ [.registerChannel twiceChannel, .spawnEntity ⟨1⟩ (spaceKey 1) ⟨1⟩,
    .publishAt { publication 5 with persistence := .stateful } 0 0 clock,
    .publishAt { publication 7 with persistence := .stateful } 1 1 clock]

end Sample

theorem run_tables_emitted :
    let log :=
      Transition.run (PublishLog.step Sample.session) { core := Sample.core } Sample.emitted
    log.sequenced.map Prod.snd = [5, 6, 7] ∧
      log.stored.map (fun entry => entry.2.sequence) = [6, 7] ∧
      (∀ k : SequenceKey, (log.core.sessionAt Sample.session).sequences[k]? =
        greatest log.sequenced k) ∧
      ∀ k : StateKey, (log.core.sessionAt Sample.session).state[k]? = latest log.stored k := by
  have htables := run_tables Sample.initial Sample.emitted Sample.session
  exact ⟨by decide +kernel, by decide +kernel, htables.2.1, htables.2.2.1⟩

end Signalweave
