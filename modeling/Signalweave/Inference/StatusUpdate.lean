import Signalweave.Core.Replays
import Signalweave.Inference.Coordinator
import Signalweave.Library.Optimistic
import Signalweave.Transport.Relay
import Signalweave.Transport.Replies

/-!
# The status tool (`demo::StatusUpdateTool`)

A call of the tool compares the revision that its proposal expects with the stored one, publishes
the arguments under the next revision and then stores that. Calls go on next to each other, and
between any two of these steps others may come. What keeps an update from being lost is the sequence
table of the core: of two calls that have seen the same revision only one gets its publication
accepted.
-/

open Std

namespace Signalweave.Inference

open Stateful Transport WovenCore KeyedLog

/-! ## The tool -/

/-- `STATUS_COMPONENT`. -/
def statusComponent : Nat := 1

/-- The tool: its channel and the revision it has stored. -/
structure StatusUpdateTool where
  channel : ChannelId
  revision : Nat := 1

/-- What `publish_latest_value` has the worker publish. -/
def publishLatestValue (context : ToolInvocationContext) (channel : ChannelId) (component : Nat)
    (sequence : Nat) (payload : List UInt8) : PublishRequest where
  connection := context.connection
  session := context.space.session
  space := context.space.space
  spaceEpoch := context.spaceEpoch
  entity := some context.entity
  channel
  sequence
  delivery := .latestValue
  persistence := .stateful
  coalesceKey := some { channel, entity := some context.entity, component }
  payload

/-- Where a call of `invoke` is: its publication awaited, its revision to be stored, or over. -/
inductive InvokePhase where
  | publishing (next : Nat)
  | storing (next : Nat)
  | ended (outcome : ToolCallOutcome)
  deriving DecidableEq

namespace StatusUpdateTool

/-- `invoke` up to its publication. The revision is a `u64`. -/
def load (tool : StatusUpdateTool) (proposal : ToolCallProposal) : InvokePhase :=
  let current := tool.revision
  if proposal.expectedRevision ≠ current then
    .ended (.rejected .stale ("expected_revision " ++ toString proposal.expectedRevision ++
      " does not match current revision " ++ toString current))
  else
    .publishing ((current + 1) % 2 ^ 64)

/-- The publication of a new status. -/
def request (tool : StatusUpdateTool) (context : ToolInvocationContext) (next : Nat)
    (proposal : ToolCallProposal) : PublishRequest :=
  publishLatestValue context tool.channel statusComponent next proposal.arguments

end StatusUpdateTool

/-- `invoke` once its publication has been answered. -/
def answered (next : Nat) : Except TransportError Unit → InvokePhase
  | .ok () => .storing next
  | .error error => .ended (.rejected .policyDenied error.text)

/-- The outcome of `invoke` once it has stored the revision. -/
def statusUpdated (next : Nat) : ToolCallOutcome := .completed next "status updated".toUTF8.toList

/-! ## Calls next to each other -/

/-- A call of the tool: its proposal, and how far it has come. -/
structure InvokeCall where
  proposal : ToolCallProposal
  phase : InvokePhase
  deriving DecidableEq

/-- A publication of the tool that the core has accepted, with what the authority of the channel has
answered to it. -/
structure PublishedUpdate where
  call : Nat
  proposal : ToolCallProposal
  newRevision : Nat
  answer : Except CoreError AuthorityOutcome

/-- The authority has moved the publication to another component. -/
def PublishedUpdate.renamed (update : PublishedUpdate) : Bool :=
  match update.answer with
  | .ok (.transform transformed) => coalesceComponent transformed.coalesceKey != statusComponent
  | _ => false

/-- What the authority has made of the arguments: it takes them as they are or puts a payload in
their place. What it emits in their place may be about anything. -/
def PublishedUpdate.record (update : PublishedUpdate) : Option StateRecord :=
  match update.answer with
  | .ok .accept => some { sequence := update.newRevision, payload := update.proposal.arguments }
  | .ok (.transform transformed) =>
    some { sequence := update.newRevision, payload := transformed.payload }
  | _ => none

/-- The core and one tool with all its calls; beside them the accepted publications, in order. -/
structure Updating where
  core : WovenCore
  tool : StatusUpdateTool
  calls : List InvokeCall := []
  published : List PublishedUpdate := []

/-- What happens next: a call begins, its publication comes to the worker or is lost with it, it
stores its revision; or something else happens to the core. -/
inductive UpdateInput where
  | invoke (proposal : ToolCallProposal)
  | publish (index : Nat) (now : Instant) (call : Nat) (clock : ReleaseClock)
  | lose (index : Nat)
  | store (index : Nat)
  | other (op : Op)

namespace Updating

/-- What is written down of a publication that is accepted. -/
def update (context : ToolInvocationContext) (state : Updating) (index : Nat)
    (proposal : ToolCallProposal) (next call : Nat) : PublishedUpdate where
  call := index
  proposal
  newRevision := next
  answer := state.core.authorityAnswer (state.tool.request context next proposal) call

/-- The publication of a call at the worker. -/
def publish (context : ToolInvocationContext) (state : Updating) (index : Nat)
    (proposal : ToolCallProposal) (next : Nat) (now : Instant) (call : Nat) (clock : ReleaseClock) :
    Updating :=
  match publishAt (state.tool.request context next proposal) now call clock state.core with
  | .ok _ core =>
    { state with
      core
      calls := state.calls.set index { proposal, phase := answered next (.ok ()) }
      published := state.published ++ [state.update context index proposal next call] }
  | .error error core =>
    { state with
      core
      calls := state.calls.set index { proposal, phase := answered next (.error (.core error)) } }

/-- A call begins or goes on, or somebody else does something to the core. -/
def step (context : ToolInvocationContext) (state : Updating) : UpdateInput → Updating
  | .invoke proposal =>
    { state with calls := state.calls ++ [{ proposal, phase := state.tool.load proposal }] }
  | .publish index now call clock =>
    match state.calls[index]? with
    | some { proposal, phase := .publishing next } =>
      state.publish context index proposal next now call clock
    | _ => state
  | .lose index =>
    match state.calls[index]? with
    | some { proposal, phase := .publishing next } =>
      { state with
        calls := state.calls.set index
          { proposal, phase := answered next (.error .workerUnavailable) } }
    | _ => state
  | .store index =>
    match state.calls[index]? with
    | some { proposal, phase := .storing next } =>
      { state with
        tool := { state.tool with revision := next }
        calls := state.calls.set index { proposal, phase := .ended (statusUpdated next) } }
    | _ => state
  | .other op => { state with core := Signalweave.step state.core op }

end Updating

/-- `StatusUpdateTool::new`, beside a core. -/
def Updating.new (core : WovenCore) (channel : ChannelId) : Updating where
  core
  tool := { channel }

/-- The call has completed with this revision. -/
def Updating.Completes (state : Updating) (index : Nat) (proposal : ToolCallProposal)
    (newRevision : Nat) : Prop :=
  ∃ result, state.calls[index]? =
    some { proposal, phase := .ended (.completed newRevision result) }

/-- The entity of the context is in its incarnation of the space, and the connection's own. -/
structure ToolInvocationContext.Stays (context : ToolInvocationContext) (core : WovenCore) :
    Prop where
  installed : (core.sessionAt context.space.session).Installed context.space.space
    context.spaceEpoch
  entity : ∃ record,
    (core.sessionAt context.space.session).entities[context.entity]? = some record ∧
      record.space = context.space.space ∧ record.ownerConnection = context.connection

theorem ToolInvocationContext.stays_iff {context : ToolInvocationContext} {core : WovenCore} :
    (core.sessionAt context.space.session).hasScope context.space.space context.spaceEpoch none =
        true ∧
      ((core.sessionAt context.space.session).entities[context.entity]?).any (fun record =>
        record.space = context.space.space ∧ record.ownerConnection = context.connection) = true ↔
      context.Stays core := by
  rw [SessionState.hasScope_iff, Option.any_eq_true]
  constructor
  · rintro ⟨hscope, record, hrecord, howned⟩
    exact ⟨hscope.1, record, hrecord, of_decide_eq_true howned⟩
  · rintro ⟨hinstalled, record, hrecord, howned⟩
    exact ⟨⟨hinstalled, nofun⟩, record, hrecord, decide_eq_true howned⟩

instance {context : ToolInvocationContext} {core : WovenCore} : Decidable (context.Stays core) :=
  decidable_of_iff _ context.stays_iff

/-- The state record of the tool. -/
def ToolInvocationContext.statusKey (context : ToolInvocationContext) (channel : ChannelId) :
    StateKey where
  space := context.space.space
  spaceEpoch := context.spaceEpoch
  entity := some context.entity
  channel
  component := statusComponent

/-- The entry of the tool in the sequence table. -/
def ToolInvocationContext.statusSequence (context : ToolInvocationContext) (channel : ChannelId) :
    SequenceKey where
  connection := context.connection
  space := context.space.space
  spaceEpoch := context.spaceEpoch
  entity := some context.entity
  channel
  component := statusComponent

variable {context : ToolInvocationContext} {state state' : Updating}

/-! ## The tool as an optimistic writer -/

/-- How the tool counts its revisions. -/
def revisions : Optimistic.Numbering where
  first := 1
  next version := (version + 1) % 2 ^ 64
  next_le _ := Nat.mod_le _ _
  next_first := rfl

/-- A call, seen as an attempt. -/
def InvokePhase.attempted : InvokePhase → Optimistic.Phase
  | .publishing next => .loaded next
  | .storing next => .published next
  | .ended (.completed newRevision _) => .stored newRevision
  | .ended (.rejected ..) => .failed

/-- The call as an attempt to raise the revision. -/
def InvokeCall.attempt (call : InvokeCall) : Optimistic.Attempt where
  base := call.proposal.expectedRevision
  phase := call.phase.attempted

/-- The published update as an attempt that has got through. -/
def PublishedUpdate.passed (update : PublishedUpdate) : Optimistic.Passed where
  attempt := update.call
  base := update.proposal.expectedRevision
  version := update.newRevision

/-- The revisions of the tool as an optimistic register. -/
def Updating.register (state : Updating) : Optimistic.Register where
  version := state.tool.revision
  attempts := state.calls.map InvokeCall.attempt
  passed := state.published.map PublishedUpdate.passed

/-! ## What a step can do -/

/-- The steps, with what each of them has found. -/
inductive Stepped (context : ToolInvocationContext) (state : Updating) :
    UpdateInput → Updating → Prop
  | invoke (proposal : ToolCallProposal) : Stepped context state (.invoke proposal)
      { state with calls := state.calls ++ [{ proposal, phase := state.tool.load proposal }] }
  | accept {index : Nat} {proposal : ToolCallProposal} {next : Nat} {now : Instant} {call : Nat}
      {clock : ReleaseClock} {outcome : PublishOutcome} {core : WovenCore}
      (hat : state.calls[index]? = some { proposal, phase := .publishing next })
      (hreturns : Returns (publishAt (state.tool.request context next proposal) now call clock)
        state.core outcome core) :
      Stepped context state (.publish index now call clock) { state with
        core
        calls := state.calls.set index { proposal, phase := .storing next }
        published := state.published ++ [state.update context index proposal next call] }
  | refuse {index : Nat} {proposal : ToolCallProposal} {next : Nat} {now : Instant} {call : Nat}
      {clock : ReleaseClock} {error : CoreError} {core : WovenCore}
      (hat : state.calls[index]? = some { proposal, phase := .publishing next })
      (hfails : Fails (publishAt (state.tool.request context next proposal) now call clock)
        state.core error core) :
      Stepped context state (.publish index now call clock) { state with
        core
        calls := state.calls.set index
          { proposal, phase := answered next (.error (.core error)) } }
  | lose {index : Nat} {proposal : ToolCallProposal} {next : Nat}
      (hat : state.calls[index]? = some { proposal, phase := .publishing next }) :
      Stepped context state (.lose index) { state with
        calls := state.calls.set index
          { proposal, phase := answered next (.error .workerUnavailable) } }
  | store {index : Nat} {proposal : ToolCallProposal} {next : Nat}
      (hat : state.calls[index]? = some { proposal, phase := .storing next }) :
      Stepped context state (.store index) { state with
        tool := { state.tool with revision := next }
        calls := state.calls.set index { proposal, phase := .ended (statusUpdated next) } }
  | other (op : Op) : Stepped context state (.other op)
      { state with core := Signalweave.step state.core op }
  | idle (input : UpdateInput) : Stepped context state input state

theorem step_stepped (input : UpdateInput) :
    Stepped context state input (state.step context input) := by
  cases input with
  | invoke proposal => exact .invoke proposal
  | publish index now call clock =>
    unfold Updating.step
    dsimp only
    split
    · rename_i proposal next hat
      unfold Updating.publish
      rcases returns_or_fails (publishAt (state.tool.request context next proposal) now call clock)
        state.core with ⟨outcome, h⟩ | ⟨error, h⟩
      · rw [show publishAt _ now call clock state.core = .ok outcome _ from h]
        exact .accept hat h
      · rw [show publishAt _ now call clock state.core = .error error _ from h]
        exact .refuse hat h
    · exact .idle _
  | lose index =>
    unfold Updating.step
    dsimp only
    split
    · rename_i hat
      exact .lose hat
    · exact .idle _
  | store index =>
    unfold Updating.step
    dsimp only
    split
    · rename_i hat
      exact .store hat
    · exact .idle _
  | other op => exact .other op

/-! ## What lasts while the entity stays -/

variable {core core' : WovenCore} {channel : ChannelId} {log : PublishLog}
  {published : List PublishedUpdate}

theorem ToolInvocationContext.Stays.inScope (h : context.Stays core) :
    (core.sessionAt context.space.session).InScope context.space.space context.spaceEpoch
      (some context.entity) := by
  refine ⟨h.installed, ?_⟩
  rintro _ ⟨⟩
  obtain ⟨record, hrecord, hspace, -⟩ := h.entity
  exact ⟨record, hrecord, hspace⟩

theorem ToolInvocationContext.Stays.holdsState (h : context.Stays core) :
    (core.sessionAt context.space.session).holdsState (context.statusKey channel) = true :=
  SessionState.holdsState_iff.mpr h.inScope

theorem ToolInvocationContext.Stays.holdsSequence (h : context.Stays core) (hsound : core.Sound) :
    (core.sessionAt context.space.session).holdsSequence (context.statusSequence channel) =
      true := by
  refine SessionState.holdsSequence_iff.mpr ⟨?_, h.inScope⟩
  obtain ⟨record, hrecord, -, howner⟩ := h.entity
  have hmember := (hsound.consistent.session context.space.session).owners _ record hrecord
  rw [howner] at hmember
  exact hmember

/-- The log has the revisions that the core has accepted from the tool. -/
structure Recorded (context : ToolInvocationContext) (channel : ChannelId)
    (published : List PublishedUpdate) (log : PublishLog) : Prop where
  kept : log.Kept context.space.session
  numbers : ∀ update ∈ published,
    (context.statusSequence channel, update.newRevision) ∈ log.sequenced

namespace Recorded

/-- An operation forgets none of them as long as the entity stays. -/
theorem step (h : Recorded context channel published log) {op : Op}
    {more : List PublishedUpdate} (hstays : context.Stays (Signalweave.step log.core op))
    (hmore : ∀ update ∈ more, (context.statusSequence channel, update.newRevision) ∈
      op.sequenced log.core context.space.session) :
    Recorded context channel (published ++ more) (log.step context.space.session op) := by
  have hkept := h.kept.step op
  refine ⟨hkept, fun update hin => List.mem_filter.mpr ⟨?_, hstays.holdsSequence hkept.sound⟩⟩
  rcases List.mem_append.mp hin with hold | hnew
  · exact List.mem_append_left _ (h.numbers update hold)
  · exact List.mem_append_right _ (hmore update hnew)

theorem step_nothing (h : Recorded context channel published log) {op : Op}
    (hstays : context.Stays (Signalweave.step log.core op)) :
    Recorded context channel published (log.step context.space.session op) := by
  have hstep : Recorded context channel (published ++ []) (log.step context.space.session op) :=
    h.step hstays nofun
  rwa [List.append_nil] at hstep

/-- A publication that is accepted is past all those before. -/
theorem fresh (h : Recorded context channel published log) {next : Nat}
    (hfresh : ∀ last, (log.core.sessionAt context.space.session).sequences[
      context.statusSequence channel]? = some last → last < next) :
    ∀ update ∈ published, update.newRevision < next := by
  intro update hin
  obtain ⟨last, hlast, hle⟩ := le_greatest (h.numbers update hin)
  exact Nat.lt_of_le_of_lt hle (hfresh last ((h.kept.explains.sequences _).trans hlast))

end Recorded

section Accepted

variable {proposal : ToolCallProposal} {next : Nat} {now : Instant} {call : Nat}
  {clock : ReleaseClock} {outcome : PublishOutcome}

/-- What the core says of an accepted publication of the tool. -/
theorem update_accepted (index : Nat) (hsound : state.core.Sound)
    (h : Returns (publishAt (state.tool.request context next proposal) now call clock) state.core
      outcome core) :
    (∀ last, (state.core.sessionAt context.space.session).sequences[
        context.statusSequence state.tool.channel]? = some last → last < next) ∧
      ((state.update context index proposal next call).renamed = false →
        (context.statusSequence state.tool.channel, next) ∈
          Op.sequenced state.core context.space.session
            (.publishAt (state.tool.request context next proposal) now call clock)) := by
  obtain ⟨plan, hplan, -⟩ := publishes_of_returns hsound h
  have hrequested : { key := context.statusSequence state.tool.channel, sequence := next
                      renamed := (state.update context index proposal next call).renamed } ∈
      Op.requested state.core context.space.session
        (.publishAt (state.tool.request context next proposal) now call clock) := by
    rw [Op.requested, if_pos ⟨rfl, by rw [hplan]; rfl⟩]
    refine List.mem_singleton.mpr ?_
    congr 1
    unfold PublishedUpdate.renamed Updating.update
    dsimp only
    cases state.core.authorityAnswer (state.tool.request context next proposal) call with
    | error => rfl
    | ok answer => cases answer <;> rfl
  exact RequestLog.mem_requested hsound hrequested

end Accepted

/-! ## Steps -/

theorem register_attempt {index : Nat} {call : InvokeCall} (hat : state.calls[index]? = some call) :
    state.register.attempts[index]? = some call.attempt := by
  rw [Updating.register, List.getElem?_map, hat, Option.map_some]

/-- A call keeps its proposal. -/
theorem getElem?_set_call {calls : List InvokeCall} {i index : Nat} {old new : InvokeCall}
    {proposal : ToolCallProposal} {phase : InvokePhase} (hat : calls[index]? = some old)
    (hsame : new.proposal = old.proposal) (h : calls[i]? = some { proposal, phase }) :
    ∃ phase', (calls.set index new)[i]? = some { proposal, phase := phase' } := by
  by_cases hi : i = index
  · subst hi
    obtain rfl := Option.some.inj (hat.symm.trans h)
    obtain rfl : new.proposal = proposal := hsame
    exact ⟨new.phase, (Optimistic.getElem?_set_iff hat).mpr (.inl ⟨rfl, rfl⟩)⟩
  · exact ⟨phase, (Optimistic.getElem?_set_iff hat).mpr (.inr ⟨hi, h⟩)⟩

/-- What holds of the tool beside the core: the log of the core has its revisions, its register is
in order, and a publication is that of the call it names. -/
structure Updating.Tracked (context : ToolInvocationContext) (state : Updating) : Prop where
  recorded : ∃ log : PublishLog, log.core = state.core ∧
    Recorded context state.tool.channel state.published log
  valid : Optimistic.Valid revisions state.register
  calls : ∀ update ∈ state.published, ∃ phase,
    state.calls[update.call]? = some { proposal := update.proposal, phase }

theorem Updating.Tracked.sound (h : state.Tracked context) : state.core.Sound := by
  obtain ⟨log, hcore, hrecorded⟩ := h.recorded
  rw [← hcore]
  exact hrecorded.kept.sound

namespace Stepped

variable {input : UpdateInput}

theorem calls_kept (h : Stepped context state input state') {i : Nat}
    {proposal : ToolCallProposal} {phase : InvokePhase}
    (hat : state.calls[i]? = some { proposal, phase }) :
    ∃ phase', state'.calls[i]? = some { proposal, phase := phase' } := by
  cases h with
  | invoke => exact ⟨phase, Optimistic.getElem?_concat_iff.mpr (.inl hat)⟩
  | accept hold | refuse hold | lose hold | store hold => exact getElem?_set_call hold rfl hat
  | other | idle => exact ⟨phase, hat⟩

/-- A publication that a step brings is that of a call that was there before. -/
theorem published_of (h : Stepped context state input state') {update : PublishedUpdate}
    (hin : update ∈ state'.published) : update ∈ state.published ∨
      ∃ phase, state.calls[update.call]? = some { proposal := update.proposal, phase } := by
  cases h with
  | accept hat =>
    rcases List.mem_append.mp hin with hold | hnew
    · exact .inl hold
    · obtain rfl := List.mem_singleton.mp hnew
      exact .inr ⟨_, hat⟩
  | _ => exact .inl hin

theorem published_kept (h : Stepped context state input state') :
    ∀ update ∈ state.published, update ∈ state'.published := by
  cases h with
  | accept => exact fun _ => List.mem_append_left _
  | _ => exact fun _ hin => hin

/-- Every step of the tool is one of an optimistic writer. The core is the gate: it refuses what is
not past the revisions before. -/
theorem simulates (h : Stepped context state input state') (htracked : state.Tracked context) :
    Optimistic.Step revisions state.register state'.register := by
  cases h with
  | invoke proposal =>
    simp only [Updating.register, List.map_append, List.map_singleton]
    unfold StatusUpdateTool.load InvokeCall.attempt
    dsimp only
    split
    · exact .miss
    · rename_i hcurrent
      rw [not_not.mp hcurrent]
      exact .load
  | @accept index proposal next now call clock outcome core hat hreturns =>
    have hgate : state.register.Admits next := by
      intro passed hin
      obtain ⟨update, hupdate, rfl⟩ := List.mem_map.mp hin
      obtain ⟨log, hcore, hrecorded⟩ := htracked.recorded
      refine hrecorded.fresh ?_ update hupdate
      rw [hcore]
      exact (update_accepted index htracked.sound hreturns).1
    simp only [Updating.register, List.map_set, List.map_append, List.map_singleton]
    exact .publish (register_attempt hat) hgate
  | refuse hat | lose hat =>
    simp only [Updating.register, List.map_set]
    exact .refuse (register_attempt hat)
  | store hat =>
    simp only [Updating.register, List.map_set]
    exact .store (register_attempt hat)
  | other | idle => exact .idle

/-- The log after a step that leaves the entity where it is. -/
theorem recorded (h : Stepped context state input state') (htracked : state.Tracked context)
    (hstays : context.Stays state'.core)
    (hplain : ∀ update ∈ state'.published, update.renamed = false) :
    ∃ log : PublishLog, log.core = state'.core ∧
      Recorded context state'.tool.channel state'.published log := by
  obtain ⟨log, hcore, hrecorded⟩ := htracked.recorded
  cases h with
  | invoke | lose | store | idle => exact ⟨log, hcore, hrecorded⟩
  | @accept index proposal next now call clock outcome core hat hreturns =>
    rw [← hcore] at hreturns
    have hstep := step_of_returns hreturns
    refine ⟨_, hstep, hrecorded.step (hstep ▸ hstays) fun update hin => ?_⟩
    obtain rfl := List.mem_singleton.mp hin
    rw [hcore] at hreturns ⊢
    exact (update_accepted index htracked.sound hreturns).2
      (hplain _ (List.mem_append_right _ List.mem_cons_self))
  | @refuse index proposal next now call clock error core hat hfails =>
    rw [← hcore] at hfails
    have hstep := step_of_fails hfails
    exact ⟨_, hstep, hrecorded.step_nothing (hstep ▸ hstays)⟩
  | other op =>
    have hstep : Signalweave.step log.core op = Signalweave.step state.core op := by rw [hcore]
    exact ⟨_, hstep, hrecorded.step_nothing (hstep ▸ hstays)⟩

theorem tracked (h : Stepped context state input state') (htracked : state.Tracked context)
    (hstays : context.Stays state'.core)
    (hplain : ∀ update ∈ state'.published, update.renamed = false) :
    state'.Tracked context where
  recorded := h.recorded htracked hstays hplain
  valid := htracked.valid.step (h.simulates htracked)
  calls update hin := by
    rcases h.published_of hin with hold | ⟨phase, hat⟩
    · obtain ⟨phase, hat⟩ := htracked.calls update hold
      exact h.calls_kept hat
    · exact h.calls_kept hat

end Stepped

/-! ## The record -/

/-- The record of the tool is what the authority has made of the last accepted publication. -/
def Updating.Shows (context : ToolInvocationContext) (state : Updating) : Prop :=
  ∀ update record, state.published.getLast? = some update → update.record = some record →
    (state.core.sessionAt context.space.session).state[
      context.statusKey state.tool.channel]? = some record

/-- What else happens to the core stores nothing in the place of the record. -/
def UpdateInput.leavesRecord (context : ToolInvocationContext) (state : Updating) :
    UpdateInput → Prop
  | .other op => ∀ entry ∈ op.stored state.core context.space.session,
    entry.1 ≠ context.statusKey state.tool.channel
  | _ => True

instance {input : UpdateInput} : Decidable (input.leavesRecord context state) :=
  match input with
  | .other op => inferInstanceAs (Decidable (∀ entry ∈ op.stored state.core context.space.session,
    entry.1 ≠ context.statusKey state.tool.channel))
  | .invoke _ | .publish .. | .lose _ | .store _ => inferInstanceAs (Decidable True)

theorem Recorded.state_step (h : Recorded context channel published log) {op : Op}
    (hstays : context.Stays (Signalweave.step log.core op)) :
    ((Signalweave.step log.core op).sessionAt context.space.session).state[
        context.statusKey channel]? =
      (latest (op.stored log.core context.space.session) (context.statusKey channel)).or
        (log.core.sessionAt context.space.session).state[context.statusKey channel]? := by
  have hstate := (h.kept.step op).explains.state (context.statusKey channel)
  rw [PublishLog.step, latest_filter, if_pos hstays.holdsState, latest_append,
    ← h.kept.explains.state] at hstate
  exact hstate

/-- What an accepted publication stores. -/
theorem update_stored {index : Nat} {proposal : ToolCallProposal} {next : Nat} {now : Instant}
    {call : Nat} {clock : ReleaseClock} {outcome : PublishOutcome} {record : StateRecord}
    (hsound : state.core.Sound)
    (h : Returns (publishAt (state.tool.request context next proposal) now call clock) state.core
      outcome core)
    (hplain : (state.update context index proposal next call).renamed = false)
    (hrecord : (state.update context index proposal next call).record = some record) :
    latest (Op.stored state.core context.space.session
      (.publishAt (state.tool.request context next proposal) now call clock))
        (context.statusKey state.tool.channel) = some record := by
  obtain ⟨plan, hplan, hpublishes⟩ := publishes_of_returns hsound h
  obtain ⟨answer, authorized, hanswer, hauthorized, hmessages, -⟩ :=
    planPublish_answer hpublishes.planned
  have hsession : (state.tool.request context next proposal).session = context.space.session := rfl
  rw [Op.stored, if_pos hsession, hplan, Option.elim_some, hmessages]
  unfold Updating.update PublishedUpdate.renamed at hplain
  unfold Updating.update PublishedUpdate.record at hrecord
  rw [hanswer] at hplain hrecord
  cases answer with
  | accept =>
    obtain rfl := Except.ok.inj hauthorized
    obtain rfl := Option.some.inj hrecord
    exact latest_singleton.trans (if_pos rfl)
  | transform transformed =>
    obtain rfl := Except.ok.inj hauthorized
    obtain rfl := Option.some.inj hrecord
    have hcomponent : coalesceComponent transformed.coalesceKey = statusComponent := by
      simpa using hplain
    refine latest_singleton.trans (if_pos ?_)
    simp only [stateKey, hcomponent]
    rfl
  | reject | emit => cases hrecord

theorem Stepped.shows {input : UpdateInput} (h : Stepped context state input state')
    (htracked : state.Tracked context) (hshows : state.Shows context)
    (hstays : context.Stays state'.core)
    (hplain : ∀ update ∈ state'.published, update.renamed = false)
    (hleaves : input.leavesRecord context state) : state'.Shows context := by
  cases h with
  | invoke | lose | store | idle => exact hshows
  | @accept index proposal next now call clock outcome core hat hreturns =>
    obtain ⟨log, hcore, hrecorded⟩ := htracked.recorded
    have hstep := step_of_returns hreturns
    intro update record hlast hrecord
    rw [List.getLast?_concat] at hlast
    obtain rfl := Option.some.inj hlast
    have hstored := update_stored htracked.sound hreturns
      (hplain _ (List.mem_append_right _ List.mem_cons_self)) hrecord
    have hafter : context.Stays (Signalweave.step log.core
        (.publishAt (state.tool.request context next proposal) now call clock)) := by
      rw [hcore, hstep]
      exact hstays
    have hstate := hrecorded.state_step hafter
    rw [hcore, hstep, hstored, Option.some_or] at hstate
    exact hstate
  | refuse hat hfails =>
    intro update record hlast hrecord
    rw [← hshows update record hlast hrecord]
    rcases publishAt_refused htracked.sound hfails with rfl | ⟨limiter, rfl⟩ <;> rfl
  | other op =>
    obtain ⟨log, hcore, hrecorded⟩ := htracked.recorded
    intro update record hlast hrecord
    have hafter : context.Stays (Signalweave.step log.core op) := by
      rw [hcore]
      exact hstays
    have hstate := hrecorded.state_step hafter
    have hnone : latest (op.stored state.core context.space.session)
        (context.statusKey state.tool.channel) = none :=
      latest_eq_none.mpr fun value hin => hleaves _ hin rfl
    rw [hcore, hnone, Option.none_or, hshows update record hlast hrecord] at hstate
    exact hstate

/-! ## Channels that the relay owns -/

/-- What a relay-owned channel accepts it takes as it is. -/
theorem update_relayed {index : Nat} {proposal : ToolCallProposal} {next : Nat} {now : Instant}
    {call : Nat} {clock : ReleaseClock} {outcome : PublishOutcome} {definition : ChannelDefinition}
    (hsound : state.core.Sound)
    (hchannel : state.core.channels[state.tool.channel]? = some definition)
    (hauthority : definition.authority = relayOwned)
    (h : Returns (publishAt (state.tool.request context next proposal) now call clock) state.core
      outcome core) :
    (state.update context index proposal next call).answer = .ok .accept := by
  obtain ⟨plan, -, hpublishes⟩ := publishes_of_returns hsound h
  obtain ⟨answer, authorized, hanswer, hauthorized, -⟩ := planPublish_answer hpublishes.planned
  refine hanswer.trans (congrArg Except.ok ?_)
  simp only [authorityAnswer, Except.bind_eq_ok, Except.pure_eq_ok] at hanswer
  obtain ⟨⟨principal, found⟩, hcheck, rfl⟩ := hanswer
  obtain ⟨-, -, -, hfound, -⟩ := checkPublish_eq_ok hcheck
  obtain rfl := Option.some.inj (hchannel.symm.trans hfound)
  rw [hauthority] at hauthorized ⊢
  rcases relayOwned_evaluate call
    (state.core.authorityContext (state.tool.request context next proposal) principal)
    (proposedMessage (state.tool.request context next proposal)) with haccept | ⟨reason, hreject⟩
  · exact haccept
  · rw [hreject] at hauthorized
    cases hauthorized

/-- The tool publishes on this channel, and so far what it published has been taken as it is. -/
structure Updating.Relays (definition : ChannelDefinition) (state : Updating) : Prop where
  sound : state.core.Sound
  channel : state.core.channels[state.tool.channel]? = some definition
  answers : ∀ update ∈ state.published, update.answer = .ok .accept

theorem Stepped.relays {input : UpdateInput} {definition : ChannelDefinition}
    (h : Stepped context state input state') (hauthority : definition.authority = relayOwned)
    (hrelays : state.Relays definition) : state'.Relays definition := by
  cases h with
  | invoke | lose | store | idle => exact ⟨hrelays.sound, hrelays.channel, hrelays.answers⟩
  | @accept index proposal next now call clock outcome core hat hreturns =>
    have hstep := step_of_returns hreturns
    refine ⟨hstep ▸ sound_step hrelays.sound _,
      hstep ▸ channels_step hrelays.sound _ hrelays.channel, fun update hin => ?_⟩
    rcases List.mem_append.mp hin with hold | hnew
    · exact hrelays.answers update hold
    · obtain rfl := List.mem_singleton.mp hnew
      exact update_relayed hrelays.sound hrelays.channel hauthority hreturns
  | refuse hat hfails =>
    have hstep := step_of_fails hfails
    exact ⟨hstep ▸ sound_step hrelays.sound _,
      hstep ▸ channels_step hrelays.sound _ hrelays.channel, hrelays.answers⟩
  | other op =>
    exact ⟨sound_step hrelays.sound op, channels_step hrelays.sound op hrelays.channel,
      hrelays.answers⟩

/-! ## Whole runs -/

/-- No update is lost: of the calls that expect one revision at most one completes, and the accepted
publications, which are those of the completed calls and of the calls about to complete, have
increasing revisions. -/
structure Updating.Ordered (state : Updating) : Prop where
  once : ∀ i j proposal proposal' newRevision newRevision',
    state.Completes i proposal newRevision → state.Completes j proposal' newRevision' →
      proposal.expectedRevision = proposal'.expectedRevision → i = j
  increasing : state.published.Pairwise fun first second => first.newRevision < second.newRevision
  completed : ∀ i proposal newRevision, state.Completes i proposal newRevision →
    ∃ update ∈ state.published, update.call = i ∧ update.proposal = proposal ∧
      update.newRevision = newRevision
  published : ∀ update ∈ state.published,
    state.Completes update.call update.proposal update.newRevision ∨
      state.calls[update.call]? =
        some { proposal := update.proposal, phase := .storing update.newRevision }

namespace Updating

theorem Completes.attempt {i newRevision : Nat} {proposal : ToolCallProposal}
    (h : state.Completes i proposal newRevision) :
    state.register.attempts[i]? = some ⟨proposal.expectedRevision, .stored newRevision⟩ := by
  obtain ⟨result, hat⟩ := h
  exact register_attempt hat

theorem Tracked.ordered (h : state.Tracked context) : state.Ordered where
  once i j proposal proposal' newRevision newRevision' hi hj hsame := by
    have hattempt := hj.attempt
    rw [← hsame] at hattempt
    exact h.valid.attempt_unique hi.attempt hattempt (.inr rfl) (.inr rfl)
  increasing := by
    have hpassed : (state.published.map PublishedUpdate.passed).Pairwise fun first second =>
      first.version < second.version := h.valid.increasing
    have hpublished := List.pairwise_map.mp hpassed
    exact hpublished
  completed i proposal newRevision hi := by
    obtain ⟨update, hin, heq⟩ := List.mem_map.mp (h.valid.entry hi.attempt (.inr rfl))
    obtain ⟨rfl, -, rfl⟩ := Optimistic.Passed.mk.inj heq
    obtain ⟨phase, hphase⟩ := h.calls update hin
    obtain ⟨result, hat⟩ := hi
    exact ⟨update, hin, rfl,
      congrArg InvokeCall.proposal (Option.some.inj (hphase.symm.trans hat)), rfl⟩
  published update hin := by
    obtain ⟨phase, hat⟩ := h.calls update hin
    have hplaced := h.valid.placed update.passed (List.mem_map_of_mem hin)
    rw [show update.passed.attempt = update.call from rfl, register_attempt hat] at hplaced
    have hphase : phase.attempted = state.register.placed update.newRevision :=
      congrArg Optimistic.Attempt.phase (Option.some.inj hplaced)
    unfold Optimistic.Register.placed at hphase
    split at hphase
    · cases phase with
      | ended outcome =>
        cases outcome with
        | completed newRevision result =>
          obtain rfl := Optimistic.Phase.stored.inj hphase
          exact .inl ⟨result, hat⟩
        | rejected => cases hphase
      | _ => cases hphase
    · cases phase with
      | storing next =>
        obtain rfl := Optimistic.Phase.published.inj hphase
        exact .inr hat
      | ended outcome => cases outcome <;> cases hphase
      | publishing => cases hphase

/-- What has been published stays on the list. -/
theorem mem_published_run (inputs : List UpdateInput) {update : PublishedUpdate}
    (hin : update ∈ state.published) :
    update ∈ (Transition.run (Updating.step context) state inputs).published :=
  Transition.run_invariant (P := fun state : Updating => update ∈ state.published)
    (fun _ input h => (step_stepped input).published_kept _ h) hin inputs

/-- The entity stays where it is, whatever the input does. -/
def Keeps (context : ToolInvocationContext) (state : Updating) (input : UpdateInput) : Prop :=
  context.Stays (state.step context input).core

instance {input : UpdateInput} : Decidable (Keeps context state input) :=
  inferInstanceAs (Decidable (context.Stays _))

theorem Tracked.run (h : state.Tracked context) {inputs : List UpdateInput}
    (hstays : Transition.Meets (Updating.step context) (Keeps context) state inputs)
    (hplain : ∀ update ∈ (Transition.run (Updating.step context) state inputs).published,
      update.renamed = false) :
    (Transition.run (Updating.step context) state inputs).Tracked context ∧
      Transition.Always (Updating.step context) (fun earlier => earlier.tool.revision ≤
        (Transition.run (Updating.step context) state inputs).tool.revision) state inputs := by
  induction inputs generalizing state with
  | nil => exact ⟨h, Nat.le_refl _⟩
  | cons input rest ih =>
    have hstep : Stepped context state input (state.step context input) := step_stepped input
    have hnext := hstep.tracked h hstays.1 fun update hin =>
      hplain update (mem_published_run rest hin)
    obtain ⟨hlast, halways⟩ := ih hnext hstays.2 hplain
    refine ⟨hlast, Nat.le_trans (h.valid.step_le (hstep.simulates h)) ?_, halways⟩
    exact halways.head

theorem Shows.run (h : state.Shows context) (htracked : state.Tracked context)
    {inputs : List UpdateInput}
    (hstays : Transition.Meets (Updating.step context) (Keeps context) state inputs)
    (hplain : ∀ update ∈ (Transition.run (Updating.step context) state inputs).published,
      update.renamed = false)
    (hleaves : Transition.Meets (Updating.step context)
      (fun state input => input.leavesRecord context state) state inputs) :
    (Transition.run (Updating.step context) state inputs).Shows context := by
  induction inputs generalizing state with
  | nil => exact h
  | cons input rest ih =>
    have hstep : Stepped context state input (state.step context input) := step_stepped input
    have hnext : ∀ update ∈ (state.step context input).published, update.renamed = false :=
      fun update hin => hplain update (mem_published_run rest hin)
    exact ih (hstep.shows htracked h hstays.1 hnext hleaves.1)
      (hstep.tracked htracked hstays.1 hnext) hstays.2 hplain hleaves.2

theorem tracked_new (hreach : Reachable core) : (Updating.new core channel).Tracked context where
  recorded := by
    obtain ⟨start, ops, hinitial, rfl⟩ := hreach
    refine ⟨Transition.run (PublishLog.step context.space.session) { core := start } ops,
      PublishLog.run_core _ ops, ?_, nofun⟩
    exact Transition.run_invariant (P := PublishLog.Kept context.space.session)
      (fun _ op h => h.step op) (hinitial.kept _) ops
  valid := Optimistic.Valid.start revisions
  calls := nofun

end Updating

theorem Updating.Relays.run {definition : ChannelDefinition} (h : state.Relays definition)
    (hauthority : definition.authority = relayOwned) (inputs : List UpdateInput) :
    (Transition.run (Updating.step context) state inputs).Relays definition :=
  Transition.run_invariant (P := Updating.Relays definition)
    (fun _ input hrelays => (step_stepped input).relays hauthority hrelays) h inputs

/-- Whatever calls go on next to each other and whatever else happens to the core, no update is lost
as long as the entity stays in its incarnation of the space and the authority leaves the component
of the publications alone: the revision never goes back, and the record is what the authority has
made of the last accepted publication unless something else has been stored in its place. A channel
that the relay owns takes all of them as they are. -/
theorem run_ordered (context : ToolInvocationContext) (channel : ChannelId)
    (inputs : List UpdateInput) (hreach : Reachable core)
    (hstays : Transition.Meets (Updating.step context) (Updating.Keeps context)
      (.new core channel) inputs) :
    let last := Transition.run (Updating.step context) (.new core channel) inputs
    ((∀ update ∈ last.published, update.renamed = false) →
      last.Ordered ∧
        Transition.Always (Updating.step context)
          (fun earlier => earlier.tool.revision ≤ last.tool.revision) (.new core channel) inputs ∧
        (Transition.Meets (Updating.step context)
            (fun state input => input.leavesRecord context state) (.new core channel) inputs →
          last.Shows context)) ∧
    ∀ definition, core.channels[channel]? = some definition → definition.authority = relayOwned →
      ∀ update ∈ last.published, update.answer = .ok .accept := by
  intro last
  constructor
  · intro hplain
    have hnew : (Updating.new core channel).Tracked context := Updating.tracked_new hreach
    have hshows : (Updating.new core channel).Shows context := nofun
    obtain ⟨htracked, hrevisions⟩ := hnew.run hstays hplain
    exact ⟨htracked.ordered, hrevisions, hshows.run hnew hstays hplain⟩
  · intro definition hdefinition hauthority
    have hnew : (Updating.new core channel).Relays definition := ⟨hreach.sound, hdefinition, nofun⟩
    exact (hnew.run hauthority inputs).answers

namespace Sample

open Signalweave.Sample (setup spaceKey clock)

/-- The first entity, on behalf of its connection. -/
def ai : ToolInvocationContext where
  connection := ⟨1⟩
  entity := ⟨1⟩
  space := spaceKey 1
  spaceEpoch := ⟨1⟩

/-- The core with a channel for the tool and the entity. -/
def hosting (channel : ChannelDefinition) : WovenCore :=
  Transition.run Signalweave.step Signalweave.Sample.core
    (setup ++ [.registerChannel channel, .spawnEntity ⟨1⟩ (spaceKey 1) ⟨1⟩])

/-- The channel of the status, relayed for its owner. -/
def statusChannel : ChannelDefinition := .relayOwned ⟨1⟩ .latestValue .stateful 64

/-- A proposal to set the status. -/
def setStatus (expectedRevision : Nat) (arguments : List UInt8) : ToolCallProposal where
  toolId := "status.set"
  toolVersion := 1
  arguments
  expectedRevision

/-- Two calls that have both seen the first revision, and one that comes after them. -/
def racing : List UpdateInput :=
  [.invoke (setStatus 1 [7]), .invoke (setStatus 1 [8]), .publish 1 0 0 clock,
    .publish 0 0 1 clock, .store 1, .invoke (setStatus 2 [9]), .publish 2 0 2 clock, .store 2]

/-- An authority that lets everything through and blanks its payload. -/
def blanking : AuthorityPolicy where
  evaluate _ _ proposed := .transform { coalesceKey := proposed.coalesceKey, payload := [0] }

/-- The channel of the status, whose authority blanks what is set. -/
def blankedChannel : ChannelDefinition := { statusChannel with authority := blanking }

/-- One call from its begin to its end. -/
def settingOnce : List UpdateInput :=
  [.invoke (setStatus 1 [7]), .publish 0 0 0 clock, .store 0]

end Sample

theorem run_ordered_racing :
    let last := Transition.run (Updating.step Sample.ai)
      (.new (Sample.hosting Sample.statusChannel) ⟨1⟩) Sample.racing
    last.published.map (fun update => (update.call, update.newRevision)) = [(1, 2), (2, 3)] ∧
      last.Ordered ∧ last.Shows Sample.ai := by
  have hreach : Reachable (Sample.hosting Sample.statusChannel) := Signalweave.Sample.reachable _
  have hordered := (run_ordered Sample.ai ⟨1⟩ Sample.racing hreach (by decide +kernel)).1
    (by decide +kernel)
  exact ⟨by decide +kernel, hordered.1, hordered.2.2 (by decide +kernel)⟩

/-- What an authority has put in the place of the arguments is what the record has. -/
theorem run_not_arguments :
    ¬ ∀ (context : ToolInvocationContext) (core : WovenCore) (channel : ChannelId)
      (inputs : List UpdateInput), Reachable core →
        Transition.Meets (Updating.step context) (Updating.Keeps context) (.new core channel)
          inputs →
        Transition.Meets (Updating.step context)
          (fun state input => input.leavesRecord context state) (.new core channel) inputs →
        let last := Transition.run (Updating.step context) (.new core channel) inputs
        ∀ update, last.published.getLast? = some update →
          (last.core.sessionAt context.space.session).state[context.statusKey channel]? =
            some { sequence := update.newRevision, payload := update.proposal.arguments } := by
  intro harguments
  have hstored := harguments Sample.ai (Sample.hosting Sample.blankedChannel) ⟨1⟩ Sample.settingOnce
    (Signalweave.Sample.reachable _) (by decide +kernel) (by decide +kernel)
  have hpublished : ((Transition.run (Updating.step Sample.ai)
      (.new (Sample.hosting Sample.blankedChannel) ⟨1⟩) Sample.settingOnce).published.getLast?).map
        (fun update => (update.newRevision, update.proposal.arguments)) = some (2, [7]) := by
    decide +kernel
  obtain ⟨update, hlast, heq⟩ := Option.map_eq_some_iff.mp hpublished
  obtain ⟨hrevision, hpayload⟩ := Prod.mk.inj heq
  have hrecord := hstored update hlast
  rw [hrevision, hpayload] at hrecord
  revert hrecord
  decide +kernel

end Signalweave.Inference
