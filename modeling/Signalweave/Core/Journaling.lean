import Signalweave.Core.Acceptance
import Signalweave.Core.Outbound

/-!
# The journal records every durable message once

What has been popped from the outbox and what is still in it are, one after the other, the durable
messages of the accepted publications in the order of acceptance.
-/

open Std

namespace Signalweave

open Stateful WovenCore

variable {core core' : WovenCore}

theorem JournalOutbox.pop_records (outbox : JournalOutbox) :
    outbox.pop.1.toList ++ outbox.pop.2.records = outbox.records := by
  unfold pop
  cases hrecords : outbox.records with
  | nil => simpa using hrecords
  | cons record rest => rfl

theorem JournalOutbox.pop_capacity (outbox : JournalOutbox) :
    outbox.pop.2.capacity = outbox.capacity := by
  unfold pop
  cases outbox.records <;> rfl

/-- The operation may write the outbox. -/
def Op.journals : Op → Prop
  | .publishAt _ _ _ _ | .popJournalRecord => True
  | _ => False

theorem Change.journalOutbox {op : Op} (h : Change op core core') (hop : ¬ op.journals) :
    core'.journalOutbox = core.journalOutbox := by
  cases h with
  | leave connection key reason now asked member =>
    show (core.releaseSessionAdmission connection key reason now).journalOutbox = _
    rw [releaseSessionAdmission_eq]
  | releasePending connection key now asked =>
    rw [releasePendingAdmission_eq]
  | limit | commit | deliver | popJournal => exact absurd trivial hop
  | _ => rfl

theorem Changes.journalOutbox {op : Op} (h : Changes op core core') (hop : ¬ op.journals) :
    core'.journalOutbox = core.journalOutbox :=
  h.invariant (P := fun after => after.journalOutbox = core.journalOutbox)
    (fun _ _ hchange heq => (hchange.journalOutbox hop).trans heq) rfl

theorem journalOutbox_loseAll (core : WovenCore) (slow : List ConnectionId) (clock : ReleaseClock) :
    (core.loseAll slow clock).journalOutbox = core.journalOutbox := by
  induction slow generalizing core with
  | nil => rfl
  | cons connection rest ih =>
    have hop : (Op.transportLost connection clock).loses connection := rfl
    have hlost := lose_changes hop core clock
    exact (ih (core.lose connection clock)).trans (hlost.journalOutbox not_false)

/-- The durable messages of a publication go to the outbox in the order of its batch. -/
theorem Publishes.journalOutbox {request : PublishRequest} {now : Instant} {call : Nat}
    {clock : ReleaseClock} {plan : PublishPlan}
    (h : Publishes core request now call clock plan core') :
    core'.journalOutbox = { core.journalOutbox with
      records := core.journalOutbox.records ++
        (plan.journaled request.session).map JournalRecord.mk } := by
  obtain ⟨limiter, fan, fanned, outcome, -, hfanned, -, -, rfl⟩ := h.writes
  rw [journalOutbox_loseAll, hfanned.tables]
  rfl

/-- A plan is made only where the outbox has room for it. -/
theorem Publishes.room {request : PublishRequest} {now : Instant} {call : Nat}
    {clock : ReleaseClock} {plan : PublishPlan}
    (h : Publishes core request now call clock plan core') :
    (plan.journaled request.session).length ≤ core.journalOutbox.remainingCapacity := by
  obtain ⟨limiter, fan, fanned, outcome, hplan, -, -, -, -⟩ := h.writes
  rw [PublishPlan.journaled, PublishPlan.outbound, List.filter_map, List.length_map]
  exact (planPublish_eq_ok hplan).journal

/-! ## Runs -/

/-- A core beside the durable messages it has accepted and the records popped so far. -/
structure JournalHistory where
  core : WovenCore
  durable : List OutboundMessage := []
  popped : List JournalRecord := []

/-- The record that an operation hands out. -/
def Op.pops (core : WovenCore) : Op → List JournalRecord
  | .popJournalRecord =>
    match Signalweave.popJournalRecord core with
    | .ok record _ => record.toList
    | .error _ _ => []
  | _ => []

namespace JournalHistory

/-- An operation, with the durable messages that it accepts and the records that it pops. -/
def step (history : JournalHistory) (op : Op) : JournalHistory :=
  { core := Signalweave.step history.core op
    durable := history.durable ++
      (op.accepted history.core).filter fun message => message.persistence == .durable
    popped := history.popped ++ op.pops history.core }

/-- Every durable message is popped or in the outbox, once and in its order. -/
structure Recorded (history : JournalHistory) : Prop where
  sound : history.core.Sound
  exact : history.popped ++ history.core.journalOutbox.records =
    history.durable.map JournalRecord.mk
  room : history.core.journalOutbox.records.length ≤ history.core.journalOutbox.capacity
  capacity : history.core.journalOutbox.capacity = history.core.config.journalOutboxCapacity

variable {history : JournalHistory}

theorem Recorded.pop (h : history.Recorded) : (history.step .popJournalRecord).Recorded := by
  have hrecords := JournalOutbox.pop_records history.core.journalOutbox
  have hcapacity := JournalOutbox.pop_capacity history.core.journalOutbox
  refine ⟨sound_step h.sound .popJournalRecord, ?_, ?_, hcapacity.trans h.capacity⟩
  · show history.popped ++ history.core.journalOutbox.pop.1.toList ++
        history.core.journalOutbox.pop.2.records =
      (history.durable ++ [].filter _).map JournalRecord.mk
    rw [List.filter_nil, List.append_nil, ← h.exact, List.append_assoc, hrecords]
  · show history.core.journalOutbox.pop.2.records.length ≤ history.core.journalOutbox.pop.2.capacity
    have hlength := congrArg List.length hrecords
    have hroom := h.room
    rw [List.length_append] at hlength
    omega

theorem Recorded.publish (h : history.Recorded) (request : PublishRequest) (now : Instant)
    (call : Nat) (clock : ReleaseClock) :
    (history.step (.publishAt request now call clock)).Recorded := by
  have hconfig := (changes_step h.sound (.publishAt request now call clock)).config
  rcases publishAt_step h.sound request now call clock with
    ⟨hnone, hstep⟩ | ⟨plan, hplan, hpublishes⟩
  · have houtbox : (Signalweave.step history.core
        (.publishAt request now call clock)).journalOutbox = history.core.journalOutbox := by
      rcases hstep with heq | ⟨limiter, heq⟩ <;> rw [heq]
      rfl
    refine ⟨sound_step h.sound _, ?_, ?_, ?_⟩
    · simp only [JournalHistory.step, Op.accepted, Op.pops, hnone, houtbox]
      simpa using h.exact
    · simp only [JournalHistory.step, houtbox]
      exact h.room
    · simp only [JournalHistory.step, houtbox, hconfig]
      exact h.capacity
  · have houtbox := hpublishes.journalOutbox
    have hroom := hpublishes.room
    refine ⟨sound_step h.sound _, ?_, ?_, ?_⟩
    · simp only [JournalHistory.step, Op.accepted, Op.pops, hplan, houtbox]
      simp only [Option.elim_some, List.append_nil, List.map_append, ← h.exact, List.append_assoc]
      rfl
    · have hbefore := h.room
      simp only [JournalOutbox.remainingCapacity] at hroom
      simp only [JournalHistory.step, houtbox, List.length_append, List.length_map]
      omega
    · simp only [JournalHistory.step, houtbox, hconfig]
      exact h.capacity

theorem Recorded.step (h : history.Recorded) (op : Op) : (history.step op).Recorded := by
  by_cases hop : op.journals
  · cases op with
    | publishAt request now call clock => exact h.publish request now call clock
    | popJournalRecord => exact h.pop
    | _ => exact hop.elim
  · have hchanges := changes_step h.sound op
    have haccepted : op.accepted history.core = [] := by
      cases op <;> first | rfl | exact absurd trivial hop
    have hpops : op.pops history.core = [] := by
      cases op <;> first | rfl | exact absurd trivial hop
    have houtbox := hchanges.journalOutbox hop
    refine ⟨sound_step h.sound op, ?_, ?_, ?_⟩
    · simp only [JournalHistory.step, haccepted, hpops, houtbox]
      simpa using h.exact
    · simp only [JournalHistory.step, houtbox]
      exact h.room
    · simp only [JournalHistory.step, houtbox, hchanges.config]
      exact h.capacity

theorem run_core (history : JournalHistory) (ops : List Op) :
    (Transition.run JournalHistory.step history ops).core =
      Transition.run Signalweave.step history.core ops :=
  Transition.run_project (f := JournalHistory.core) (fun _ _ => rfl) history ops

end JournalHistory

theorem Initial.recorded (h : Initial core) : JournalHistory.Recorded { core } := by
  have hsound := h.empty.sound
  obtain ⟨authenticator, config, hnew⟩ := h
  simp only [WovenCore.new, Except.bind_eq_ok, Except.pure_eq_ok] at hnew
  obtain ⟨_, _, rfl⟩ := hnew
  exact ⟨hsound, rfl, Nat.zero_le _, rfl⟩

/-- A publication that fails records nothing. -/
theorem journalOutbox_of_fails {request : PublishRequest} {now : Instant} {call : Nat}
    {clock : ReleaseClock} {e : CoreError} (h : core.Sound)
    (hfails : Fails (publishAt request now call clock) core e core') :
    core'.journalOutbox = core.journalOutbox ∧
      Op.accepted core (.publishAt request now call clock) = [] := by
  rcases publishAt_step h request now call clock with ⟨hnone, hstep⟩ | ⟨plan, -, hpublishes⟩
  · rw [step_publishAt, hfails.after_eq] at hstep
    rw [Op.accepted, hnone]
    refine ⟨?_, rfl⟩
    rcases hstep with rfl | ⟨limiter, rfl⟩ <;> rfl
  · obtain ⟨_, _, _, outcome, -, -, hreturns, -, -⟩ := hpublishes.writes
    have hreturned : Returns (publishAt request now call clock) core outcome _ := hreturns
    exact (hreturned.not_fails hfails).elim

/-- Along every run the records popped and those in the outbox are the durable messages of the
accepted publications, each once and in the order of acceptance; the outbox keeps to its capacity,
and a publication that fails records nothing. The messages of a publication are those of its plan,
which `decides_of_planPublish` in `Core.Refines` shows to be what the authority has answered. -/
theorem run_recorded (h : Initial core) (ops : List Op) :
    let history := Transition.run JournalHistory.step { core } ops
    history.core = Transition.run step core ops ∧
      history.popped ++ history.core.journalOutbox.records =
        history.durable.map JournalRecord.mk ∧
      history.core.journalOutbox.records.length ≤ core.config.journalOutboxCapacity ∧
      ∀ request now call clock e core',
        Fails (publishAt request now call clock) history.core e core' →
          core'.journalOutbox = history.core.journalOutbox ∧
            Op.accepted history.core (.publishAt request now call clock) = [] := by
  intro history
  have hrecorded : history.Recorded :=
    Transition.run_invariant (P := JournalHistory.Recorded) (fun _ op h => h.step op) h.recorded ops
  have hcore : history.core = Transition.run step core ops := JournalHistory.run_core _ ops
  have hconfig : history.core.config = core.config := by
    rw [hcore]
    exact config_run h.empty.sound ops
  refine ⟨hcore, hrecorded.exact, ?_, ?_⟩
  · rw [← hconfig, ← hrecorded.capacity]
    exact hrecorded.room
  · intro request now call clock e core' hfails
    exact journalOutbox_of_fails hrecorded.sound hfails

namespace Sample

/-- The channel of the setup with durable messages. -/
def durableChannel : ChannelDefinition := .relayOwned ⟨1⟩ .reliableOrdered .durable 64

/-- Two durable publications, one refused because its sequence is stale, and a pop. -/
def journaled : List Op :=
  setup ++ [.registerChannel durableChannel, .spawnEntity ⟨1⟩ (spaceKey 1) ⟨1⟩,
    .publishAt { publication 5 with persistence := .durable } 0 0 clock,
    .publishAt { publication 5 with persistence := .durable } 1 1 clock,
    .publishAt { publication 6 with persistence := .durable } 2 2 clock, .popJournalRecord]

end Sample

theorem run_recorded_journaled :
    let history := Transition.run JournalHistory.step { core := Sample.core } Sample.journaled
    history.durable.map OutboundMessage.sequence = [5, 6] ∧ history.popped.length = 1 ∧
      history.popped ++ history.core.journalOutbox.records =
        history.durable.map JournalRecord.mk :=
  ⟨by decide +kernel, by decide +kernel, (run_recorded Sample.initial Sample.journaled).2.1⟩

end Signalweave
