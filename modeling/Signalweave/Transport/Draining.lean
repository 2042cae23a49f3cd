import Signalweave.QueueRuns
import Signalweave.Transport.Bridge

/-!
# Two tasks drain one queue (`woven-transport-quic`)

The periodic task and the handler of a connection each ask the worker for what its queue holds, and
then put one message after the other on the write channel. Nothing keeps the one from being
answered while the other still forwards.
-/

namespace Signalweave.Transport

/-- The tasks that drain the queue of a connection. -/
inductive Drainer where
  | periodic
  | handler
  deriving DecidableEq

/-- The other one of the two tasks. -/
def Drainer.other : Drainer → Drainer
  | .periodic => .handler
  | .handler => .periodic

/-- A message with its number among all that the queue has handed out. -/
abbrev Numbered := OutboundMessage × Nat

/-- The reliable ordered messages of a list. -/
def ordered (messages : List Numbered) : List Numbered :=
  messages.filter fun message => message.1.delivery == .reliableOrdered

/-- The queue of a connection with its two drainers. The write channel has room. -/
structure DrainState where
  queue : OutboundQueue
  queued : List OutboundMessage := []
  drained : List Numbered := []
  batch : Drainer → List Numbered := fun _ => []
  channel : List Numbered := []
  datagrams : List Numbered := []

/-- The queue is used, a task is answered, or a task forwards a message. -/
inductive DrainEvent where
  | push (message : OutboundMessage)
  | purge (shouldRemove : OutboundMessage → Bool)
  | answer (task : Drainer)
  | forward (task : Drainer)

namespace DrainState

/-- Change what a task has still to forward. -/
def setBatch (state : DrainState) (task : Drainer) (messages : List Numbered) : DrainState :=
  { state with batch := fun t => if t = task then messages else state.batch t }

/-- `flush_outbound_quic` and `flush_outbound`: the periodic task sends what is unreliable as a
datagram. -/
def put (state : DrainState) (task : Drainer) (message : Numbered) : DrainState :=
  if task = .periodic ∧ (outboundEnvelope message.1).deliveryClass.isUnreliable = true then
    { state with datagrams := state.datagrams ++ [message] }
  else { state with channel := state.channel ++ [message] }

/-- A task asks again only when it has forwarded what it was given. -/
def step (state : DrainState) : DrainEvent → DrainState
  | .push message =>
    match state.queue.push message with
    | .ok (result, queue) =>
      { state with
        queue
        queued :=
          if message.delivery = .reliableOrdered ∧ result ≠ .criticalCapacityExhausted then
            state.queued ++ [message]
          else state.queued }
    | .error _ => state
  | .purge shouldRemove => { state with queue := state.queue.purge shouldRemove }
  | .answer task =>
    if state.batch task = [] then
      let numbered := state.queue.drain.1.zipIdx state.drained.length
      { state with queue := state.queue.drain.2, drained := state.drained ++ numbered }.setBatch
        task numbered
    else state
  | .forward task =>
    match state.batch task with
    | [] => state
    | message :: rest => (state.setBatch task rest).put task message

/-- What was drained is put on the channel in its order, none of it left out or twice, and was
drained in the order in which it was queued. -/
structure InOrder (state : DrainState) : Prop where
  placed : ordered state.channel <+: ordered state.drained
  complete : (∀ task, ordered (state.batch task) = []) →
    ordered state.channel = ordered state.drained
  queued : ((ordered state.drained).map Prod.fst).Sublist state.queued

/-- A task puts a reliable ordered message on the channel only when the other one holds none that
was drained before it. -/
def Waits (state : DrainState) : DrainEvent → Prop
  | .forward task => ∀ message ∈ (state.batch task).head?, message.1.delivery = .reliableOrdered →
      ∀ other ∈ ordered (state.batch task.other), message.2 < other.2
  | _ => True

instance (state : DrainState) (event : DrainEvent) : Decidable (state.Waits event) := by
  cases event <;> unfold Waits <;> infer_instance

/-- Every drained message is in one place. -/
structure Sound (state : DrainState) : Prop where
  wellFormed : state.queue.WellFormed
  numbered : state.drained.map Prod.snd = List.range state.drained.length
  sorted : ∀ task, (state.batch task).Pairwise fun first second => first.2 < second.2
  placed : ∀ task, (state.channel ++ state.datagrams ++
    (state.batch task ++ state.batch task.other)).Perm state.drained
  datagrams : ordered state.datagrams = []
  fifo : ((ordered state.drained).map Prod.fst ++
    state.queue.critical.filter fun message => message.delivery == .reliableOrdered).Sublist
      state.queued

variable {state : DrainState} {task : Drainer} {message : Numbered}

@[simp] theorem ordered_append (first second : List Numbered) :
    ordered (first ++ second) = ordered first ++ ordered second := List.filter_append ..

theorem ordered_cons (message : Numbered) (rest : List Numbered) :
    ordered (message :: rest) = if message.1.delivery = .reliableOrdered then
      message :: ordered rest else ordered rest := by
  unfold ordered
  rw [List.filter_cons]
  simp only [beq_iff_eq]

@[simp] theorem other_other (task : Drainer) : task.other.other = task := by
  cases task <;> rfl

theorem other_ne (task : Drainer) : task.other ≠ task := by
  cases task <;> decide

theorem eq_or_eq_other (first second : Drainer) : first = second ∨ first = second.other := by
  cases first <;> cases second <;> decide

@[simp] theorem setBatch_self {messages : List Numbered} :
    (state.setBatch task messages).batch task = messages := if_pos rfl

@[simp] theorem setBatch_other {messages : List Numbered} :
    (state.setBatch task messages).batch task.other = state.batch task.other :=
  if_neg (other_ne task)

/-- It does not matter which of the tasks comes first. -/
theorem placed_both (task : Drainer) (h : (state.channel ++ state.datagrams ++
    (state.batch task ++ state.batch task.other)).Perm state.drained) (t : Drainer) :
    (state.channel ++ state.datagrams ++ (state.batch t ++ state.batch t.other)).Perm
      state.drained := by
  rcases eq_or_eq_other t task with rfl | rfl
  · exact h
  · rw [other_other]
    exact (List.perm_append_comm.append_left _).trans h

theorem sorted_setBatch (task : Drainer) {messages : List Numbered}
    (h : ∀ t, (state.batch t).Pairwise fun first second => first.2 < second.2)
    (hmessages : messages.Pairwise fun first second => first.2 < second.2) (t : Drainer) :
    ((state.setBatch task messages).batch t).Pairwise fun first second => first.2 < second.2 := by
  rcases eq_or_eq_other t task with rfl | rfl
  · rw [setBatch_self]
    exact hmessages
  · rw [setBatch_other]
    exact h task.other

theorem Sound.drained_sorted (h : state.Sound) :
    state.drained.Pairwise fun first second => first.2 < second.2 := by
  have hrange : (state.drained.map Prod.snd).Pairwise (· < ·) := by
    rw [h.numbered]
    exact List.pairwise_lt_range
  exact List.pairwise_map.mp hrange

/-- The drained messages that are not on the channel are those the tasks hold. -/
theorem Sound.placed_ordered (h : state.Sound) (task : Drainer) :
    (ordered state.channel ++ (ordered (state.batch task) ++
      ordered (state.batch task.other))).Perm (ordered state.drained) := by
  have hperm := (h.placed task).filter fun message => message.1.delivery == .reliableOrdered
  have hsame :
      (state.channel ++ state.datagrams ++ (state.batch task ++ state.batch task.other)).filter
      (fun message => message.1.delivery == .reliableOrdered) =
        ordered state.channel ++
          (ordered (state.batch task) ++ ordered (state.batch task.other)) := by
    show ordered _ = _
    rw [ordered_append, ordered_append, ordered_append, h.datagrams, List.append_nil]
  rw [hsame] at hperm
  exact hperm

theorem Sound.inOrder_iff (h : state.Sound) :
    state.InOrder ↔ ordered state.channel <+: ordered state.drained := by
  constructor
  · intro hin
    exact hin.placed
  · intro hplaced
    refine ⟨hplaced, ?_, (List.sublist_append_left _ _).trans h.fifo⟩
    intro hnone
    have hperm := h.placed_ordered .periodic
    rw [hnone, hnone, List.append_nil, List.append_nil] at hperm
    exact hplaced.eq_of_length hperm.length_eq

/-! ## Forwarding one message -/

/-- The next message in order is the first one of the batch exactly if the other batch holds none
with a smaller number. -/
theorem next_iff {batch other rest : List Numbered}
    (hperm : (message :: batch ++ other).Perm rest)
    (hsorted : rest.Pairwise fun first second => first.2 < second.2)
    (hbatch : ∀ later ∈ batch, message.2 < later.2) :
    [message] <+: rest ↔ ∀ later ∈ other, message.2 < later.2 := by
  cases rest with
  | nil => exact absurd hperm.length_eq (by simp)
  | cons first rest =>
    obtain ⟨hfirst, -⟩ := List.pairwise_cons.mp hsorted
    constructor
    · intro hprefix later hlater
      obtain rfl := (List.cons_prefix_cons.mp hprefix).1
      have hin : later ∈ rest :=
        (List.Perm.cons_inv hperm).subset (List.mem_append_right _ hlater)
      exact hfirst later hin
    · intro hother
      have hin : message ∈ first :: rest :=
        hperm.subset (List.mem_append_left _ (List.mem_cons_self ..))
      have hfrom := hperm.symm.subset (List.mem_cons_self ..)
      have hle : message = first ∨ message.2 < first.2 := by
        rcases List.mem_append.mp hfrom with hfrom | hfrom
        · rcases List.mem_cons.mp hfrom with heq | hfrom
          · exact Or.inl heq.symm
          · exact Or.inr (hbatch first hfrom)
        · exact Or.inr (hother first hfrom)
      rcases hle with rfl | hless
      · exact List.cons_prefix_cons.mpr ⟨rfl, List.nil_prefix⟩
      · rcases List.mem_cons.mp hin with rfl | hin
        · exact absurd hless (Nat.lt_irrefl _)
        · exact absurd hless (Nat.not_lt.mpr (Nat.le_of_lt (hfirst message hin)))

theorem not_unreliable (h : message.1.delivery = .reliableOrdered) :
    (outboundEnvelope message.1).deliveryClass.isUnreliable = false := by
  unfold outboundEnvelope
  rw [h]
  rfl

/-- What is put where. -/
theorem put_cases (state : DrainState) (task : Drainer) (message : Numbered) :
    (state.put task message = { state with channel := state.channel ++ [message] }) ∨
      (ordered [message] = [] ∧
        state.put task message = { state with datagrams := state.datagrams ++ [message] }) := by
  unfold put
  split
  · rename_i hdatagram
    right
    refine ⟨?_, rfl⟩
    rw [ordered_cons]
    split
    · rename_i hordered
      have hreliable := not_unreliable hordered
      rw [hreliable] at hdatagram
      exact absurd hdatagram.2 (by decide)
    · rfl
  · exact Or.inl rfl

theorem Sound.forward (h : state.Sound) {rest : List Numbered}
    (hbatch : state.batch task = message :: rest) :
    ((state.setBatch task rest).put task message).Sound := by
  have hsorted := h.sorted task
  rw [hbatch] at hsorted
  have hmoved : (state.channel ++ state.datagrams ++ [message] ++
      (rest ++ state.batch task.other)).Perm state.drained := by
    have hplaced := h.placed task
    rw [hbatch] at hplaced
    simpa using hplaced
  have hsorted' := sorted_setBatch task h.sorted (List.pairwise_cons.mp hsorted).2
  rcases put_cases (state.setBatch task rest) task message with hput | ⟨hnone, hput⟩
  · rw [hput]
    refine ⟨h.wellFormed, h.numbered, hsorted', placed_both task ?_, h.datagrams, h.fifo⟩
    show (state.channel ++ [message] ++ state.datagrams ++ ((state.setBatch task rest).batch task ++
      (state.setBatch task rest).batch task.other)).Perm state.drained
    rw [setBatch_self, setBatch_other]
    refine List.Perm.trans (List.Perm.append_right _ ?_) hmoved
    rw [List.append_assoc, List.append_assoc]
    exact List.perm_append_comm.append_left _
  · rw [hput]
    refine ⟨h.wellFormed, h.numbered, hsorted', placed_both task ?_, ?_, h.fifo⟩
    · show (state.channel ++ (state.datagrams ++ [message]) ++
        ((state.setBatch task rest).batch task ++
          (state.setBatch task rest).batch task.other)).Perm state.drained
      rw [setBatch_self, setBatch_other, ← List.append_assoc state.channel]
      exact hmoved
    · show ordered (state.datagrams ++ [message]) = []
      rw [ordered_append, h.datagrams, hnone]
      rfl

theorem Sound.forward_iff (h : state.Sound) (hin : state.InOrder) {rest : List Numbered}
    (hbatch : state.batch task = message :: rest) :
    ordered ((state.setBatch task rest).put task message).channel <+: ordered state.drained ↔
      (message.1.delivery = .reliableOrdered →
        ∀ other ∈ ordered (state.batch task.other), message.2 < other.2) := by
  have hsame : ∀ {after : DrainState}, ordered after.channel = ordered state.channel →
      ordered after.channel <+: ordered state.drained := by
    intro after hchannel
    rw [hchannel]
    exact hin.placed
  by_cases hordered : message.1.delivery = .reliableOrdered
  · have hone : ordered [message] = [message] := by
      rw [ordered_cons, if_pos hordered]
      rfl
    rcases put_cases (state.setBatch task rest) task message with hput | ⟨hnone, -⟩
    · obtain ⟨remaining, hremaining⟩ := hin.placed
      have hperm := h.placed_ordered task
      rw [← hremaining] at hperm
      have hrest := (List.perm_append_left_iff _).mp hperm
      rw [hbatch, ordered_cons, if_pos hordered] at hrest
      have hsorted := h.sorted task
      rw [hbatch] at hsorted
      have hlater : ∀ later ∈ ordered rest, message.2 < later.2 := fun later hlater =>
        (List.pairwise_cons.mp hsorted).1 later (List.mem_filter.mp hlater).1
      have hremainingSorted : remaining.Pairwise fun first second => first.2 < second.2 := by
        have hall : (ordered state.drained).Pairwise fun first second => first.2 < second.2 :=
          h.drained_sorted.filter _
        rw [← hremaining] at hall
        exact (List.pairwise_append.mp hall).2.1
      rw [hput, ← hremaining]
      show ordered (state.channel ++ [message]) <+: _ ↔ _
      rw [ordered_append, hone, List.prefix_append_right_inj,
        next_iff hrest hremainingSorted hlater]
      simp [hordered]
    · rw [hone] at hnone
      cases hnone
  · have hnone : ordered [message] = [] := by
      rw [ordered_cons, if_neg hordered]
      rfl
    constructor
    · intro _ hyes
      exact absurd hyes hordered
    · intro _
      apply hsame
      rcases put_cases (state.setBatch task rest) task message with hput | ⟨-, hput⟩
      · rw [hput]
        show ordered (state.channel ++ [message]) = _
        rw [ordered_append, hnone, List.append_nil]
      · rw [hput]
        rfl

/-! ## The other events -/

theorem Sound.push (h : state.Sound) (message : OutboundMessage) :
    (state.step (.push message)).Sound := by
  unfold step
  dsimp only
  cases hpush : state.queue.push message with
  | error error => exact h
  | ok answer =>
    have hpushes := OutboundQueue.pushes_of_push h.wellFormed hpush
    refine ⟨hpushes.wellFormed, h.numbered, h.sorted, h.placed, h.datagrams, ?_⟩
    show (_ ++ answer.2.critical.filter _).Sublist (if message.delivery = .reliableOrdered ∧
      answer.1 ≠ .criticalCapacityExhausted then state.queued ++ [message] else state.queued)
    have hcritical : answer.2.critical =
        if message.delivery.isCritical = true ∧ answer.1 ≠ .criticalCapacityExhausted then
          state.queue.critical ++ [message] else state.queue.critical := hpushes.critical
    rw [hcritical]
    by_cases hordered : message.delivery = .reliableOrdered
    · have hcritical : message.delivery.isCritical = true := by
        rw [hordered]
        rfl
      by_cases hroom : answer.1 = .criticalCapacityExhausted
      · rw [if_neg fun hand => hand.2 hroom, if_neg fun hand => hand.2 hroom]
        exact h.fifo
      · rw [if_pos ⟨hcritical, hroom⟩, if_pos ⟨hordered, hroom⟩, List.filter_append,
          ← List.append_assoc]
        exact h.fifo.append List.filter_sublist
    · have hnone : [message].filter (fun message => message.delivery == .reliableOrdered) = [] := by
        simp [hordered]
      rw [@if_neg (message.delivery = .reliableOrdered ∧ _) _ fun hand => hordered hand.1]
      by_cases hpushed : message.delivery.isCritical = true ∧
          answer.1 ≠ .criticalCapacityExhausted
      · rw [if_pos hpushed, List.filter_append, hnone, List.append_nil]
        exact h.fifo
      · rw [if_neg hpushed]
        exact h.fifo

theorem Sound.purge (h : state.Sound) (shouldRemove : OutboundMessage → Bool) :
    (state.step (.purge shouldRemove)).Sound := by
  refine ⟨h.wellFormed.purge, h.numbered, h.sorted, h.placed, h.datagrams, ?_⟩
  show (_ ++ (state.queue.purge shouldRemove).critical.filter _).Sublist _
  rw [OutboundQueue.purge_critical]
  exact ((List.filter_sublist.filter _).append_left _).trans h.fifo

/-- A drain hands out the reliable ordered messages as they were queued. -/
theorem filter_drain {queue : OutboundQueue} (h : queue.WellFormed) :
    queue.drain.1.filter (fun message => message.delivery == .reliableOrdered) =
      queue.critical.filter fun message => message.delivery == .reliableOrdered := by
  rw [← (OutboundQueue.drain_drains h).critical, List.filter_filter]
  apply List.filter_congr
  intro message _
  cases message.delivery <;> rfl

theorem ordered_zipIdx (messages : List OutboundMessage) (start : Nat) :
    (ordered (messages.zipIdx start)).map Prod.fst =
      messages.filter fun message => message.delivery == .reliableOrdered := by
  unfold ordered
  rw [← List.zipIdx_map_fst start messages, List.filter_map, List.zipIdx_map_fst]
  rfl

theorem critical_drain {queue : OutboundQueue} (h : queue.WellFormed) :
    queue.drain.2.critical = [] := by
  have hempty := (OutboundQueue.drain_drains h).empty
  unfold OutboundQueue.rounds at hempty
  exact List.eq_nil_of_length_eq_zero (by omega)

theorem Sound.answer (h : state.Sound) (task : Drainer) : (state.step (.answer task)).Sound := by
  unfold step
  dsimp only
  split
  · rename_i hnone
    refine ⟨(OutboundQueue.drain_drains h.wellFormed).wellFormed, ?_,
      sorted_setBatch task h.sorted ?_,
      placed_both task ?_, h.datagrams, ?_⟩
    · show (state.drained ++ _).map Prod.snd = List.range (state.drained ++ _).length
      rw [List.map_append, h.numbered, List.zipIdx_map_snd, List.length_append,
        List.length_zipIdx, List.range_add, List.range'_eq_map_range]
    · apply List.pairwise_map.mp
      rw [List.zipIdx_map_snd]
      exact List.pairwise_lt_range'
    · have hplaced := h.placed task
      rw [hnone, List.nil_append] at hplaced
      rw [setBatch_self, setBatch_other]
      refine List.Perm.trans ?_ (hplaced.append_right _)
      rw [List.append_assoc _ (state.batch task.other)]
      exact List.perm_append_comm.append_left _
    · show ((ordered (state.drained ++ _)).map Prod.fst ++
        state.queue.drain.2.critical.filter _).Sublist _
      rw [critical_drain h.wellFormed, List.filter_nil, List.append_nil, ordered_append,
        List.map_append, ordered_zipIdx, filter_drain h.wellFormed]
      exact h.fifo
  · exact h

theorem Sound.step (h : state.Sound) (event : DrainEvent) : (state.step event).Sound := by
  cases event with
  | push message => exact h.push message
  | purge shouldRemove => exact h.purge shouldRemove
  | answer task => exact h.answer task
  | forward task =>
    unfold DrainState.step
    dsimp only
    cases hbatch : state.batch task with
    | nil => exact h
    | cons message rest => exact h.forward hbatch

/-- Only what a task forwards can come out of order. -/
theorem Sound.step_iff (h : state.Sound) (event : DrainEvent) (hin : state.InOrder) :
    (state.step event).InOrder ↔ state.Waits event := by
  rw [(h.step event).inOrder_iff]
  cases event with
  | push message =>
    refine iff_of_true ?_ trivial
    unfold DrainState.step
    dsimp only
    split
    · exact hin.placed
    · exact hin.placed
  | purge shouldRemove => exact iff_of_true hin.placed trivial
  | answer task =>
    refine iff_of_true ?_ trivial
    unfold DrainState.step
    dsimp only
    split
    · show ordered state.channel <+: ordered (state.drained ++ _)
      rw [ordered_append]
      exact hin.placed.trans (List.prefix_append _ _)
    · exact hin.placed
  | forward task =>
    unfold DrainState.step Waits
    dsimp only
    cases hbatch : state.batch task with
    | nil => exact iff_of_true hin.placed (by simp)
    | cons message rest =>
      have hdrained : ((state.setBatch task rest).put task message).drained = state.drained := by
        rcases put_cases (state.setBatch task rest) task message with hput | ⟨-, hput⟩ <;>
          rw [hput] <;> rfl
      rw [hdrained, h.forward_iff hin hbatch]
      simp

/-- However the two tasks are interleaved, the reliable ordered messages are put on the channel in
order at every time exactly if a task that forwards one always waits for the other task to forward
those that were drained before it. -/
theorem run_inOrder_iff {config : OutboundQueueConfig} {queue : OutboundQueue}
    (h : OutboundQueue.new config = .ok queue) (events : List DrainEvent) :
    Transition.Always step InOrder { queue } events ↔
      Transition.Meets step Waits { queue } events := by
  have hsound : Sound { queue } := by
    obtain rfl := OutboundQueue.new_eq_ok h
    refine ⟨OutboundQueue.wellFormed_start config, rfl, fun _ => List.Pairwise.nil,
      fun _ => List.Perm.refl _, rfl, List.Sublist.refl _⟩
  have hin : InOrder { queue } := hsound.inOrder_iff.mpr (List.prefix_refl _)
  exact Transition.always_iff_meets (fun _ event h => h.step event)
    (fun _ event h hin => h.step_iff event hin) hsound hin events

end DrainState

namespace Sample

/-- The first message is drained by the handler and the second one by the periodic task; they are
forwarded in this order. -/
def twoBatches (first second : Drainer) : List DrainEvent :=
  [.push (Sample.queued .reliableOrdered 1), .answer .handler,
    .push (Sample.queued .reliableOrdered 2),
    .answer .periodic, .forward first, .forward second]

end Sample

namespace DrainState

theorem run_inOrder_iff_batches :
    Transition.Always step InOrder { queue := { config := {} } }
      (Sample.twoBatches .handler .periodic) :=
  (run_inOrder_iff (show OutboundQueue.new {} = .ok _ from rfl)
    (Sample.twoBatches .handler .periodic)).mpr (by decide +kernel)

/-- The periodic task overtakes the handler. -/
theorem run_not_inOrder : ¬ ∀ (config : OutboundQueueConfig) (queue : OutboundQueue)
    (events : List DrainEvent), OutboundQueue.new config = .ok queue →
      Transition.Always step InOrder { queue } events := by
  intro h
  have hrun := (h {} { config := {} } (Sample.twoBatches .periodic .handler) rfl).last
  have hplaced := hrun.placed
  revert hplaced
  decide +kernel

end DrainState

end Signalweave.Transport
