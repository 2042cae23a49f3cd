import Signalweave.Core.Copies
import Signalweave.Transport.Handshake

/-!
# What clients are sent of each other

Of what a task writes, only what it has drained from the queue of its connection is entity state or
an event. A message gets into a queue where a task has handed on an envelope of its client and the
core has accepted it.
-/

open Std

namespace Signalweave

open Stateful WovenCore

/-- The envelope carries what a client has published. -/
def Protocol.Envelope.isRelayed (envelope : Protocol.Envelope) : Bool :=
  match envelope.message with
  | .entityState _ | .reliableEvent _ => true
  | _ => false

namespace Transport

open Protocol (Envelope)

/-- What a task has got out to its client of what clients publish. -/
def Adapter.relayed (adapter : Adapter) : List Envelope :=
  (adapter.written ++ adapter.datagrams).filter Envelope.isRelayed

/-- The messages that the core accepts with a request. -/
def WorkerRequest.accepted (core : WovenCore) (request : WorkerRequest) : List OutboundMessage :=
  request.ops.flatMap (Op.accepted core)

/-- The messages that the core accepts in a step of the server. -/
def Server.accepted (server : Server) : AdapterEvent → List OutboundMessage
  | .call i met =>
    match (server.adapters[i]?).bind fun adapter => adapter.request met with
    | some request =>
      if (server.ask request met.works).isSome then request.accepted server.worker.core else []
    | none => []
  | _ => []

theorem not_isRelayed_of_messageKind {envelope : Envelope}
    (h : envelope.messageKind = .protocolError) : envelope.isRelayed = false := by
  unfold Envelope.messageKind Protocol.MessagePayload.messageKind at h
  unfold Envelope.isRelayed
  cases hmessage : envelope.message with
  | control payload => rfl
  | snapshot payload => rfl
  | entityState payload | reliableEvent payload =>
    rw [hmessage] at h
    cases h

/-! ## The fan-out -/

/-- A call of a fan-out that does not relay. -/
def Task.Quiet : Task → Prop
  | .distribute _ envelope _ => envelope.isRelayed = false
  | .deliver _ _ => False
  | .cleanup _ => True

/-- The request brings no envelope of its own. -/
def WorkerRequest.wordless : WorkerRequest → Prop
  | .broadcastToSpace .. | .sendToConnection .. => False
  | _ => True

theorem WorkerRequest.wordless.indirect {request : WorkerRequest} (h : request.wordless) :
    request.indirect := by
  cases request <;> first | exact trivial | exact h.elim

/-- A request on its way through a fan-out that relays nothing. -/
structure Serving.Quiet (state : Serving) : Prop where
  tasks : ∀ task ∈ state.tasks, task.Quiet
  sent : ∀ entry ∈ state.sent, entry.2.isRelayed = false

section Quiet

variable {worker : Worker} {state : Serving} {request : WorkerRequest}

theorem quiet_distributeRemoved (summary : CleanupSummary) (reason : Protocol.EntityLeaveReason) :
    ∀ task ∈ distributeRemovedEntities summary reason, task.Quiet := by
  intro task htask
  obtain ⟨removed, -, rfl⟩ := List.mem_map.mp htask
  rfl

theorem quiet_apply (action : LifecycleAction) (result : CommandResult) :
    ∀ task ∈ (applyLifecycleAction worker action result).2, task.Quiet := by
  unfold applyLifecycleAction
  split
  · exact List.forall_mem_nil _
  · exact quiet_distributeRemoved _ _
  · exact quiet_distributeRemoved _ _
  · exact fun task htask => List.mem_singleton.mp htask ▸ rfl
  · exact quiet_distributeRemoved _ _
  · intro task htask
    rcases List.mem_cons.mp htask with rfl | htask
    · rfl
    · exact List.mem_singleton.mp htask ▸ rfl
  · exact quiet_distributeRemoved _ _
  · exact List.forall_mem_nil _

theorem quiet_handle (h : request.wordless) : ∀ task ∈ (worker.handle request).2.1, task.Quiet := by
  cases request with
  | command command =>
    unfold Worker.handle
    dsimp only
    split
    · exact quiet_apply _ _
    · exact List.forall_mem_nil _
  | subscribeAndSpawn connection space epoch =>
    unfold Worker.handle
    dsimp only
    split
    · split
      · exact fun task htask => List.mem_singleton.mp htask ▸ rfl
      · exact List.forall_mem_nil _
    · exact List.forall_mem_nil _
  | broadcastToSpace | sendToConnection => exact h.elim
  | registerLifecycle | activateSubscription | liveCounts => exact List.forall_mem_nil _

theorem Serving.Quiet.work (h : state.Quiet) (accepts : ConnectionId → Bool)
    (clock : ReleaseClock) : (state.work accepts clock).Quiet := by
  have htasks := h.tasks
  unfold Serving.work
  cases hcalls : state.tasks with
  | nil => exact h
  | cons call rest =>
    rw [hcalls] at htasks
    have hrest : ∀ task ∈ rest, task.Quiet := fun task hin =>
      htasks task (List.mem_cons_of_mem _ hin)
    cases call with
    | distribute space envelope excluded =>
      constructor
      · intro task htask
        rcases List.mem_append.mp htask with htask | htask
        · obtain ⟨_, -, rfl⟩ := List.mem_map.mp htask
          trivial
        · exact hrest task htask
      · intro entry hentry
        rcases List.mem_append.mp hentry with hentry | hentry
        · exact h.sent entry hentry
        · obtain ⟨_, -, rfl⟩ := List.mem_map.mp hentry
          exact htasks _ List.mem_cons_self
    | deliver connection envelope => exact (htasks _ List.mem_cons_self).elim
    | cleanup connection =>
      refine ⟨?_, fun entry hentry => ?_⟩
      · unfold cleanupDeadConnection
        dsimp only
        split
        · intro task htask
          rcases List.mem_append.mp htask with htask | htask
          · exact quiet_distributeRemoved _ _ task htask
          · exact hrest task htask
        · exact hrest
        · exact hrest
      · apply h.sent
        have hsent := @sent_cleanup state connection clock rest
        exact hsent ▸ hentry

theorem quiet_serve (h : request.wordless) (works : List ((ConnectionId → Bool) × ReleaseClock)) :
    (worker.serve request works).Quiet := by
  have hrun : ∀ (works : List ((ConnectionId → Bool) × ReleaseClock)) (state : Serving),
      state.Quiet → (Transition.run Serving.step state
        (works.map fun work => .work work.1 work.2)).Quiet := by
    intro works
    induction works with
    | nil => exact fun state h => h
    | cons work rest ih =>
      intro state hquiet
      have hnext := hquiet.work work.1 work.2
      exact ih _ ⟨hnext.tasks, hnext.sent⟩
  refine hrun works _ ⟨?_, List.forall_mem_nil _⟩
  exact @quiet_handle worker request h

end Quiet

/-! ## What a task writes -/

namespace Adapter

variable {config : AdapterConfig} {float : F64 → String} {adapter next : Adapter}
  {worker : Worker} {works : List ((ConnectionId → Bool) × ReleaseClock)}
  {request : WorkerRequest} {f : Option WorkerReply → Adapter → Adapter} {i : Nat}
  {event : AdapterEvent}

/-- The task has relayed no more than before and what is listed. -/
def Relays (adapter next : Adapter) (envelopes : List Envelope) : Prop :=
  ∀ envelope, next.relayed.count envelope ≤
    adapter.relayed.count envelope + envelopes.count envelope

theorem Relays.of_eq (h : next.relayed = adapter.relayed) : adapter.Relays next [] :=
  fun _ => Nat.le_of_eq (by rw [h]; rfl)

/-- An envelope that is there has been there before, or is there once more. -/
theorem Relays.mem {envelopes : List Envelope} (h : adapter.Relays next envelopes)
    {envelope : Envelope} (hin : envelope ∈ next.relayed) :
    envelope ∈ adapter.relayed ∨ envelope ∈ envelopes ∧
      adapter.relayed.count envelope < next.relayed.count envelope := by
  have hcount := h envelope
  rw [← List.count_pos_iff] at hin
  rw [← List.count_pos_iff, ← List.count_pos_iff]
  omega

theorem count_relayed (envelope : Envelope) : adapter.relayed.count envelope =
    if envelope.isRelayed then adapter.written.count envelope + adapter.datagrams.count envelope
    else 0 := by
  unfold relayed
  split
  · rw [List.count_filter ‹_›, List.count_append]
  · exact List.count_eq_zero.mpr fun hin => absurd (List.mem_filter.mp hin).2 ‹_›

/-- What is got out next to what was there before. -/
theorem relays_append {written datagrams envelopes : List Envelope} {stage : Stage} {failed : Bool}
    (h : ∀ envelope, written.count envelope + datagrams.count envelope ≤
      envelopes.count envelope) :
    adapter.Relays { adapter with
      stage
      failed
      written := adapter.written ++ written
      datagrams := adapter.datagrams ++ datagrams } envelopes := by
  intro envelope
  rw [count_relayed, count_relayed]
  have hless := h envelope
  split
  · dsimp only
    rw [List.count_append, List.count_append]
    omega
  · exact Nat.zero_le _

theorem relayed_quiet {envelopes : List Envelope}
    (h : ∀ envelope ∈ envelopes, envelope.isRelayed = false) {stage : Stage}
    {greeted authenticated : Bool} :
    relayed { adapter with
      stage
      greeted
      authenticated
      written := adapter.written ++ envelopes } = adapter.relayed := by
  have hnone : envelopes.filter Envelope.isRelayed = [] :=
    List.filter_eq_nil_iff.mpr fun envelope hin => Bool.eq_false_iff.mp (h envelope hin)
  unfold relayed
  rw [List.filter_append, List.filter_append, List.filter_append, hnone, List.append_nil]

theorem relayed_refuse {related : Protocol.MessageKind} {code : Protocol.ProtocolErrorCode}
    {text : String} {room : Nat} :
    (adapter.refuse (errorEnvelope related code text) room).relayed = adapter.relayed := by
  refine relayed_quiet fun envelope hin => ?_
  obtain rfl := List.mem_singleton.mp (List.mem_of_mem_take hin)
  rfl

theorem Local.relayed (h : adapter.Local config next) : next.relayed = adapter.relayed := by
  cases h with
  | receive stage frame room =>
    unfold Adapter.receive Adapter.handleHello Adapter.handleAuthenticate
    split
    · exact relayed_refuse
    · split
      · split
        · split
          · rfl
          · refine relayed_quiet fun envelope hin => ?_
            obtain rfl := List.mem_singleton.mp (List.mem_of_mem_take hin)
            rfl
        · exact relayed_refuse
      · split
        · split
          · split
            · rfl
            · exact relayed_refuse
          · exact relayed_refuse
        · rfl
  | datagram stage frame =>
    unfold Adapter.receiveDatagram
    split
    · rfl
    · split <;> rfl
  | refuse => exact relayed_refuse
  | decline envelope stage met =>
    unfold Adapter.decline
    split
    · exact relayed_refuse
    · rfl
    · rfl
  | _ => rfl

theorem relayed_deliver {sent : List (ConnectionId × Envelope)}
    (h : ∀ entry ∈ sent, entry.2.isRelayed = false) :
    (adapter.deliver sent).relayed = adapter.relayed := by
  refine relayed_quiet fun envelope hin => ?_
  obtain ⟨entry, hentry, rfl⟩ := List.mem_map.mp hin
  exact h entry (List.mem_filter.mp hentry).1

theorem quiet_replies (envelope : Envelope) (reply : Option WorkerReply) :
    ∀ sent ∈ replies float envelope reply, sent.isRelayed = false := by
  unfold replies
  intro sent hin
  split at hin <;> split at hin <;> simp at hin
  all_goals rcases hin with rfl | rfl <;> rfl

theorem relays_writeAll (envelopes : List Envelope) (room : Nat) (stage : Stage) :
    adapter.Relays (adapter.writeAll envelopes room stage) envelopes := by
  have hless : ∀ envelope, (envelopes.take room).count envelope +
      ([] : List Envelope).count envelope ≤ envelopes.count envelope :=
    fun envelope => (List.take_sublist room envelopes).count_le envelope
  have happend := fun stage => @relays_append adapter _ [] envelopes stage adapter.failed hless
  simp only [List.append_nil] at happend
  unfold Adapter.writeAll
  split
  · exact happend stage
  · exact happend _

theorem flushOutbound_count (fits : Envelope → Bool) (room : Nat) (envelopes : List Envelope)
    (envelope : Envelope) :
    (flushOutbound fits room envelopes).1.count envelope +
      (flushOutbound fits room envelopes).2.1.count envelope ≤ envelopes.count envelope := by
  induction envelopes generalizing room with
  | nil => exact Nat.le_refl 0
  | cons first rest ih =>
    unfold flushOutbound
    split
    · have hrest := ih room
      generalize flushOutbound fits room rest = sent at hrest ⊢
      obtain ⟨written, datagrams, flushed⟩ := sent
      dsimp only at hrest ⊢
      split
      · rw [List.count_cons, List.count_cons]
        omega
      · rw [List.count_cons]
        omega
    · split
      · exact Nat.zero_le _
      · rename_i room
        have hrest := ih room
        generalize flushOutbound fits room rest = sent at hrest ⊢
        obtain ⟨written, datagrams, flushed⟩ := sent
        dsimp only at hrest ⊢
        rw [List.count_cons, List.count_cons]
        omega

/-- The answer to a drain is what the queue holds. -/
theorem drained_of_executed {c : ConnectionId} {messages : List OutboundMessage}
    (h : executed (worker.serve (.command (.drainOutbound c)) works).reply =
      .ok (.outbound messages)) : messages = (worker.core.connectionAt c).outbound.drain.1 := by
  obtain ⟨_, hreturns, hmessages⟩ := returns_map.mp (returns_of_executed h)
  cases hmessages
  exact (drainOutbound_ends.returns hreturns).2.1

/-- A task goes on with an answer, and only the answer to its flush is relayed. -/
theorem relays_resume {call : Call} {reply : Option WorkerReply} {room : Nat} :
    adapter.Relays (adapter.resume float call reply room) [] ∨
      call = .flush ∧ ∃ messages, executed reply = .ok (.outbound messages) ∧
        adapter.Relays (adapter.resume float call reply room) (messages.map outboundEnvelope) := by
  cases call with
  | connect =>
    refine .inl (.of_eq ?_)
    unfold Adapter.resume
    dsimp only
    split <;> rfl
  | authenticate token =>
    refine .inl (.of_eq ?_)
    unfold Adapter.resume
    dsimp only
    split
    · split
      · rfl
      · refine relayed_quiet fun envelope hin => ?_
        obtain rfl := List.mem_singleton.mp (List.mem_of_mem_take hin)
        rfl
    · exact relayed_refuse
  | handle envelope =>
    refine .inl (.of_eq ?_)
    have hquiet := fun other hin => @quiet_replies float envelope reply other
      (List.mem_of_mem_take (i := room) hin)
    unfold Adapter.resume Adapter.writeAll
    dsimp only
    split
    · exact relayed_quiet hquiet
    · exact relayed_quiet hquiet
  | flush =>
    unfold Adapter.resume
    dsimp only
    split
    · rename_i messages hmessages
      exact .inr ⟨rfl, messages, hmessages, relays_writeAll _ room .serving⟩
    · exact .inl (.of_eq rfl)
  | register | activate | discard | lose => exact .inl (.of_eq rfl)

theorem relays_drain {fits : Envelope → Bool} {reply : Option WorkerReply} {room : Nat} :
    adapter.Relays (adapter.drain fits room reply) [] ∨
      ∃ messages, executed reply = .ok (.outbound messages) ∧
        adapter.Relays (adapter.drain fits room reply) (messages.map outboundEnvelope) := by
  unfold Adapter.drain
  split
  · rename_i messages hmessages
    exact .inr ⟨messages, hmessages, relays_append (flushOutbound_count fits room _)⟩
  · exact .inl (.of_eq rfl)

theorem Asks.wordless (h : adapter.Asks float i event request f) : request.wordless := by
  cases h with
  | call call stage met request asked =>
    by_cases hconnect : call = .connect
    · subst hconnect
      unfold Adapter.request at asked
      rw [stage] at asked
      obtain rfl := Option.some.inj asked
      trivial
    · obtain ⟨connection, -, hrequest⟩ := request_eq_some stage hconnect asked
      cases call with
      | connect => exact absurd rfl hconnect
      | handle envelope =>
        unfold handling at hrequest
        dsimp only at hrequest
        split at hrequest
        all_goals try split at hrequest
        all_goals cases hrequest
        all_goals trivial
      | _ =>
        obtain rfl := hrequest
        trivial
  | _ => trivial

/-- Of what a task asks for, only the queue of its connection is relayed. -/
theorem Asks.relays (h : adapter.Asks float i event request f)
    {sent : List (ConnectionId × Envelope)}
    (hquiet : ∀ entry ∈ sent, entry.2.isRelayed = false) :
    adapter.Relays (f (worker.serve request works).reply (adapter.deliver sent)) [] ∨
      ∃ c, adapter.connection = some c ∧ adapter.Takes i event ∧
        request = .command (.drainOutbound c) ∧
        adapter.Relays (f (worker.serve request works).reply (adapter.deliver sent))
          ((worker.core.connectionAt c).outbound.drain.1.map outboundEnvelope) := by
  have hdeliver : ∀ {next envelopes}, (adapter.deliver sent).Relays next envelopes →
      adapter.Relays next envelopes := by
    intro next envelopes hrelays envelope
    rw [← @relayed_deliver adapter sent hquiet]
    exact hrelays envelope
  cases h with
  | call call stage met request asked =>
    rcases @relays_resume float (adapter.deliver sent) call
      (worker.serve request works).reply met.room with hnone | ⟨rfl, messages, hmessages, hrelays⟩
    · exact .inl (hdeliver hnone)
    · obtain ⟨c, hconnection, rfl⟩ := request_eq_some stage nofun asked
      rw [drained_of_executed hmessages] at hrelays
      exact .inr ⟨c, hconnection, .flush stage met, rfl, hdeliver hrelays⟩
  | drain c known running met fits =>
    rcases @relays_drain (adapter.deliver sent) fits
      (worker.serve (.command (.drainOutbound c)) works).reply met.room with
        hnone | ⟨messages, hmessages, hrelays⟩
    · exact .inl (hdeliver hnone)
    · rw [drained_of_executed hmessages] at hrelays
      exact .inr ⟨c, known, .drain running met fits, rfl, hdeliver hrelays⟩
  | discard | disconnect => exact .inl (hdeliver (.of_eq rfl))

/-- A client that has not authenticated has been relayed nothing. -/
theorem Greets.relayed_eq_nil {core : WovenCore} (h : adapter.Greets config core)
    (hstrange : adapter.authenticated = false) : adapter.relayed = [] := by
  obtain ⟨hdatagrams, errors, hwritten, -, hkinds, -⟩ := h.strange hstrange
  refine List.filter_eq_nil_iff.mpr fun envelope hin => ?_
  rw [hdatagrams, List.append_nil, hwritten, preface] at hin
  rcases List.mem_append.mp hin with hin | hin
  · split at hin
    · obtain rfl := List.mem_singleton.mp hin
      exact Bool.false_ne_true
    · cases hin
  · exact Bool.eq_false_iff.mp (not_isRelayed_of_messageKind (hkinds envelope hin))

end Adapter

/-! ## What the worker brings into the queues -/

section Brings

variable {core core' : WovenCore} {worker : Worker} {request : WorkerRequest} {P : Op → Prop}
  {works : List ((ConnectionId → Bool) × ReleaseClock)}

theorem accepted_eq_nil {op : Op} (h : ¬ op.publishes) : op.accepted core = [] := by
  cases op <;> first | rfl | exact absurd trivial h

/-- Operations that do not publish bring nothing. -/
theorem LedBy.brings (h : LedBy P core core') (hcore : Reachable core)
    (hplain : ∀ op, P op → ¬ op.publishes) : Brings core [] core' := by
  have hboth := h.invariant (J := fun after => Reachable after ∧ Brings core [] after) ?_
    ⟨hcore, .refl⟩
  · exact hboth.2
  · rintro before op hop ⟨hbefore, hbrings⟩
    have hstep := brings_step hbefore.sound op
    rw [accepted_eq_nil (hplain op hop)] at hstep
    exact ⟨hbefore.next op, hbrings.trans hstep⟩

theorem not_publishes_of_tidies {op : Op} (h : op.tidies) : ¬ op.publishes := by
  cases op <;> first | exact h.elim | exact id

theorem brings_handle (hcore : Reachable worker.core) :
    Brings worker.core (request.accepted worker.core) (worker.handle request).1.core := by
  cases request with
  | command command =>
    rw [Worker.core_handle_command, Command.after_handle, WorkerRequest.accepted,
      WorkerRequest.ops]
    cases command.op with
    | none => exact .refl
    | some op =>
      rw [Option.toList_some, List.flatMap_singleton]
      exact brings_step hcore.sound op
  | subscribeAndSpawn connection space epoch =>
    refine ledBy_handle.brings hcore fun op hop => ?_
    rcases List.mem_cons.mp hop with rfl | hop
    · exact id
    · obtain rfl := List.mem_singleton.mp hop
      exact id
  | _ => exact ledBy_handle.brings hcore fun op hop => absurd hop List.not_mem_nil

theorem brings_serve (hcore : Reachable worker.core) (h : request.indirect) :
    Brings worker.core (request.accepted worker.core)
      (worker.serve request works).worker.core := by
  have hled := (@along_serve request worker h works).core.brings (ledBy_handle.reachable hcore)
    fun _ => not_publishes_of_tidies
  rw [← List.append_nil (request.accepted worker.core)]
  exact (brings_handle hcore).trans hled

/-- A drain leaves nothing in the queue. -/
theorem carries_serve (hcore : Reachable worker.core) (c : ConnectionId)
    (p : OutboundMessage → Bool) : ((worker.serve (.command (.drainOutbound c))
      works).worker.core.connectionAt c).outbound.Carries p 0 := by
  have hled := (@along_serve (.command (.drainOutbound c)) worker trivial works).core.brings
    (ledBy_handle.reachable hcore) fun _ => not_publishes_of_tidies
  refine hled c p 0 ?_
  obtain ⟨n, hcarries⟩ := hcore.carries c p
  have hends : Ends (drainOutbound c) worker.core
      (fun _ core' => (core'.connectionAt c).outbound.Carries p 0)
      fun _ core' => (core'.connectionAt c).outbound.Carries p 0 := by
    apply drainOutbound_ends.mono
    · rintro _ _ ⟨hlive, -, rfl⟩
      rw [connectionAt_modifyConnection, if_pos ⟨rfl, hlive⟩]
      exact (hcarries.drain (hcore.sound.wellFormed c)).2
    · rintro _ _ ⟨rfl, hdead⟩
      have hnone : c ∉ worker.core.connections := by
        rcases hdead with hzero | hdead
        · intro hlive
          exact absurd hzero (Nat.ne_of_gt (hcore.sound.consistent.connectionIds c hlive).1)
        · exact hdead
      rw [connectionAt_of_notMem hnone]
      exact .start _
  rw [Worker.core_handle_command, Command.after_handle]
  have hstep : step worker.core (.drainOutbound c) = after (drainOutbound c) worker.core :=
    after_discard _ _
  show ((step worker.core (.drainOutbound c)).connectionAt c).outbound.Carries p 0
  rw [hstep]
  exact hends.after

end Brings

/-! ## What a step relays -/

namespace Server

variable {config : AdapterConfig} {float : F64 → String} {server : Server}
  {request : WorkerRequest}

theorem brings_perform (hcore : Reachable server.worker.core) (h : request.indirect) (i : Nat)
    (met : Surroundings) (f : Option WorkerReply → Adapter → Adapter) :
    Brings server.worker.core
      (if (server.ask request met.works).isSome then request.accepted server.worker.core else [])
      (server.perform i request met f).worker.core := by
  have hserved := @brings_serve server.worker request met.works hcore h
  unfold perform ask
  dsimp only
  by_cases hdone : (server.worker.serve request met.works).tasks.isEmpty = true
  · rw [if_pos hdone]
    exact hserved
  · rw [if_neg hdone]
    exact .refl

theorem brings_perform_plain (hcore : Reachable server.worker.core) (h : request.indirect)
    (hnone : request.accepted server.worker.core = []) (i : Nat) (met : Surroundings)
    (f : Option WorkerReply → Adapter → Adapter) :
    Brings server.worker.core [] (server.perform i request met f).worker.core := by
  have hbrings := brings_perform hcore h i met f
  rwa [hnone, ite_self] at hbrings

theorem brings_step (h : server.Greeted config) (event : AdapterEvent) :
    Brings server.worker.core (server.accepted event)
      (server.step config float event).worker.core := by
  have hcore := h.housed.core
  cases event with
  | accept endpoint =>
    unfold step
    dsimp only
    split <;> exact .refl
  | call i met =>
    unfold step Server.accepted
    dsimp only
    cases hfound : server.adapters[i]? with
    | none => exact .refl
    | some adapter =>
      rw [Option.bind_some]
      dsimp only
      cases hasked : adapter.request met with
      | none =>
        cases hstage : adapter.stage with
        | calling call => cases call <;> exact .refl
        | _ => exact .refl
      | some request =>
        cases hstage : adapter.stage with
        | calling call =>
          have hasks : adapter.Asks float i (.call i met) request _ :=
            .call call hstage met request hasked
          exact brings_perform hcore hasks.wordless.indirect i met _
        | _ =>
          unfold Adapter.request at hasked
          rw [hstage] at hasked
          cases hasked
  | drained i met fits | discarded i met | disconnected i met =>
    unfold step
    dsimp only
    split
    · refine brings_perform_plain hcore ?_ rfl i met _
      trivial
    · exact .refl
  | _ => exact .refl

/-- What a task has relayed after a step: nothing at all, nothing new, or what has waited in the
queue of its connection, which it has taken and which is empty now. -/
inductive Sends (server after : Server) (event : AdapterEvent) (j : Nat) (next : Adapter) : Prop
  | nothing (none : next.relayed = [])
  | noMore (adapter : Adapter) (found : server.adapters[j]? = some adapter)
    (connection : next.connection = adapter.connection) (relays : adapter.Relays next [])
  | drained (adapter : Adapter) (found : server.adapters[j]? = some adapter)
    (connection : next.connection = adapter.connection) (c : ConnectionId)
    (known : adapter.connection = some c) (takes : adapter.Takes j event)
    (relays : adapter.Relays next
      ((server.worker.core.connectionAt c).outbound.drain.1.map outboundEnvelope))
    (empty : ∀ p, (after.worker.core.connectionAt c).outbound.Carries p 0)

theorem sends_step (h : server.Greeted config) (event : AdapterEvent) {j : Nat} {next : Adapter}
    (hnext : (server.step config float event).adapters[j]? = some next) :
    Sends server (server.step config float event) event j next := by
  have hmoves := @moves_step config float server event
  generalize server.step config float event = after at hmoves hnext ⊢
  cases hmoves with
  | stay => exact .noMore next hnext rfl (.of_eq rfl)
  | accept endpoint room =>
    rw [List.getElem?_append] at hnext
    split at hnext
    · exact .noMore next hnext rfl (.of_eq rfl)
    · obtain rfl := List.mem_singleton.mp (List.mem_of_getElem? hnext)
      exact .nothing rfl
  | locally i f moves =>
    unfold modify at hnext
    rw [List.getElem?_modify, Option.map_eq_map] at hnext
    obtain ⟨adapter, hfound, rfl⟩ := Option.map_eq_some_iff.mp hnext
    split
    · rename_i hij
      have hlocal := moves adapter (hij ▸ hfound)
      exact .noMore adapter hfound hlocal.authenticated.1 (.of_eq hlocal.relayed)
    · exact .noMore adapter hfound rfl (.of_eq rfl)
  | served i asker found request f asks works done =>
    have hquiet := (@quiet_serve server.worker request asks.wordless works).sent
    rw [getElem?_amend] at hnext
    obtain ⟨adapter, hfound, rfl⟩ := Option.map_eq_some_iff.mp hnext
    split
    · rename_i hij
      obtain rfl := Option.some.inj (found.symm.trans (hij ▸ hfound))
      rcases asks.keeps h.housed.core with ⟨hstage, rfl, room, rfl⟩ | ⟨-, -, hkeeps⟩
      · -- A task that has no connection yet has heard nothing.
        have hnone := h.housed.connecting j asker hfound hstage
        have hstrange : asker.authenticated = false := by
          by_contra hin
          exact ((h.greets j asker hfound).known (by simpa using hin)).1 hnone
        have hresumed : ∀ reply (adapter : Adapter),
            (adapter.resume float .connect reply room).relayed = adapter.relayed := by
          intro reply adapter
          unfold Adapter.resume
          dsimp only
          split <;> rfl
        exact .nothing ((hresumed _ _).trans ((Adapter.relayed_deliver hquiet).trans
          ((h.greets j asker hfound).relayed_eq_nil hstrange)))
      · have hconnection := (hkeeps works
          (server.worker.serve request works).sent).connection
        rcases asks.relays hquiet with hnone | ⟨c, hknown, htakes, rfl, hrelays⟩
        · exact .noMore asker hfound hconnection hnone
        · exact .drained asker hfound hconnection c hknown (hij ▸ htakes) hrelays
            (carries_serve h.housed.core c)
    · exact .noMore adapter hfound rfl (.of_eq (Adapter.relayed_deliver hquiet))

end Server

end Transport

end Signalweave
