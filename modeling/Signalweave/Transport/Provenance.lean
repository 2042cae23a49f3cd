import Signalweave.Transport.Relay
import Signalweave.Transport.Relayed

/-!
# Where relayed envelopes come from

Whatever clients send and however the tasks take turns, a client is sent what another one has had
accepted, while it may read it, and no more often than it was accepted.
-/

open Std

namespace Signalweave

open Stateful WovenCore

/-- The checks of a publication that is accepted. -/
theorem checked_of_accepted {core : WovenCore} {request : PublishRequest} {now : Instant}
    {call : Nat} {clock : ReleaseClock} {message : OutboundMessage}
    (h : message ∈ Op.accepted core (.publishAt request now call clock)) :
    core.MayWrite request.connection request.session ∧
      ⟨request.session, request.space⟩ ∈ (core.connectionAt request.connection).subscriptions ∧
      message.sessionKey = request.session := by
  simp only [Op.accepted] at h
  cases haccepted : acceptedPlan core request now call clock with
  | none =>
    rw [haccepted] at h
    cases h
  | some plan =>
    rw [haccepted] at h
    obtain ⟨limiter, hplan⟩ := planPublish_of_acceptedPlan haccepted
    obtain ⟨authorized, -, rfl⟩ := List.mem_map.mp h
    obtain ⟨principal, hprincipal, hgrants⟩ := mayWrite_of_planPublish hplan
    have hsubscribed := (planPublish_eq_ok hplan).subscribed
    refine ⟨⟨principal, ?_, hgrants⟩, ?_, rfl⟩
    · rw [limited, connectionAt_modifyConnection] at hprincipal
      split at hprincipal <;> exact hprincipal
    · rw [limited, connectionAt_modifyConnection] at hsubscribed
      split at hsubscribed <;> exact hsubscribed

namespace Transport

open Protocol (Envelope)

namespace Server

variable {config : AdapterConfig} {float : F64 → String} {server start : Server}
  {event : AdapterEvent} {message : OutboundMessage}

/-- A task hands on an envelope of its client, which has authenticated, and the core accepts the
message for it: the client may write in the session and is subscribed to the space it writes to. -/
inductive Publishes (server : Server) : AdapterEvent → OutboundMessage → Prop
  | publish {message : OutboundMessage} (i : Nat) (met : Surroundings) (adapter : Adapter)
    (connection : ConnectionId) (envelope : Envelope) (request : PublishRequest)
    (found : server.adapters[i]? = some adapter) (known : adapter.connection = some connection)
    (authenticated : adapter.authenticated = true)
    (handles : adapter.stage = .calling (.handle envelope))
    (asks : publishRequest connection envelope = some request)
    (writes : server.worker.core.MayWrite connection request.session)
    (subscribed : ⟨request.session, request.space⟩ ∈
      (server.worker.core.connectionAt connection).subscriptions)
    (session : message.sessionKey = request.session)
    (accepted : message ∈ Op.accepted server.worker.core
      (.publishAt request met.now met.call met.clock)) :
    Publishes server (.call i met) message

theorem connection_of_publishRequest {connection : ConnectionId} {envelope : Envelope}
    {request : PublishRequest} (h : publishRequest connection envelope = some request) :
    request.connection = connection := by
  unfold publishRequest at h
  split at h
  · obtain ⟨delivery, channel, -, -, rfl⟩ := payloadRequest_eq_some h
    rfl
  · obtain ⟨delivery, channel, -, -, rfl⟩ := payloadRequest_eq_some h
    rfl
  · cases h

/-- Of the requests that an envelope becomes, only a publication gets messages accepted. -/
theorem publish_of_handling {met : Surroundings} {envelope : Envelope} {request : WorkerRequest}
    {core : WovenCore} (h : handling met envelope = .ask request)
    (hin : message ∈ request.accepted core) :
    ∃ asked, publishRequest met.connection envelope = some asked ∧
      message ∈ Op.accepted core (.publishAt asked met.now met.call met.clock) := by
  unfold handling at h
  dsimp only at h
  split at h
  all_goals try split at h
  all_goals cases h
  all_goals try cases hin
  all_goals
    rename_i asked hasked
    refine ⟨asked, hasked, ?_⟩
    simpa [WorkerRequest.accepted, WorkerRequest.ops, Command.op] using hin

theorem publishes_of_accepted (h : server.Greeted config) (hin : message ∈ server.accepted event) :
    server.Publishes event message := by
  cases event with
  | call i met =>
    unfold Server.accepted at hin
    dsimp only at hin
    split at hin
    · rename_i request hrequest
      obtain ⟨adapter, hfound, hasked⟩ := Option.bind_eq_some_iff.mp hrequest
      split at hin
      · cases hstage : adapter.stage with
        | calling call =>
          by_cases hconnect : call = .connect
          · subst hconnect
            unfold Adapter.request at hasked
            rw [hstage] at hasked
            obtain rfl := Option.some.inj hasked
            cases hin
          · obtain ⟨c, hconnection, hcall⟩ :=
              Adapter.request_eq_some hstage hconnect hasked
            cases call with
            | handle envelope =>
              obtain ⟨asked, hpublish, haccepted⟩ := publish_of_handling hcall hin
              obtain ⟨hwrites, hsubscribed, hsession⟩ := checked_of_accepted haccepted
              rw [connection_of_publishRequest hpublish] at hwrites hsubscribed
              refine .publish i met adapter c envelope asked hfound hconnection ?_ hstage hpublish
                hwrites hsubscribed hsession haccepted
              by_contra hnot
              exact (h.greets i adapter hfound).handles _ hstage (by simpa using hnot)
            | connect => exact absurd rfl hconnect
            | _ =>
              obtain rfl := hcall
              cases hin
        | _ =>
          unfold Adapter.request at hasked
          rw [hstage] at hasked
          cases hasked
      · cases hin
    · cases hin
  | _ => cases hin

/-! ## Over a run -/

/-- In some step of the run the core has accepted the message for a client. -/
def Published (config : AdapterConfig) (float : F64 → String) (start : Server)
    (events : List AdapterEvent) (message : OutboundMessage) : Prop :=
  ∃ before event after, events = before ++ event :: after ∧
    (Transition.run (step config float) start before).Publishes event message

/-- In an event a message that waits in the queue of a connection, which may read it, is handed to
task `i` of this connection, and the task relays it once more than before. -/
structure HandsOut (config : AdapterConfig) (float : F64 → String) (server : Server) (i : Nat)
    (c : ConnectionId) (message : OutboundMessage) (event : AdapterEvent) : Prop where
  task : ∃ adapter, server.adapters[i]? = some adapter ∧ adapter.connection = some c ∧
    adapter.Takes i event
  waits : message ∈ (server.worker.core.connectionAt c).outbound.drain.1
  fresh : server.worker.core.Fresh c message
  relays : ∃ adapter next, server.adapters[i]? = some adapter ∧
    (server.step config float event).adapters[i]? = some next ∧
    adapter.relayed.count (outboundEnvelope message) <
      next.relayed.count (outboundEnvelope message)

/-- In some step of the run task `i` of a connection has been handed a message that had been
published before. -/
def HandedOut (config : AdapterConfig) (float : F64 → String) (start : Server)
    (events : List AdapterEvent) (i : Nat) (c : ConnectionId) (message : OutboundMessage) : Prop :=
  ∃ before event after, events = before ++ event :: after ∧
    start.Published config float before message ∧
    (Transition.run (step config float) start before).HandsOut config float i c message event

theorem Published.later {events : List AdapterEvent}
    (h : start.Published config float events message) (event : AdapterEvent) :
    start.Published config float (events ++ [event]) message := by
  obtain ⟨before, accepting, after, rfl, hpublishes⟩ := h
  exact ⟨before, accepting, after ++ [event], by rw [List.append_assoc]; rfl, hpublishes⟩

theorem HandedOut.later {events : List AdapterEvent} {i : Nat} {c : ConnectionId}
    (h : start.HandedOut config float events i c message) (event : AdapterEvent) :
    start.HandedOut config float (events ++ [event]) i c message := by
  obtain ⟨before, taking, after, rfl, hpublished, hhands⟩ := h
  exact ⟨before, taking, after ++ [event], by rw [List.append_assoc]; rfl, hpublished, hhands⟩

/-- What waits has been published, and what is relayed has been handed out of the queue in which it
waited. -/
structure Traced (config : AdapterConfig) (float : F64 → String) (start : Server)
    (events : List AdapterEvent) (server : Server) : Prop where
  greeted : server.Greeted config
  waiting : ∀ c, ∀ message ∈ (server.worker.core.connectionAt c).outbound.drain.1,
    start.Published config float events message
  relayed : ∀ (i : Nat) adapter, server.adapters[i]? = some adapter →
    ∀ envelope ∈ adapter.relayed, ∃ message c, envelope = outboundEnvelope message ∧
      adapter.connection = some c ∧ start.HandedOut config float events i c message

theorem Traced.step {events : List AdapterEvent}
    (h : Traced config float start events (Transition.run (step config float) start events))
    (event : AdapterEvent) :
    Traced config float start (events ++ [event])
      ((Transition.run (Server.step config float) start events).step config float event) := by
  have hbrings := @brings_step config float _ h.greeted event
  have hgreeted := @Greeted.step config float _ h.greeted event
  refine ⟨hgreeted, ?_, ?_⟩
  · intro c message hin
    rcases hbrings.drained h.greeted.housed.core hgreeted.housed.core hin with hbefore | haccepted
    · exact (h.waiting c message hbefore).later event
    · exact ⟨events, event, [], rfl, publishes_of_accepted h.greeted haccepted⟩
  · intro i next hnext envelope hin
    cases sends_step h.greeted event hnext with
    | nothing none =>
      rw [none] at hin
      cases hin
    | noMore adapter found connection relays =>
      rcases relays.mem hin with hbefore | ⟨hnew, -⟩
      · obtain ⟨message, c, hmessage, hconnection, hhanded⟩ :=
          h.relayed i adapter found envelope hbefore
        exact ⟨message, c, hmessage, connection.trans hconnection, hhanded.later event⟩
      · cases hnew
    | drained adapter found connection c known takes relays empty =>
      rcases relays.mem hin with hbefore | ⟨hnew, hmore⟩
      · obtain ⟨message, c, hmessage, hconnection, hhanded⟩ :=
          h.relayed i adapter found envelope hbefore
        exact ⟨message, c, hmessage, connection.trans hconnection, hhanded.later event⟩
      · obtain ⟨message, hwaits, rfl⟩ := List.mem_map.mp hnew
        have hsound := h.greeted.housed.core.sound
        have hheld := (OutboundQueue.drain_drains (hsound.wellFormed c)).held message hwaits
        exact ⟨message, c, rfl, connection.trans known, events, event, [], rfl,
          h.waiting c message hwaits, ⟨adapter, found, known, takes⟩, hwaits,
          hsound.fresh c message hheld, adapter, next, found, hnext, hmore⟩

theorem traced_run {worker : Worker} (hstart : Greeted config { worker })
    (hnone : worker.core.connections = ∅) (events : List AdapterEvent) :
    Traced config float { worker } events
      (Transition.run (step config float) { worker } events) := by
  induction events using List.reverseRecOn with
  | nil =>
    refine ⟨hstart, ?_, ?_⟩
    · intro c message hin
      have hdead : c ∉ worker.core.connections := by
        rw [hnone]
        exact ExtTreeMap.not_mem_empty
      replace hin : message ∈ (worker.core.connectionAt c).outbound.drain.1 := hin
      rw [connectionAt_of_notMem hdead] at hin
      cases hin
    · intro i adapter hfound
      cases hfound
  | append_singleton events event ih =>
    rw [Transition.run_append]
    exact ih.step event

/-- Of the messages that go out as an envelope, no more wait in a queue than have been accepted, and
no more than have not gone out yet to who has the queue. -/
structure Counted (config : AdapterConfig) (envelope : Envelope) (accepted : List OutboundMessage)
    (server : Server) : Prop where
  greeted : server.Greeted config
  waiting : ∀ c, (server.worker.core.connectionAt c).outbound.Carries
    (outboundEnvelope · == envelope) (accepted.countP (outboundEnvelope · == envelope))
  relayed : ∀ (i : Nat) adapter, server.adapters[i]? = some adapter →
    adapter.relayed.count envelope = 0 ∨ ∃ c n, adapter.connection = some c ∧
      (server.worker.core.connectionAt c).outbound.Carries (outboundEnvelope · == envelope) n ∧
        adapter.relayed.count envelope + n ≤ accepted.countP (outboundEnvelope · == envelope)

theorem count_map_outboundEnvelope {messages : List OutboundMessage} {envelope : Envelope} :
    (messages.map outboundEnvelope).count envelope =
      messages.countP (outboundEnvelope · == envelope) := by
  rw [List.count_eq_countP, List.countP_map]
  rfl

theorem Counted.step {envelope : Envelope} {accepted : List OutboundMessage}
    (h : Counted config envelope accepted server) (event : AdapterEvent) :
    Counted config envelope (accepted ++ server.accepted event)
      (server.step config float event) := by
  have hbrings := @brings_step config float _ h.greeted event
  refine ⟨h.greeted.step event, ?_, ?_⟩
  · intro c
    rw [List.countP_append]
    exact hbrings c _ _ (h.waiting c)
  · intro i next hnext
    rw [List.countP_append]
    cases sends_step h.greeted event hnext with
    | nothing none =>
      left
      rw [none]
      rfl
    | noMore adapter found connection relays =>
      have hless := relays envelope
      rw [List.count_nil] at hless
      rcases h.relayed i adapter found with hzero | ⟨c, n, hconnection, hcarries, hcount⟩
      · left
        omega
      · exact .inr ⟨c, _, connection.trans hconnection, hbrings c _ n hcarries, by omega⟩
    | drained adapter found connection c known takes relays empty =>
      have hless := relays envelope
      rw [count_map_outboundEnvelope] at hless
      have hwellFormed := h.greeted.housed.core.sound.wellFormed c
      refine .inr ⟨c, 0, connection.trans known, empty _, ?_⟩
      rcases h.relayed i adapter found with hzero | ⟨other, n, hconnection, hcarries, hcount⟩
      · have hwaits := ((h.waiting c).drain hwellFormed).1
        omega
      · obtain rfl := Option.some.inj (known.symm.trans hconnection)
        have hwaits := (hcarries.drain hwellFormed).1
        omega

theorem counted_run {worker : Worker} (hstart : Greeted config { worker })
    (hnone : worker.core.connections = ∅) (envelope : Envelope) (events : List AdapterEvent) :
    Counted config envelope
      (Transition.outputs (Server.step config float) Server.accepted { worker } events)
      (Transition.run (Server.step config float) { worker } events) := by
  induction events using List.reverseRecOn with
  | nil =>
    refine ⟨hstart, ?_, ?_⟩
    · intro c
      have hdead : c ∉ worker.core.connections := by
        rw [hnone]
        exact ExtTreeMap.not_mem_empty
      show (worker.core.connectionAt c).outbound.Carries _ _
      rw [connectionAt_of_notMem hdead]
      exact .start _
    · intro i adapter hfound
      cases hfound
  | append_singleton events event ih =>
    rw [Transition.run_append, Transition.outputs_append]
    have hnext := @Counted.step config float _ _ _ ih event
    rwa [show Transition.outputs _ _ _ [event] = _ from List.append_nil _]

end Server

end Transport

namespace Sample

open Transport

/-- Two spaces and a channel, and nobody connected. -/
def relayer : Worker where
  core := Transition.run step Sample.core
    [.provisionSession session, .installSpace session (space 1), .installSpace session (space 2),
      .registerChannel channel]

/-- A client publishes an event, and hears it as a reader of the space. -/
def speaks : List AdapterEvent :=
  visits .quic ++ [.received 0 (.ok (event 1)) 8, .call 0 roomy, .call 0 roomy]

end Sample

namespace Transport

/-- Whatever is sent to a client of what clients publish has been accepted before for a client that
had authenticated, that might write in the session and was subscribed to where it wrote. Later it
has waited in the queue of its recipient, and has been handed out of it in an event in which the
recipient might read it. -/
theorem run_relays {worker : Worker} (hcore : Reachable worker.core)
    (hnone : worker.core.connections = ∅) (hempty : worker.subscriptions = ∅)
    (config : AdapterConfig) (float : F64 → String) (events : List AdapterEvent) :
    let reached := Transition.run (Server.step config float) { worker }
    ∀ (i : Nat) adapter, (reached events).adapters[i]? = some adapter →
      ∀ envelope ∈ adapter.relayed,
        ∃ (message : OutboundMessage) (c : ConnectionId) (before : List AdapterEvent)
          (event : AdapterEvent) (between : List AdapterEvent) (taking : AdapterEvent)
          (after : List AdapterEvent),
          envelope = outboundEnvelope message ∧ adapter.connection = some c ∧
          events = before ++ event :: between ++ taking :: after ∧
          (reached before).Publishes event message ∧
          (reached (before ++ event :: between)).HandsOut config float i c message taking := by
  have htraced := @Server.traced_run config float worker
    (greeted_worker hcore hnone hempty config) hnone events
  intro reached i adapter hfound envelope hrelayed
  obtain ⟨message, c, hmessage, hconnection, _, taking, after, rfl, ⟨before, event, between, rfl,
    hpublishes⟩, hhands⟩ := htraced.relayed i adapter hfound envelope hrelayed
  exact ⟨message, c, before, event, between, taking, after, hmessage, hconnection, rfl, hpublishes,
    hhands⟩

theorem run_relays_spoken :
    let reached := Transition.run (Server.step Sample.adapterConfig Sample.one)
      { worker := Sample.relayer }
    (reached Sample.speaks).adapters.map Adapter.relayed = [[Sample.event 1]] ∧
    ∀ (i : Nat) adapter, (reached Sample.speaks).adapters[i]? = some adapter →
      ∀ envelope ∈ adapter.relayed, ∃ message c before event between taking,
        envelope = outboundEnvelope message ∧ (reached before).Publishes event message ∧
        (reached (before ++ event :: between)).HandsOut Sample.adapterConfig Sample.one i c message
          taking := by
  intro reached
  refine ⟨by decide +kernel, fun i adapter hfound envelope hrelayed => ?_⟩
  obtain ⟨message, c, before, event, between, taking, after, hmessage, -, -, hpublishes,
    hhands⟩ := run_relays (Sample.reachable _) (ExtTreeMap.isEmpty_iff.mp (by decide +kernel))
      (ExtTreeMap.isEmpty_iff.mp (by decide +kernel)) Sample.adapterConfig Sample.one
        Sample.speaks i adapter hfound envelope hrelayed
  exact ⟨message, c, before, event, between, taking, hmessage, hpublishes, hhands⟩

/-- A client is sent nothing more often than it was accepted. -/
theorem run_relays_once {worker : Worker} (hcore : Reachable worker.core)
    (hnone : worker.core.connections = ∅) (hempty : worker.subscriptions = ∅)
    (config : AdapterConfig) (float : F64 → String) (events : List AdapterEvent) :
    let step := Server.step config float
    let accepted := Transition.outputs step Server.accepted { worker } events
    ∀ adapter ∈ (Transition.run step { worker } events).adapters, ∀ envelope,
      adapter.relayed.count envelope ≤ (accepted.map outboundEnvelope).count envelope := by
  intro step accepted adapter hin envelope
  obtain ⟨i, hfound⟩ := List.mem_iff_getElem?.mp hin
  have hcounted := @Server.counted_run config float worker
    (greeted_worker hcore hnone hempty config) hnone envelope events
  rw [Server.count_map_outboundEnvelope]
  rcases hcounted.relayed i adapter hfound with hzero | ⟨c, n, -, -, hcount⟩
  · rw [hzero]
    exact Nat.zero_le _
  · exact Nat.le_trans (Nat.le_add_right _ n) hcount

theorem run_relays_once_spoken :
    let step := Server.step Sample.adapterConfig Sample.one
    let reached := Transition.run step { worker := Sample.relayer } Sample.speaks
    reached.adapters.map (fun adapter => adapter.relayed.count (Sample.event 1)) = [1] ∧
    ∀ adapter ∈ reached.adapters, adapter.relayed.count (Sample.event 1) ≤ 1 := by
  intro step reached
  refine ⟨by decide +kernel, fun adapter hin => ?_⟩
  have hcount : ((Transition.outputs step Server.accepted { worker := Sample.relayer }
      Sample.speaks).map outboundEnvelope).count (Sample.event 1) = 1 := by
    decide +kernel
  have hless := run_relays_once (Sample.reachable _) (ExtTreeMap.isEmpty_iff.mp (by decide +kernel))
    (ExtTreeMap.isEmpty_iff.mp (by decide +kernel)) Sample.adapterConfig Sample.one Sample.speaks
      adapter hin (Sample.event 1)
  exact Nat.le_trans hless (Nat.le_of_eq hcount)

end Transport

end Signalweave
