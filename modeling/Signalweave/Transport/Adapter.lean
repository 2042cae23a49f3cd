import Signalweave.Transport.Replies

/-!
# The adapters (`woven-transport-quic`)

Each connection of a client is served by a task of its own, over QUIC and over WebTransport in the
same way: it has the core make a connection, waits for the first stream of the client, and then for
whatever comes first. A client has to say hello and to authenticate before anything it asks for is
handled; on its way out the task has the core forget the connection. The tasks share one worker, and
whenever one of them waits for it the others may go on. There is no sink for inference requests,
and a run begins when nobody is connected.
-/

open Std

namespace Signalweave.Transport

open Protocol (Envelope)

/-- `QuicConfig`, as far as clients see it. -/
structure AdapterConfig where
  serverName : String := "woven"
  serverVersion : String

/-- What a task has asked the worker for. -/
inductive Call where
  | connect
  | register
  | authenticate (token : String)
  /-- `handle_authenticated`, from its start to the first answer -/
  | handle (envelope : Envelope)
  | activate (space : SpaceKey)
  | flush
  | discard
  | lose

/-- What a task waits for: the first stream of the client, anything at all, or the worker. -/
inductive Stage where
  | opening
  | serving
  | calling (call : Call)
  | closed

/-- The endpoints that clients connect to. -/
inductive Endpoint where
  | quic
  | webTransport
  deriving DecidableEq

/-- The task of a connection, and what it has got out to its client. `failed` says that the writer
or the drain has given up. -/
structure Adapter where
  endpoint : Endpoint
  connection : Option ConnectionId := none
  stage : Stage := .calling .connect
  greeted : Bool := false
  authenticated : Bool := false
  failed : Bool := false
  written : List Envelope := []
  datagrams : List Envelope := []

/-! ## Envelopes of the handshake -/

/-- What a client is answered to its hello. -/
def capabilitiesEnvelope (config : AdapterConfig) : Envelope :=
  .control .reliableOrdered
    (.capabilities Protocol.protocolVersion config.serverName config.serverVersion 0
      (1024 * 1024) (256 * 1024))

/-- What a client is answered when it has authenticated. -/
def authenticatedEnvelope (principal : PrincipalId) : Envelope :=
  .control .reliableOrdered (.authenticated principal.get none)

namespace Adapter

/-- Envelopes are put on the write channel one after the other until there is no room. -/
def write (adapter : Adapter) (envelopes : List Envelope) (room : Nat) : Adapter :=
  { adapter with written := adapter.written ++ envelopes.take room }

/-- The loop ends, and the connection is given up. -/
def leave (adapter : Adapter) : Adapter := { adapter with stage := .calling .discard }

/-- The envelopes are written, and the task goes on where all of them could be. -/
def writeAll (adapter : Adapter) (envelopes : List Envelope) (room : Nat) (next : Stage) :
    Adapter :=
  if envelopes.length ≤ room then { adapter.write envelopes room with stage := next }
  else (adapter.write envelopes room).leave

/-- An error is written, where there is room for it, and the loop ends. -/
def refuse (adapter : Adapter) (error : Envelope) (room : Nat) : Adapter :=
  (adapter.write [error] room).leave

/-! ## What comes in -/

/-- `handle_hello` -/
def handleHello (adapter : Adapter) (config : AdapterConfig) (envelope : Envelope) (room : Nat) :
    Adapter :=
  match envelope.message with
  | .control (.hello ..) =>
    if room = 0 then adapter.leave
    else { adapter.write [capabilitiesEnvelope config] room with greeted := true }
  | _ =>
    adapter.refuse (errorEnvelope envelope.messageKind .unsupportedMessage "expected Hello") room

/-- `handle_authenticate`, as far as to the question to the worker -/
def handleAuthenticate (adapter : Adapter) (envelope : Envelope) (room : Nat) : Adapter :=
  match envelope.message with
  | .control (.authenticate _ credentials) =>
    match String.fromUTF8? ⟨credentials.toArray⟩ with
    | some token => { adapter with stage := .calling (.authenticate token) }
    | none => adapter.refuse
        (errorEnvelope .authenticate .authenticationRequired "credentials must be UTF-8") room
  | _ => adapter.refuse
      (errorEnvelope envelope.messageKind .authenticationRequired "expected Authenticate") room

/-- An envelope has come in on the stream, or what cannot be read as one. -/
def receive (adapter : Adapter) (config : AdapterConfig) (frame : Except String Envelope)
    (room : Nat) : Adapter :=
  match frame with
  | .error text => adapter.refuse (errorEnvelope .unknown .malformedFrame text) room
  | .ok envelope =>
    if !adapter.greeted then adapter.handleHello config envelope room
    else if !adapter.authenticated then adapter.handleAuthenticate envelope room
    else { adapter with stage := .calling (.handle envelope) }

/-- A datagram has come in. What cannot be read as an envelope is dropped. -/
def receiveDatagram (adapter : Adapter) (frame : Except String Envelope) : Adapter :=
  if !adapter.authenticated then adapter
  else
    match frame with
    | .ok envelope => { adapter with stage := .calling (.handle envelope) }
    | .error _ => adapter

/-! ## What the worker answers -/

/-- Where `handle_authenticated` goes on when the replies are sent, unless it ends in an error. -/
def afterReplies (envelope : Envelope) (reply : Option WorkerReply) : Option Stage :=
  match envelope.message with
  | .control (.snapshotRequest _) =>
    match executed reply with
    | .ok (.snapshot _) => some .serving
    | _ => none
  | .control .subscribeSpace =>
    match spawned reply with
    | .ok _ => some (.calling (.activate (envelopeSpace envelope)))
    | .error _ => none
  | _ =>
    match executed reply with
    | .ok _ => some (.calling .flush)
    | .error _ => none

/-- What the task asks the worker for. `handle_authenticated` may end without a question. -/
def request (adapter : Adapter) (met : Surroundings) : Option WorkerRequest :=
  match adapter.stage, adapter.connection with
  | .calling .connect, _ => some (.command .transportConnected)
  | .calling call, some connection =>
    match call with
    | .connect => none
    | .register => some (.registerLifecycle connection)
    | .authenticate token => some (.command (.authenticate connection ⟨token⟩))
    | .handle envelope =>
      match handling { met with connection, sink := false } envelope with
      | .ask request => some request
      | .drop | .refuse => none
    | .activate space => some (.activateSubscription connection space)
    | .flush | .discard => some (.command (.drainOutbound connection))
    | .lose => some (.command (.transportLost connection met.clock))
  | _, _ => none

/-- The task goes on with what the worker has answered. -/
def resume (adapter : Adapter) (float : F64 → String) (call : Call) (reply : Option WorkerReply)
    (room : Nat) : Adapter :=
  match call with
  | .connect =>
    match executed reply with
    | .ok (.connected connection) =>
      { adapter with connection := some connection, stage := .opening }
    | _ => { adapter with stage := .closed }
  | .register => { adapter with stage := .serving }
  | .authenticate _ =>
    match executed reply with
    | .ok (.authenticated principal) =>
      if room = 0 then adapter.leave
      else { adapter.write [authenticatedEnvelope principal] room with
        stage := .serving
        authenticated := true }
    | _ =>
      adapter.refuse (errorEnvelope .authenticate .unauthorized "authentication failed") room
  | .handle envelope =>
    adapter.writeAll (replies float envelope reply) room
      ((afterReplies envelope reply).getD (.calling .discard))
  | .activate _ => { adapter with stage := .calling .flush }
  | .flush =>
    match executed reply with
    | .ok (.outbound messages) => adapter.writeAll (messages.map outboundEnvelope) room .serving
    | _ => { adapter with stage := .serving }
  | .discard => { adapter with stage := .calling .lose }
  | .lose => { adapter with stage := .closed }

/-- `handle_authenticated` where it ends without a question. -/
def decline (adapter : Adapter) (met : Surroundings) (envelope : Envelope) : Adapter :=
  match handling { met with connection := adapter.connection.getD ⟨0⟩, sink := false } envelope with
  | .refuse => adapter.refuse (unsupportedEnvelope envelope) met.room
  | .drop | .ask _ => adapter.leave

/-! ## The drain -/

/-- `flush_outbound_quic`: what is written, what goes out as a datagram, and whether the channel had
room for everything. -/
def flushOutbound (fits : Envelope → Bool) : Nat → List Envelope →
    List Envelope × List Envelope × Bool
  | _, [] => ([], [], true)
  | room, envelope :: rest =>
    if envelope.deliveryClass.isUnreliable then
      let (written, datagrams, flushed) := flushOutbound fits room rest
      (written, if fits envelope then envelope :: datagrams else datagrams, flushed)
    else
      match room with
      | 0 => ([], [], false)
      | room + 1 =>
        let (written, datagrams, flushed) := flushOutbound fits room rest
        (envelope :: written, datagrams, flushed)

/-- The drain has got the queue of the connection from the worker. -/
def drain (adapter : Adapter) (fits : Envelope → Bool) (room : Nat) (reply : Option WorkerReply) :
    Adapter :=
  match executed reply with
  | .ok (.outbound messages) =>
    let (written, datagrams, flushed) := flushOutbound fits room (messages.map outboundEnvelope)
    { adapter with
      written := adapter.written ++ written
      datagrams := adapter.datagrams ++ datagrams
      failed := adapter.failed || !flushed }
  | _ => adapter

/-- The drain is running: it starts after the registration and ends with the loop. -/
def drains (adapter : Adapter) : Bool :=
  match adapter.stage with
  | .serving | .calling (.authenticate _) | .calling (.handle _) | .calling (.activate _)
  | .calling .flush => true
  | _ => false

/-- What the fan-out of a request has put on the channels of the connections. -/
def deliver (adapter : Adapter) (sent : List (ConnectionId × Envelope)) : Adapter :=
  { adapter with
    written := adapter.written ++
      (sent.filter fun entry => some entry.1 == adapter.connection).map Prod.snd }

/-- The task has not ended. -/
def isActive (adapter : Adapter) : Bool :=
  match adapter.stage with
  | .closed => false
  | _ => true

end Adapter

/-! ## The server -/

/-- The worker, and the tasks of all connections that have been accepted. -/
structure Server where
  worker : Worker
  adapters : List Adapter := []

/-- What happens next, and in which task. -/
inductive AdapterEvent where
  /-- The endpoint has accepted a connection. -/
  | accept (endpoint : Endpoint)
  /-- The client has opened its stream, or has not in time. -/
  | streamOpened (i : Nat) (opened : Bool)
  | received (i : Nat) (frame : Except String Envelope) (room : Nat)
  | datagram (i : Nat) (frame : Except String Envelope)
  /-- The loop is told to shut down or finds the connection gone. -/
  | interrupted (i : Nat)
  | extraStream (i : Nat) (room : Nat)
  /-- The worker serves the call of a task, and the task goes on. -/
  | call (i : Nat) (met : Surroundings)
  | drained (i : Nat) (met : Surroundings) (fits : Envelope → Bool)
  | writerFailed (i : Nat)
  /-- The writer or the drain gives the connection up: `discard_and_disconnect`. -/
  | discarded (i : Nat) (met : Surroundings)
  | disconnected (i : Nat) (met : Surroundings)

namespace Server

/-- `MAX_CONNECTION_TASKS`, the permits of each endpoint. -/
def maxConnectionTasks : Nat := 4096

/-- The permits of an endpoint that are taken. -/
def tasksOf (server : Server) (endpoint : Endpoint) : Nat :=
  server.adapters.countP fun adapter => adapter.endpoint == endpoint && adapter.isActive

/-- Change one task. -/
def modify (server : Server) (i : Nat) (f : Adapter → Adapter) : Server :=
  { server with adapters := server.adapters.modify i f }

/-- A request is served to its end before the next one. A fan-out with calls left is not at its end
yet, and then nobody has an answer. -/
def ask (server : Server) (request : WorkerRequest)
    (works : List ((ConnectionId → Bool) × ReleaseClock)) : Option (Server × Option WorkerReply) :=
  let served := server.worker.serve request works
  if served.tasks.isEmpty then
    some ({ worker := served.worker
            adapters := server.adapters.map (·.deliver served.sent) },
      served.reply)
  else none

/-- A request of which nobody reads the answer but `f`. -/
def perform (server : Server) (i : Nat) (request : WorkerRequest) (met : Surroundings)
    (f : Option WorkerReply → Adapter → Adapter) : Server :=
  match server.ask request met.works with
  | some (served, reply) => served.modify i (f reply)
  | none => server

/-- What happens next. -/
def step (config : AdapterConfig) (float : F64 → String) (server : Server) (event : AdapterEvent) :
    Server :=
  match event with
  | .accept endpoint =>
    if server.tasksOf endpoint < maxConnectionTasks then
      { server with adapters := server.adapters ++ [{ endpoint }] }
    else server
  | .streamOpened i opened =>
    server.modify i fun adapter =>
      match adapter.stage with
      | .opening => { adapter with stage := .calling (if opened then .register else .discard) }
      | _ => adapter
  | .received i frame room =>
    server.modify i fun adapter =>
      match adapter.stage with
      | .serving => adapter.receive config frame room
      | _ => adapter
  | .datagram i frame =>
    server.modify i fun adapter =>
      match adapter.stage with
      | .serving => adapter.receiveDatagram frame
      | _ => adapter
  | .interrupted i =>
    server.modify i fun adapter =>
      match adapter.stage with
      | .serving => adapter.leave
      | _ => adapter
  | .extraStream i room =>
    server.modify i fun adapter =>
      match adapter.stage with
      | .serving => adapter.refuse (errorEnvelope .unknown .unsupportedMessage
          "only one client bidirectional stream is supported") room
      | _ => adapter
  | .call i met =>
    match server.adapters[i]? with
    | none => server
    | some adapter =>
      match adapter.stage, adapter.request met with
      | .calling call, some request =>
        server.perform i request met fun reply adapter => adapter.resume float call reply met.room
      | .calling (.handle envelope), none =>
        server.modify i fun adapter => adapter.decline met envelope
      | _, _ => server
  | .drained i met fits =>
    match (server.adapters[i]?).filter Adapter.drains with
    | some { connection := some connection, .. } =>
      server.perform i (.command (.drainOutbound connection)) met fun reply adapter =>
        adapter.drain fits met.room reply
    | _ => server
  | .writerFailed i => server.modify i fun adapter => { adapter with failed := true }
  | .discarded i met =>
    match (server.adapters[i]?).filter Adapter.failed with
    | some { connection := some connection, .. } =>
      server.perform i (.command (.drainOutbound connection)) met fun _ adapter => adapter
    | _ => server
  | .disconnected i met =>
    match (server.adapters[i]?).filter Adapter.failed with
    | some { connection := some connection, .. } =>
      server.perform i (.command (.transportLost connection met.clock)) met fun _ adapter => adapter
    | _ => server

end Server

/-! ## What a step does -/

/-- What a task does without the worker. -/
inductive Adapter.Local (config : AdapterConfig) (adapter : Adapter) : Adapter → Prop
  | stay : Local config adapter adapter
  | opened (stage : adapter.stage = .opening) (call : Call)
    (calls : call = .register ∨ call = .discard) :
    Local config adapter { adapter with stage := .calling call }
  | receive (stage : adapter.stage = .serving) (frame : Except String Envelope) (room : Nat) :
    Local config adapter (adapter.receive config frame room)
  | datagram (stage : adapter.stage = .serving) (frame : Except String Envelope) :
    Local config adapter (adapter.receiveDatagram frame)
  | leave (stage : adapter.stage = .serving) : Local config adapter adapter.leave
  | refuse (stage : adapter.stage = .serving) (related : Protocol.MessageKind)
    (code : Protocol.ProtocolErrorCode) (text : String) (room : Nat) :
    Local config adapter (adapter.refuse (errorEnvelope related code text) room)
  | decline (envelope : Envelope) (stage : adapter.stage = .calling (.handle envelope))
    (met : Surroundings) : Local config adapter (adapter.decline met envelope)
  | fail : Local config adapter { adapter with failed := true }

/-- What the tasks of a connection ask the worker for in an event of task `i`, and how they go on
with the answer. -/
inductive Adapter.Asks (float : F64 → String) (adapter : Adapter) (i : Nat) :
    AdapterEvent → WorkerRequest → (Option WorkerReply → Adapter → Adapter) → Prop
  | call (call : Call) (stage : adapter.stage = .calling call) (met : Surroundings)
    (request : WorkerRequest) (asked : adapter.request met = some request) :
    Asks float adapter i (.call i met) request fun reply adapter =>
      adapter.resume float call reply met.room
  | drain (connection : ConnectionId) (known : adapter.connection = some connection)
    (running : adapter.drains = true) (met : Surroundings) (fits : Envelope → Bool) :
    Asks float adapter i (.drained i met fits) (.command (.drainOutbound connection))
      fun reply adapter => adapter.drain fits met.room reply
  | discard (connection : ConnectionId) (known : adapter.connection = some connection)
    (failed : adapter.failed = true) (met : Surroundings) :
    Asks float adapter i (.discarded i met) (.command (.drainOutbound connection))
      fun _ adapter => adapter
  | disconnect (connection : ConnectionId) (known : adapter.connection = some connection)
    (failed : adapter.failed = true) (met : Surroundings) :
    Asks float adapter i (.disconnected i met) (.command (.transportLost connection met.clock))
      fun _ adapter => adapter

/-- The event has the queue of its connection handed to task `i`: it flushes after a request, or its
drain runs. -/
inductive Adapter.Takes (adapter : Adapter) (i : Nat) : AdapterEvent → Prop
  | flush (stage : adapter.stage = .calling .flush) (met : Surroundings) :
    Takes adapter i (.call i met)
  | drain (running : adapter.drains = true) (met : Surroundings) (fits : Envelope → Bool) :
    Takes adapter i (.drained i met fits)

namespace Server

variable {config : AdapterConfig} {float : F64 → String} {server : Server}

/-- A step accepts a connection, is one of a task, or serves a task. -/
inductive Moves (config : AdapterConfig) (float : F64 → String) (server : Server)
    (event : AdapterEvent) : Server → Prop
  | stay : Moves config float server event server
  | accept (endpoint : Endpoint) (room : server.tasksOf endpoint < maxConnectionTasks) :
    Moves config float server event { server with adapters := server.adapters ++ [{ endpoint }] }
  | locally (i : Nat) (f : Adapter → Adapter)
    (moves : ∀ adapter, server.adapters[i]? = some adapter → adapter.Local config (f adapter)) :
    Moves config float server event (server.modify i f)
  | served (i : Nat) (adapter : Adapter) (found : server.adapters[i]? = some adapter)
    (request : WorkerRequest) (f : Option WorkerReply → Adapter → Adapter)
    (asks : adapter.Asks float i event request f)
    (works : List ((ConnectionId → Bool) × ReleaseClock))
    (done : (server.worker.serve request works).tasks = []) :
    Moves config float server event
      { worker := (server.worker.serve request works).worker
        adapters := (server.adapters.map
          (·.deliver (server.worker.serve request works).sent)).modify i
            (f (server.worker.serve request works).reply) }

theorem moves_perform {i : Nat} {adapter : Adapter} (hfound : server.adapters[i]? = some adapter)
    {request : WorkerRequest} {f : Option WorkerReply → Adapter → Adapter}
    {event : AdapterEvent} (hasks : adapter.Asks float i event request f) (met : Surroundings) :
    Moves config float server event (server.perform i request met f) := by
  unfold perform ask
  dsimp only
  by_cases hdone : (server.worker.serve request met.works).tasks = []
  · rw [if_pos (List.isEmpty_iff.mpr hdone)]
    exact .served i adapter hfound request f hasks met.works hdone
  · rw [if_neg (fun h => hdone (List.isEmpty_iff.mp h))]
    exact .stay

theorem moves_step (event : AdapterEvent) :
    Moves config float server event (server.step config float event) := by
  cases event with
  | accept endpoint =>
    unfold step
    dsimp only
    split
    · rename_i hroom
      exact .accept endpoint hroom
    · exact .stay
  | streamOpened i opened =>
    refine .locally i _ fun adapter _ => ?_
    split
    · rename_i hstage
      refine .opened hstage _ ?_
      cases opened
      · exact .inr rfl
      · exact .inl rfl
    · exact .stay
  | received i frame room =>
    refine .locally i _ fun adapter _ => ?_
    split
    · rename_i hstage
      exact .receive hstage frame room
    · exact .stay
  | datagram i frame =>
    refine .locally i _ fun adapter _ => ?_
    split
    · rename_i hstage
      exact .datagram hstage frame
    · exact .stay
  | interrupted i =>
    refine .locally i _ fun adapter _ => ?_
    split
    · rename_i hstage
      exact .leave hstage
    · exact .stay
  | extraStream i room =>
    refine .locally i _ fun adapter _ => ?_
    split
    · rename_i hstage
      exact .refuse hstage _ _ _ room
    · exact .stay
  | call i met =>
    unfold step
    dsimp only
    split
    · exact .stay
    · rename_i adapter hfound
      split
      · rename_i call request hstage hasked
        exact moves_perform hfound (.call call hstage met request hasked) met
      · rename_i envelope hstage hasked
        refine .locally i _ fun other hother => ?_
        obtain rfl := Option.some.inj (hfound.symm.trans hother)
        exact .decline envelope hstage met
      · exact .stay
  | drained i met fits =>
    unfold step
    dsimp only
    split
    · rename_i hfiltered
      obtain ⟨hfound, hdrains⟩ := Option.filter_eq_some_iff.mp hfiltered
      exact moves_perform hfound (.drain _ rfl hdrains met fits) met
    · exact .stay
  | writerFailed i => exact .locally i _ fun adapter _ => .fail
  | discarded i met =>
    unfold step
    dsimp only
    split
    · rename_i hfiltered
      obtain ⟨hfound, hfailed⟩ := Option.filter_eq_some_iff.mp hfiltered
      exact moves_perform hfound (.discard _ rfl hfailed met) met
    · exact .stay
  | disconnected i met =>
    unfold step
    dsimp only
    split
    · rename_i hfiltered
      obtain ⟨hfound, hfailed⟩ := Option.filter_eq_some_iff.mp hfiltered
      exact moves_perform hfound (.disconnect _ rfl hfailed met) met
    · exact .stay

end Server

end Signalweave.Transport
