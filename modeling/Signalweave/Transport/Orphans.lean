import Signalweave.Core.Integrity
import Signalweave.Core.Leaks
import Signalweave.Transport.Served

/-!
# No connection is orphaned

A connection of the core is made for a task and forgotten before that task ends, however the tasks
take turns and whoever gives the connection up first. So no more connections are there than tasks,
and nothing is left in any session when the last task has ended.
-/

open Std

namespace Signalweave

open Stateful WovenCore

variable {core core' : WovenCore} {c : ConnectionId} {op : Op}

/-! ## The connections of the core -/

/-- Nothing is left of anybody. -/
structure WovenCore.Deserted (core : WovenCore) : Prop where
  connections : ∀ c, c ∉ core.connections
  members : ∀ key c, c ∉ (core.sessionAt key).members
  subscribers : ∀ key space c, c ∉ (core.sessionAt key).subscribersOf space
  entities : ∀ key (id : EntityId), id ∉ (core.sessionAt key).entities
  sequences : ∀ key, ∀ sequence : SequenceKey, sequence ∉ (core.sessionAt key).sequences
  leases : ∀ slot, core.leaseAt slot = none

/-- Everything in a session is of a member, and every member is a connection. -/
theorem Reachable.deserted (h : Reachable core) (hnone : ∀ c, c ∉ core.connections) :
    core.Deserted := by
  have hconsistent := h.sound.consistent
  have hmembers : ∀ key c, c ∉ (core.sessionAt key).members := by
    intro key c hin
    have hmembership := (hconsistent.membership c key).mp hin
    rw [connectionAt_of_notMem (hnone c)] at hmembership
    exact ExtTreeSet.not_mem_empty hmembership
  refine ⟨hnone, hmembers, ?_, ?_, ?_, ?_⟩
  · intro key space c hin
    have hsubscription := (hconsistent.subscription c key space).mp hin
    rw [connectionAt_of_notMem (hnone c)] at hsubscription
    exact ExtTreeSet.not_mem_empty hsubscription
  · intro key id hin
    obtain ⟨record, hrecord⟩ := Option.isSome_iff_exists.mp
      (ExtTreeMap.mem_iff_isSome_getElem?.mp hin)
    exact hmembers key _ ((hconsistent.session key).owners id record hrecord)
  · exact fun key sequence hin => hmembers key _ ((hconsistent.session key).sequenceOwners _ hin)
  · intro slot
    by_contra hheld
    obtain ⟨lease, hlease⟩ := Option.ne_none_iff_exists'.mp hheld
    exact hnone _ (h.held.permits.live hlease)

/-- The number of the next connection never falls. -/
theorem nextConnectionId_step (h : core.Sound) (op : Op) :
    core.nextConnectionId ≤ (step core op).nextConnectionId := by
  by_cases hop : op.anonymous
  · exact ((changes_step h op).descends hop).nextConnectionId
  · cases op with
    | transportConnected =>
      have hends : Ends transportConnected core
          (fun _ core' => core.nextConnectionId ≤ core'.nextConnectionId)
          fun _ core' => core.nextConnectionId ≤ core'.nextConnectionId := by
        apply transportConnected_connects.mono
        · rintro _ _ ⟨-, outbound, rfl⟩
          exact Nat.le_succ _
        · rintro _ _ (rfl | rfl)
          · exact Nat.le_refl _
          · exact Nat.le_succ _
      rw [show step core .transportConnected = _ from after_discard _ _]
      exact hends.after
    | authenticate connection credentials =>
      have hends : Ends (authenticate connection credentials) core
          (fun _ core' => core.nextConnectionId ≤ core'.nextConnectionId)
          fun _ core' => core.nextConnectionId ≤ core'.nextConnectionId := by
        apply authenticate_signsIn.mono
        · rintro _ _ ⟨-, -, principal, -, rfl⟩
          exact Nat.le_refl _
        · rintro _ _ rfl
          exact Nat.le_refl _
      rw [show step core (.authenticate connection credentials) = _ from after_discard _ _]
      exact hends.after
    | spawnEntity connection spaceKey epoch =>
      have hends : Ends (spawnEntity connection spaceKey epoch) core
          (fun _ core' => core.nextConnectionId ≤ core'.nextConnectionId)
          fun _ core' => core.nextConnectionId ≤ core'.nextConnectionId := by
        apply spawnEntity_spawns.mono
        · rintro _ _ ⟨-, -, ⟨principal, -, rfl⟩, -⟩
          exact Nat.le_refl _
        · rintro _ _ rfl
          exact Nat.le_refl _
      rw [show step core (.spawnEntity connection spaceKey epoch) = _ from after_discard _ _]
      exact hends.after
    | _ => exact absurd trivial hop

namespace Transport

open Protocol (Envelope)

/-- Operations that make no connection leave no connection that was not there. -/
theorem LedBy.live (h : LedBy (· ≠ .transportConnected) core core') (hcore : Reachable core) :
    ∀ c ∈ core'.connections, c ∈ core.connections := by
  have hboth := h.invariant (J := fun after => Reachable after ∧
    ∀ c ∈ after.connections, c ∈ core.connections) ?_ ⟨hcore, fun _ => id⟩
  · exact hboth.2
  · rintro before op hop ⟨hbefore, hlive⟩
    exact ⟨hbefore.next op, fun c hin => hlive c (live_of_step hbefore.sound hop hin)⟩

theorem LedBy.nextConnectionId {P : Op → Prop} (h : LedBy P core core') (hcore : Reachable core) :
    core.nextConnectionId ≤ core'.nextConnectionId := by
  have hboth := h.invariant (J := fun after => Reachable after ∧
    core.nextConnectionId ≤ after.nextConnectionId) ?_ ⟨hcore, Nat.le_refl _⟩
  · exact hboth.2
  · rintro before op - ⟨hbefore, hnext⟩
    exact ⟨hbefore.next op, Nat.le_trans hnext (nextConnectionId_step hbefore.sound op)⟩

/-! ## The tasks -/

/-- The task has the connection, and has not ended. -/
def Adapter.Serves (adapter : Adapter) (c : ConnectionId) : Prop :=
  adapter.connection = some c ∧ adapter.isActive = true

/-- Every connection of the core is in the care of one task. -/
structure Server.Housed (server : Server) : Prop where
  core : Reachable server.worker.core
  numbered : ∀ (i : Nat) adapter c, server.adapters[i]? = some adapter →
    adapter.connection = some c → c.get < server.worker.core.nextConnectionId
  distinct : ∀ (i j : Nat) adapter other c, server.adapters[i]? = some adapter →
    server.adapters[j]? = some other → adapter.connection = some c → other.connection = some c →
      i = j
  housed : ∀ c ∈ server.worker.core.connections, ∃ (i : Nat) (adapter : Adapter),
    server.adapters[i]? = some adapter ∧ adapter.Serves c
  connecting : ∀ (i : Nat) adapter, server.adapters[i]? = some adapter →
    adapter.stage = .calling .connect → adapter.connection = none
  permits : ∀ endpoint, server.tasksOf endpoint ≤ Server.maxConnectionTasks

/-- A task goes on with the connection that it has, or ends when the core has forgotten it. -/
structure Adapter.Keeps (core : WovenCore) (adapter next : Adapter) : Prop where
  endpoint : next.endpoint = adapter.endpoint
  connection : next.connection = adapter.connection
  ended : next.isActive = true → adapter.isActive = true
  active : ∀ c ∈ core.connections, adapter.Serves c → next.isActive = true
  connecting : next.stage = .calling .connect → adapter.stage = .calling .connect

variable {config : AdapterConfig} {float : F64 → String} {server : Server}
  {adapter next : Adapter} {worker : Worker} {i : Nat}

theorem Adapter.Keeps.of_active (hendpoint : next.endpoint = adapter.endpoint)
    (hconnection : next.connection = adapter.connection) (hbefore : adapter.isActive = true)
    (hactive : next.isActive = true) (hstage : next.stage ≠ .calling .connect) :
    adapter.Keeps core next :=
  ⟨hendpoint, hconnection, fun _ => hbefore, fun _ _ _ => hactive, fun h => absurd h hstage⟩

theorem Adapter.Keeps.of_stage (hendpoint : next.endpoint = adapter.endpoint)
    (hconnection : next.connection = adapter.connection) (hstage : next.stage = adapter.stage) :
    adapter.Keeps core next := by
  have hactive : next.isActive = adapter.isActive := by
    unfold isActive
    rw [hstage]
  exact ⟨hendpoint, hconnection, fun h => hactive ▸ h, fun _ _ h => hactive ▸ h.2,
    fun h => hstage ▸ h⟩

theorem getElem?_amend {adapters : List Adapter} {sent : List (ConnectionId × Envelope)}
    {f : Adapter → Adapter} {j : Nat} :
    ((adapters.map (·.deliver sent)).modify i f)[j]? =
      (adapters[j]?).map fun adapter =>
        if i = j then f (adapter.deliver sent) else adapter.deliver sent := by
  rw [List.getElem?_modify, List.getElem?_map, Option.map_eq_map, Option.map_map]
  rfl

theorem countP_modify_le {α : Type} {p : α → Bool} {f : α → α} {list : List α} {i : Nat}
    (h : ∀ a, list[i]? = some a → p (f a) = true → p a = true) :
    (list.modify i f).countP p ≤ list.countP p := by
  induction list generalizing i with
  | nil => rw [List.modify_nil]
  | cons a rest ih =>
    cases i with
    | zero =>
      have hfirst := h a rfl
      rw [List.modify_zero_cons, List.countP_cons, List.countP_cons]
      split <;> split <;> simp_all
    | succ i =>
      rw [List.modify_succ_cons, List.countP_cons, List.countP_cons]
      exact Nat.add_le_add_right (ih h) _

theorem tasksOf_amend {endpoint : Endpoint} {sent : List (ConnectionId × Envelope)}
    {f : Adapter → Adapter} (hended : ∀ adapter, server.adapters[i]? = some adapter →
      (f (adapter.deliver sent)).endpoint = adapter.endpoint ∧
        ((f (adapter.deliver sent)).isActive = true → adapter.isActive = true)) :
    Server.tasksOf { worker, adapters := (server.adapters.map (·.deliver sent)).modify i f }
      endpoint ≤ server.tasksOf endpoint := by
  have hmap : (server.adapters.map (·.deliver sent)).countP (fun adapter =>
      adapter.endpoint == endpoint && adapter.isActive) = server.tasksOf endpoint := by
    rw [List.countP_map]
    rfl
  unfold Server.tasksOf at hmap ⊢
  rw [← hmap]
  apply countP_modify_le
  intro delivered hdelivered hcounts
  rw [List.getElem?_map] at hdelivered
  obtain ⟨adapter, hfound, rfl⟩ := Option.map_eq_some_iff.mp hdelivered
  obtain ⟨hendpoint, hactive⟩ := hended adapter hfound
  rw [Bool.and_eq_true, hendpoint] at hcounts
  exact Bool.and_eq_true_iff.mpr ⟨hcounts.1, hactive hcounts.2⟩

theorem tasksOf_accept {endpoint other : Endpoint} :
    Server.tasksOf { server with adapters := server.adapters ++ [{ endpoint }] } other =
      server.tasksOf other + if endpoint = other then 1 else 0 := by
  unfold Server.tasksOf
  rw [List.countP_append, List.countP_singleton]
  cases endpoint <;> cases other <;> rfl

/-- A step that makes no connection, where the task that it is about goes on. -/
theorem Server.Housed.amend (h : server.Housed) {sent : List (ConnectionId × Envelope)}
    {f : Adapter → Adapter} (hcore : Reachable worker.core)
    (hnext : server.worker.core.nextConnectionId ≤ worker.core.nextConnectionId)
    (hlive : ∀ c ∈ worker.core.connections, c ∈ server.worker.core.connections)
    (hkeeps : ∀ adapter, server.adapters[i]? = some adapter →
      adapter.Keeps worker.core (f (adapter.deliver sent))) :
    Server.Housed
      { worker, adapters := (server.adapters.map (·.deliver sent)).modify i f } := by
  have hbefore : ∀ (j : Nat) after,
      ((server.adapters.map (·.deliver sent)).modify i f)[j]? = some after →
        ∃ adapter, server.adapters[j]? = some adapter ∧ adapter.Keeps worker.core after := by
    intro j after hafter
    rw [getElem?_amend] at hafter
    obtain ⟨adapter, hfound, rfl⟩ := Option.map_eq_some_iff.mp hafter
    refine ⟨adapter, hfound, ?_⟩
    split
    · rename_i hij
      exact hkeeps adapter (hij ▸ hfound)
    · exact .of_stage rfl rfl rfl
  have hended : ∀ adapter, server.adapters[i]? = some adapter →
      (f (adapter.deliver sent)).endpoint = adapter.endpoint ∧
        ((f (adapter.deliver sent)).isActive = true → adapter.isActive = true) :=
    fun adapter hfound => ⟨(hkeeps adapter hfound).endpoint, (hkeeps adapter hfound).ended⟩
  refine ⟨hcore, ?_, ?_, ?_, ?_, fun endpoint => (tasksOf_amend hended).trans (h.permits endpoint)⟩
  · intro j after c hafter hconnection
    obtain ⟨adapter, hfound, hadapter⟩ := hbefore j after hafter
    rw [hadapter.connection] at hconnection
    exact Nat.lt_of_lt_of_le (h.numbered j adapter c hfound hconnection) hnext
  · intro j k after other c hafter hother hconnection hconnection'
    obtain ⟨adapter, hfound, hadapter⟩ := hbefore j after hafter
    obtain ⟨adapter', hfound', hadapter'⟩ := hbefore k other hother
    rw [hadapter.connection] at hconnection
    rw [hadapter'.connection] at hconnection'
    exact h.distinct j k adapter adapter' c hfound hfound' hconnection hconnection'
  · intro c hin
    obtain ⟨j, adapter, hfound, hserves⟩ := h.housed c (hlive c hin)
    refine ⟨j, _, (getElem?_amend (i := i)).trans (by rw [hfound]; rfl), ?_⟩
    split
    · rename_i hij
      have hadapter := hkeeps adapter (hij ▸ hfound)
      exact ⟨hadapter.connection.trans hserves.1, hadapter.active c hin hserves⟩
    · exact hserves
  · intro j after hafter hstage
    obtain ⟨adapter, hfound, hadapter⟩ := hbefore j after hafter
    rw [hadapter.connection]
    exact h.connecting j adapter hfound (hadapter.connecting hstage)

/-! ## What a task does -/

/-- The task goes on with the connection that it has. -/
structure Adapter.GoesOn (adapter next : Adapter) : Prop where
  endpoint : next.endpoint = adapter.endpoint
  connection : next.connection = adapter.connection
  active : next.isActive = true
  stage : next.stage ≠ .calling .connect

namespace Adapter

theorem GoesOn.keeps (h : adapter.GoesOn next) (hactive : adapter.isActive = true) :
    adapter.Keeps core next :=
  .of_active h.endpoint h.connection hactive h.active h.stage

theorem GoesOn.of_serving (hstage : adapter.stage = .serving) : adapter.GoesOn adapter :=
  ⟨rfl, rfl, by rw [isActive, hstage], by rw [hstage]; exact nofun⟩

theorem goesOn_leave : adapter.GoesOn adapter.leave := ⟨rfl, rfl, rfl, nofun⟩

theorem goesOn_refuse (error : Envelope) (room : Nat) :
    adapter.GoesOn (adapter.refuse error room) := ⟨rfl, rfl, rfl, nofun⟩

theorem goesOn_writeAll (envelopes : List Envelope) (room : Nat) {stage : Stage}
    (hclosed : stage ≠ .closed) (hconnect : stage ≠ .calling .connect) :
    adapter.GoesOn (adapter.writeAll envelopes room stage) := by
  unfold writeAll
  split
  · refine ⟨rfl, rfl, ?_, hconnect⟩
    unfold isActive
    split
    · exact absurd ‹_› hclosed
    · rfl
  · exact ⟨rfl, rfl, rfl, nofun⟩

theorem goesOn_receive (hstage : adapter.stage = .serving) (frame : Except String Envelope)
    (room : Nat) : adapter.GoesOn (adapter.receive config frame room) := by
  unfold receive handleHello handleAuthenticate
  have hserving := GoesOn.of_serving hstage
  cases frame with
  | error text => exact goesOn_refuse _ room
  | ok envelope =>
    dsimp only
    split
    · split
      · split
        · exact goesOn_leave
        · exact ⟨rfl, rfl, hserving.active, hserving.stage⟩
      · exact goesOn_refuse _ room
    · split
      · split
        · split
          · exact ⟨rfl, rfl, rfl, nofun⟩
          · exact goesOn_refuse _ room
        · exact goesOn_refuse _ room
      · exact ⟨rfl, rfl, rfl, nofun⟩

theorem goesOn_receiveDatagram (hstage : adapter.stage = .serving)
    (frame : Except String Envelope) : adapter.GoesOn (adapter.receiveDatagram frame) := by
  unfold receiveDatagram
  split
  · exact .of_serving hstage
  · split
    · exact ⟨rfl, rfl, rfl, nofun⟩
    · exact .of_serving hstage

theorem goesOn_decline (met : Surroundings) (envelope : Envelope) :
    adapter.GoesOn (adapter.decline met envelope) := by
  unfold decline
  split
  · exact goesOn_refuse _ _
  · exact goesOn_leave
  · exact goesOn_leave

theorem Local.keeps (h : adapter.Local config next) : adapter.Keeps core next := by
  have hactive : ∀ {stage : Stage}, adapter.stage = stage → stage ≠ .closed →
      adapter.isActive = true := by
    rintro stage hstage hne
    unfold isActive
    split
    · exact absurd (hstage.symm.trans ‹_›) hne
    · rfl
  cases h with
  | stay => exact .of_stage rfl rfl rfl
  | opened stage call calls =>
    refine GoesOn.keeps ⟨rfl, rfl, rfl, ?_⟩ (hactive stage nofun)
    rcases calls with rfl | rfl <;> exact nofun
  | receive stage frame room => exact (goesOn_receive stage frame room).keeps (hactive stage nofun)
  | datagram stage frame => exact (goesOn_receiveDatagram stage frame).keeps (hactive stage nofun)
  | leave stage => exact goesOn_leave.keeps (hactive stage nofun)
  | refuse stage related code text room =>
    exact (goesOn_refuse _ room).keeps (hactive stage nofun)
  | decline envelope stage met => exact (goesOn_decline met envelope).keeps (hactive stage nofun)
  | fail => exact .of_stage rfl rfl rfl

theorem goesOn_resume {call : Call} (hconnect : call ≠ .connect) (hlose : call ≠ .lose)
    (reply : Option WorkerReply) (room : Nat) :
    adapter.GoesOn (adapter.resume float call reply room) := by
  cases call with
  | connect => exact absurd rfl hconnect
  | register => exact ⟨rfl, rfl, rfl, nofun⟩
  | authenticate token =>
    unfold resume
    dsimp only
    split
    · split
      · exact goesOn_leave
      · exact ⟨rfl, rfl, rfl, nofun⟩
    · exact goesOn_refuse _ room
  | handle envelope =>
    have hstage : (afterReplies envelope reply).getD (.calling .discard) ≠ .closed ∧
        (afterReplies envelope reply).getD (.calling .discard) ≠ .calling .connect := by
      unfold afterReplies
      split <;> split <;> exact ⟨nofun, nofun⟩
    exact goesOn_writeAll _ room hstage.1 hstage.2
  | activate space => exact ⟨rfl, rfl, rfl, nofun⟩
  | flush =>
    unfold resume
    dsimp only
    split
    · exact goesOn_writeAll _ room nofun nofun
    · exact ⟨rfl, rfl, rfl, nofun⟩
  | discard => exact ⟨rfl, rfl, rfl, nofun⟩
  | lose => exact absurd rfl hlose

/-- An envelope makes no connection and sends to none directly. -/
theorem mild_handling {met : Surroundings} {envelope : Envelope} {request : WorkerRequest}
    (h : handling met envelope = .ask request) :
    .transportConnected ∉ request.ops ∧ request.indirect := by
  unfold handling at h
  dsimp only at h
  split at h
  · split at h <;> cases h
  · split at h <;> cases h
  · cases h; exact ⟨nofun, trivial⟩
  · cases h; exact ⟨by simp [WorkerRequest.ops], trivial⟩
  · cases h; exact ⟨by simp [WorkerRequest.ops, Command.op], trivial⟩
  · cases h; exact ⟨by simp [WorkerRequest.ops, Command.op], trivial⟩
  · cases h; exact ⟨by simp [WorkerRequest.ops, Command.op], trivial⟩
  · split at h <;> cases h
    exact ⟨by simp [WorkerRequest.ops, Command.op], trivial⟩
  · split at h <;> cases h
    exact ⟨by simp [WorkerRequest.ops, Command.op], trivial⟩
  · split at h <;> cases h
    exact ⟨by simp [WorkerRequest.ops, Command.op], trivial⟩
  · cases h

end Adapter

/-! ## What the worker does for a task -/

variable {works : List ((ConnectionId → Bool) × ReleaseClock)} {request : WorkerRequest}
  {f : Option WorkerReply → Adapter → Adapter}

theorem not_connects_of_tidies (h : op.tidies) : op ≠ .transportConnected := by
  rintro rfl
  exact h

/-- The fan-out of a request makes no connection. -/
theorem live_of_serve (hcore : Reachable worker.core) (hindirect : request.indirect)
    (hlive : c ∈ (worker.serve request works).worker.core.connections) :
    c ∈ (worker.handle request).1.core.connections :=
  ((along_serve hindirect works).core.mono fun _ => not_connects_of_tidies).live
    (ledBy_handle.reachable hcore) c hlive

theorem live_serve (hcore : Reachable worker.core) (hindirect : request.indirect)
    (hops : .transportConnected ∉ request.ops)
    (hlive : c ∈ (worker.serve request works).worker.core.connections) :
    c ∈ worker.core.connections := by
  refine (ledBy_handle.mono ?_).live hcore c (live_of_serve hcore hindirect hlive)
  rintro op hin rfl
  exact hops hin

/-- A connection that a task gives up is gone. -/
theorem lost_serve (hcore : Reachable worker.core) {clock : ReleaseClock} :
    c ∉ (worker.serve (.command (.transportLost c clock)) works).worker.core.connections := by
  intro hlive
  replace hlive := @live_of_serve _ _ _ (.command (.transportLost c clock)) hcore trivial hlive
  rw [Worker.core_handle_command] at hlive
  have hends : Ends (transportLost c clock) worker.core (fun _ core' => c ∉ core'.connections)
      fun _ core' => c ∉ core'.connections := by
    apply (transportLost_loses hcore.sound.consistent clock).mono
    · rintro summary core' ⟨-, -, hloses⟩ hin
      exact ((hloses.live c).mp hin).2 rfl
    · rintro _ _ ⟨rfl, hzero | hdead⟩
      · intro hin
        have hpositive := (hcore.sound.consistent.connectionIds c hin).1
        omega
      · exact hdead
  rw [show after (Command.transportLost c clock).handle worker.core = _ from
    Command.after_map _ _] at hlive
  exact hends.after hlive

/-- What a task gets that asks for a connection. -/
theorem connect_serve (hcore : Reachable worker.core) :
    (executed (worker.serve (.command .transportConnected) works).reply =
        .ok (.connected ⟨worker.core.nextConnectionId⟩) ∧
      worker.core.nextConnectionId <
        (worker.serve (.command .transportConnected) works).worker.core.nextConnectionId ∧
      ∀ c ∈ (worker.serve (.command .transportConnected) works).worker.core.connections,
        c ∈ worker.core.connections ∨ c = ⟨worker.core.nextConnectionId⟩) ∨
    ((∃ error, executed (worker.serve (.command .transportConnected) works).reply =
        .error error) ∧
      ∀ c ∈ (worker.serve (.command .transportConnected) works).worker.core.connections,
        c ∈ worker.core.connections) := by
  have halong := @along_serve (.command .transportConnected) worker trivial works
  have hlive : ∀ c ∈ (worker.serve (.command .transportConnected) works).worker.core.connections,
      c ∈ (worker.handle (.command .transportConnected)).1.core.connections :=
    fun c => @live_of_serve c worker works (.command .transportConnected) hcore trivial
  have hhandled : Reachable (worker.handle (.command .transportConnected)).1.core :=
    ledBy_handle.reachable hcore
  have hnext := halong.core.nextConnectionId hhandled
  have hhandle : (worker.handle (.command .transportConnected)).1.core =
      after transportConnected worker.core :=
    (Worker.core_handle_command _).trans (Command.after_map _ _)
  rw [halong.reply]
  rw [hhandle] at hlive hnext
  rcases returns_or_fails transportConnected worker.core with ⟨c, hends⟩ | ⟨error, hends⟩
  · obtain ⟨rfl, outbound, hcore'⟩ := transportConnected_connects.returns hends
    left
    refine ⟨?_, ?_, ?_⟩
    · have hresult : (Command.transportConnected).handle worker.core = .ok _ _ :=
        returns_map.mpr ⟨_, hends, rfl⟩
      simp only [Worker.handle, hresult]
      rfl
    · rw [hcore'] at hnext
      exact hnext
    · intro c hin
      have hin' := hlive c hin
      rw [hcore'] at hin'
      rcases OrderedMap.mem_insert.mp hin' with rfl | hin'
      · exact .inr rfl
      · exact .inl hin'
  · right
    refine ⟨⟨.core error, ?_⟩, ?_⟩
    · have hresult : (Command.transportConnected).handle worker.core = .error error _ :=
        fails_map.mpr hends
      simp only [Worker.handle, hresult]
      rfl
    · intro c hin
      have hin' := hlive c hin
      rcases transportConnected_connects.fails hends with hcore' | hcore' <;>
      · rw [hcore'] at hin'
        exact hin'

namespace Adapter

/-- What a task that has its connection asks for. -/
theorem request_eq_some {call : Call} (hstage : adapter.stage = .calling call)
    (hcall : call ≠ .connect) {met : Surroundings} (h : adapter.request met = some request) :
    ∃ connection, adapter.connection = some connection ∧
      match call with
      | .connect => False
      | .register => request = .registerLifecycle connection
      | .authenticate token => request = .command (.authenticate connection ⟨token⟩)
      | .handle envelope =>
        handling { met with connection, sink := false } envelope = .ask request
      | .activate space => request = .activateSubscription connection space
      | .flush | .discard => request = .command (.drainOutbound connection)
      | .lose => request = .command (.transportLost connection met.clock) := by
  unfold Adapter.request at h
  rw [hstage] at h
  cases hconnection : adapter.connection with
  | none =>
    rw [hconnection] at h
    cases call <;> simp at h hcall
  | some connection =>
    rw [hconnection] at h
    refine ⟨connection, rfl, ?_⟩
    cases call with
    | connect => exact absurd rfl hcall
    | handle envelope =>
      dsimp only at h ⊢
      split at h
      · rename_i asked hasked
        rw [hasked, Option.some.inj h]
      · cases h
      · cases h
    | _ => exact (Option.some.inj h).symm

/-- A task that asks the worker asks for its connection, or it goes on with the one that it has. -/
theorem Asks.keeps {i : Nat} {event : AdapterEvent} (h : adapter.Asks float i event request f)
    (hcore : Reachable worker.core) :
    (adapter.stage = .calling .connect ∧ request = .command .transportConnected ∧
      ∃ room, f = fun reply adapter => adapter.resume float .connect reply room) ∨
    .transportConnected ∉ request.ops ∧ request.indirect ∧ ∀ works sent,
      adapter.Keeps (worker.serve request works).worker.core
        (f (worker.serve request works).reply (adapter.deliver sent)) := by
  cases h with
  | call call stage met request asked =>
    have hactive : adapter.isActive = true := by rw [isActive, stage]
    have hgoes : call ≠ .connect → call ≠ .lose → ∀ works sent,
        adapter.Keeps (worker.serve request works).worker.core
          ((adapter.deliver sent).resume float call (worker.serve request works).reply
            met.room) := by
      intro hconnect hlose works sent
      obtain ⟨hendpoint, hconnection, hgoes, hstage⟩ :=
        @goesOn_resume float (adapter.deliver sent) call hconnect hlose
          (worker.serve request works).reply met.room
      exact .of_active hendpoint hconnection hactive hgoes hstage
    by_cases hconnect : call = .connect
    · subst hconnect
      refine .inl ⟨stage, ?_, met.room, rfl⟩
      unfold Adapter.request at asked
      rw [stage] at asked
      exact (Option.some.inj asked).symm
    · obtain ⟨connection, hconnection, hrequest⟩ := request_eq_some stage hconnect asked
      right
      cases call with
      | connect => exact absurd rfl hconnect
      | handle envelope =>
        obtain ⟨hops, hindirect⟩ := mild_handling hrequest
        exact ⟨hops, hindirect, hgoes nofun nofun⟩
      | lose =>
        obtain rfl := hrequest
        refine ⟨by simp [WorkerRequest.ops, Command.op], trivial, fun works sent => ?_⟩
        refine ⟨rfl, rfl, fun _ => hactive, ?_, nofun⟩
        rintro c hlive ⟨hserves, -⟩
        rw [hconnection] at hserves
        cases hserves
        exact absurd hlive (lost_serve hcore)
      | register | activate space =>
        obtain rfl := hrequest
        exact ⟨nofun, trivial, hgoes nofun nofun⟩
      | authenticate token =>
        obtain rfl := hrequest
        exact ⟨by simp [WorkerRequest.ops, Command.op], trivial, hgoes nofun nofun⟩
      | flush | discard =>
        obtain rfl := hrequest
        exact ⟨by simp [WorkerRequest.ops, Command.op], trivial, hgoes nofun nofun⟩
  | drain connection known running met fits =>
    refine .inr ⟨by simp [WorkerRequest.ops, Command.op], trivial, fun works sent => ?_⟩
    show adapter.Keeps _ (Adapter.drain _ fits met.room _)
    unfold Adapter.drain
    split <;> exact .of_stage rfl rfl rfl
  | discard connection known failed met =>
    exact .inr ⟨by simp [WorkerRequest.ops, Command.op], trivial,
      fun works sent => .of_stage rfl rfl rfl⟩
  | disconnect connection known failed met =>
    exact .inr ⟨by simp [WorkerRequest.ops, Command.op], trivial,
      fun works sent => .of_stage rfl rfl rfl⟩

end Adapter

/-! ## What a step does -/

namespace Server

theorem housed_start (hcore : Reachable worker.core)
    (hnone : ∀ c, c ∉ worker.core.connections) : Housed { worker } := by
  have hempty : ∀ (i : Nat) adapter, ([] : List Adapter)[i]? ≠ some adapter := by simp
  refine ⟨hcore, ?_, ?_, ?_, ?_, ?_⟩
  · exact fun i adapter c hfound => absurd hfound (hempty i adapter)
  · exact fun i j adapter other c hfound => absurd hfound (hempty i adapter)
  · exact fun c hin => absurd hin (hnone c)
  · exact fun i adapter hfound => absurd hfound (hempty i adapter)
  · intro endpoint
    rw [show tasksOf { worker } endpoint = 0 from List.countP_nil]
    exact Nat.zero_le _

theorem Housed.accept (h : server.Housed) {endpoint : Endpoint}
    (hroom : server.tasksOf endpoint < maxConnectionTasks) :
    Housed { server with adapters := server.adapters ++ [{ endpoint }] } := by
  have hold : ∀ (i : Nat) adapter,
      (server.adapters ++ [({ endpoint } : Adapter)])[i]? = some adapter →
        server.adapters[i]? = some adapter ∨ adapter.connection = none := by
    intro i adapter hfound
    rw [List.getElem?_append] at hfound
    split at hfound
    · exact .inl hfound
    · obtain rfl := List.mem_singleton.mp (List.mem_of_getElem? hfound)
      exact .inr rfl
  refine ⟨h.core, ?_, ?_, ?_, ?_, ?_⟩
  · intro i adapter c hfound hconnection
    rcases hold i adapter hfound with hfound | hnone
    · exact h.numbered i adapter c hfound hconnection
    · rw [hnone] at hconnection
      cases hconnection
  · intro i j adapter other c hfound hfound' hconnection hconnection'
    rcases hold i adapter hfound with hfound | hnone
    · rcases hold j other hfound' with hfound' | hnone
      · exact h.distinct i j adapter other c hfound hfound' hconnection hconnection'
      · rw [hnone] at hconnection'
        cases hconnection'
    · rw [hnone] at hconnection
      cases hconnection
  · intro c hin
    obtain ⟨i, adapter, hfound, hserves⟩ := h.housed c hin
    have hlength := (List.getElem?_eq_some_iff.mp hfound).choose
    exact ⟨i, adapter, (List.getElem?_append_left hlength).trans hfound, hserves⟩
  · intro i adapter hfound hstage
    rcases hold i adapter hfound with hfound | hnone
    · exact h.connecting i adapter hfound hstage
    · exact hnone
  · intro other
    rw [tasksOf_accept]
    split
    · rename_i hother
      subst hother
      exact Nat.succ_le_of_lt hroom
    · rw [Nat.add_zero]
      exact h.permits other

/-- The task of a connection that the worker has just made. -/
theorem Housed.connect (h : server.Housed) (hfound : server.adapters[i]? = some adapter)
    (hstage : adapter.stage = .calling .connect) {sent : List (ConnectionId × Envelope)}
    {f : Adapter → Adapter} (hcore : Reachable worker.core)
    (hnext : server.worker.core.nextConnectionId < worker.core.nextConnectionId)
    (hlive : ∀ c ∈ worker.core.connections,
      c ∈ server.worker.core.connections ∨ c = ⟨server.worker.core.nextConnectionId⟩)
    (hf : ∀ adapter, f adapter = { adapter with
      connection := some ⟨server.worker.core.nextConnectionId⟩, stage := .opening }) :
    Housed { worker, adapters := (server.adapters.map (·.deliver sent)).modify i f } := by
  have hnone := h.connecting i adapter hfound hstage
  have hadapters : ∀ (j : Nat) after,
      ((server.adapters.map (·.deliver sent)).modify i f)[j]? = some after →
        (i = j ∧ after.connection = some ⟨server.worker.core.nextConnectionId⟩ ∧
          after.stage = .opening) ∨
        (i ≠ j ∧ ∃ before, server.adapters[j]? = some before ∧
          after.connection = before.connection ∧ after.stage = before.stage) := by
    intro j after hafter
    rw [getElem?_amend] at hafter
    obtain ⟨before, hbefore, rfl⟩ := Option.map_eq_some_iff.mp hafter
    split
    · rename_i hij
      rw [hf]
      exact .inl ⟨hij, rfl, rfl⟩
    · rename_i hij
      exact .inr ⟨hij, before, hbefore, rfl, rfl⟩
  refine ⟨hcore, ?_, ?_, ?_, ?_, ?_⟩
  · intro j after c hafter hconnection
    rcases hadapters j after hafter with ⟨-, hnew, -⟩ | ⟨-, before, hbefore, hold, -⟩
    · rw [hnew] at hconnection
      cases hconnection
      exact hnext
    · rw [hold] at hconnection
      exact Nat.lt_trans (h.numbered j before c hbefore hconnection) hnext
  · intro j k after other c hafter hother hconnection hconnection'
    -- A number that is given out now is the number of no other task.
    have hfresh : ∀ (k : Nat) before, server.adapters[k]? = some before →
        before.connection ≠ some ⟨server.worker.core.nextConnectionId⟩ := by
      intro k before hbefore hsame
      exact Nat.lt_irrefl _ (h.numbered k before _ hbefore hsame)
    rcases hadapters j after hafter with ⟨rfl, hnew, -⟩ | ⟨-, before, hbefore, hold, -⟩ <;>
      rcases hadapters k other hother with ⟨rfl, hnew', -⟩ | ⟨-, before', hbefore', hold', -⟩
    · rfl
    · rw [hnew] at hconnection
      cases hconnection
      rw [hold'] at hconnection'
      exact absurd hconnection' (hfresh k before' hbefore')
    · rw [hnew'] at hconnection'
      cases hconnection'
      rw [hold] at hconnection
      exact absurd hconnection (hfresh j before hbefore)
    · rw [hold] at hconnection
      rw [hold'] at hconnection'
      exact h.distinct j k before before' c hbefore hbefore' hconnection hconnection'
  · intro c hin
    rcases hlive c hin with hbefore | rfl
    · obtain ⟨j, before, hbefore, hserves⟩ := h.housed c hbefore
      have hij : i ≠ j := by
        rintro rfl
        obtain rfl := Option.some.inj (hfound.symm.trans hbefore)
        exact absurd (hnone.symm.trans hserves.1) nofun
      refine ⟨j, _, (getElem?_amend (i := i)).trans (by rw [hbefore]; rfl), ?_⟩
      dsimp only
      rw [if_neg hij]
      exact hserves
    · refine ⟨i, _, (getElem?_amend (i := i)).trans (by rw [hfound]; rfl), ?_⟩
      dsimp only
      rw [if_pos rfl, hf]
      exact ⟨rfl, rfl⟩
  · intro j after hafter hcalling
    rcases hadapters j after hafter with ⟨-, -, hopening⟩ | ⟨-, before, hbefore, hold, hsame⟩
    · rw [hopening] at hcalling
      cases hcalling
    · rw [hold]
      exact h.connecting j before hbefore (hsame.symm.trans hcalling)
  · refine fun endpoint => (tasksOf_amend ?_).trans (h.permits endpoint)
    intro before hbefore
    obtain rfl := Option.some.inj (hfound.symm.trans hbefore)
    rw [hf]
    exact ⟨rfl, fun _ => by rw [Adapter.isActive, hstage]⟩

theorem Housed.step (h : server.Housed) (event : AdapterEvent) :
    (server.step config float event).Housed := by
  have hmoves := @moves_step config float server event
  generalize server.step config float event = after at hmoves
  cases hmoves with
  | stay => exact h
  | accept endpoint room => exact h.accept room
  | locally i f moves =>
    have hsame : ∀ adapter : Adapter, adapter.deliver [] = adapter := by
      intro adapter
      unfold Adapter.deliver
      rw [List.filter_nil, List.map_nil, List.append_nil]
    have hamended := @Housed.amend server server.worker i h [] f h.core (Nat.le_refl _)
      (fun _ => id) ?_
    · simp only [hsame, List.map_id'] at hamended
      exact hamended
    · intro adapter hfound
      rw [hsame]
      exact (moves adapter hfound).keeps
  | served i adapter found request f asks works done =>
    rcases asks.keeps h.core with ⟨hstage, rfl, room, rfl⟩ | ⟨hops, hindirect, hkeeps⟩
    · have hled := @ledBy_serve (.command .transportConnected) server.worker trivial works
      have hcore := hled.reachable h.core
      rcases connect_serve h.core with ⟨hreply, hnext, hlive⟩ | ⟨⟨error, hreply⟩, hlive⟩
      · refine h.connect found hstage hcore hnext hlive ?_
        intro adapter
        show Adapter.resume adapter float .connect _ room = _
        unfold Adapter.resume
        rw [hreply]
      · refine h.amend hcore (hled.nextConnectionId h.core) hlive ?_
        intro other hother
        obtain rfl := Option.some.inj (found.symm.trans hother)
        have hnone := h.connecting i adapter found hstage
        show adapter.Keeps _ (Adapter.resume _ float .connect _ room)
        unfold Adapter.resume
        rw [hreply]
        refine ⟨rfl, rfl, nofun, ?_, nofun⟩
        rintro c - ⟨hserves, -⟩
        exact absurd (hnone.symm.trans hserves) nofun
    · have hled := @ledBy_serve request server.worker hindirect works
      refine h.amend (hled.reachable h.core) (hled.nextConnectionId h.core)
        (fun c => live_serve h.core hindirect hops) ?_
      intro other hother
      obtain rfl := Option.some.inj (found.symm.trans hother)
      exact hkeeps works _

/-- The tasks that have not ended are at least as many as the connections. -/
theorem Housed.size_le (h : server.Housed) :
    server.worker.core.connections.size ≤ 2 * maxConnectionTasks := by
  have hsubset : server.worker.core.connections.keys ⊆
      (server.adapters.filter Adapter.isActive).filterMap Adapter.connection := by
    intro c hin
    obtain ⟨i, adapter, hfound, hconnection, hactive⟩ := h.housed c (ExtTreeMap.mem_keys.mp hin)
    refine List.mem_filterMap.mpr ⟨adapter, ?_, hconnection⟩
    exact List.mem_filter.mpr ⟨List.mem_of_getElem? hfound, hactive⟩
  have hsplit : ∀ adapters : List Adapter, adapters.countP Adapter.isActive =
      (adapters.countP fun adapter => adapter.endpoint == .quic && adapter.isActive) +
        adapters.countP fun adapter => adapter.endpoint == .webTransport && adapter.isActive := by
    intro adapters
    induction adapters with
    | nil => rfl
    | cons adapter rest ih =>
      rw [List.countP_cons, List.countP_cons, List.countP_cons, ih]
      cases adapter.endpoint <;> simp <;> omega
  have hquic := h.permits .quic
  have hwebTransport := h.permits .webTransport
  calc server.worker.core.connections.size
      = server.worker.core.connections.keys.length := ExtTreeMap.length_keys.symm
    _ ≤ _ := (ExtTreeMap.nodup_keys.subperm hsubset).length_le
    _ ≤ (server.adapters.filter Adapter.isActive).length := List.length_filterMap_le _ _
    _ = server.adapters.countP Adapter.isActive := List.countP_eq_length_filter.symm
    _ = server.tasksOf .quic + server.tasksOf .webTransport := hsplit server.adapters
    _ ≤ 2 * maxConnectionTasks := by omega

theorem Housed.deserted (h : server.Housed)
    (hended : ∀ adapter ∈ server.adapters, adapter.isActive = false) :
    server.worker.core.Deserted := by
  refine h.core.deserted fun c hin => ?_
  obtain ⟨i, adapter, hfound, -, hactive⟩ := h.housed c hin
  rw [hended adapter (List.mem_of_getElem? hfound)] at hactive
  cases hactive

end Server

/-- However the tasks take turns, each connection of the core is in the care of one task that has
not ended, so that there are no more connections than the endpoints have permits; and once all tasks
have ended, nothing is left of any client. -/
theorem run_houses {worker : Worker} (hcore : Reachable worker.core)
    (hnone : worker.core.connections = ∅) (config : AdapterConfig) (float : F64 → String)
    (events : List AdapterEvent) :
    let server := Transition.run (Server.step config float) { worker } events
    (∀ c ∈ server.worker.core.connections, ∃! i : Nat, ∃ adapter,
      server.adapters[i]? = some adapter ∧ adapter.Serves c) ∧
    server.worker.core.connections.size ≤ 2 * Server.maxConnectionTasks ∧
    ((∀ adapter ∈ server.adapters, adapter.isActive = false) →
      server.worker.core.Deserted) := by
  have hnobody : ∀ c, c ∉ worker.core.connections := by
    intro c hin
    rw [hnone] at hin
    exact ExtTreeMap.not_mem_empty hin
  have hhoused : (Transition.run (Server.step config float) { worker } events).Housed :=
    Transition.run_invariant (fun _ event h => h.step event)
      (Server.housed_start hcore hnobody) events
  refine ⟨?_, hhoused.size_le, hhoused.deserted⟩
  intro c hin
  obtain ⟨i, adapter, hfound, hserves⟩ := hhoused.housed c hin
  refine ⟨i, ⟨adapter, hfound, hserves⟩, ?_⟩
  rintro j ⟨other, hother, hserves'⟩
  exact hhoused.distinct j i other adapter c hother hfound hserves'.1 hserves.1

end Transport

namespace Sample

open Protocol (Envelope)
open Transport

/-- A session with two spaces, and nobody connected. -/
def provisioned : Worker where
  core := Transition.run step Sample.core
    [.provisionSession session,
      .installSpace session (space 1),
      .installSpace session (space 2)]

/-- The configuration of the samples. -/
def adapterConfig : AdapterConfig := { serverVersion := "0.1.0" }

/-- There is room for everything. -/
def roomy : Surroundings :=
  { alone with
    works := List.replicate 4 (fun _ => true, clock)
    room := 8 }

/-- A control message for the first space of the session. -/
def controls (message : Protocol.ControlPayload) : Envelope :=
  { protocolVersion := 1, deliveryClass := .reliableOrdered, namespaceId := 1, sessionId := 1
    spaceId := 1, channelId := some 1, spaceEpoch := 1, message := .control message }

/-- A client comes, subscribes to a space and gets an entity there. -/
def visits (endpoint : Endpoint) : List AdapterEvent :=
  [.accept endpoint, .call 0 roomy, .streamOpened 0 true, .call 0 roomy,
    .received 0 (.ok (controls (.hello 1 1 "client" "0.1.0" 0 0 0))) 8,
    .received 0 (.ok (controls (.authenticate .development "a".toUTF8.data.toList))) 8,
    .call 0 roomy, .received 0 (.ok (controls (.joinSession []))) 8, .call 0 roomy, .call 0 roomy,
    .received 0 (.ok (controls .subscribeSpace)) 8, .call 0 roomy, .call 0 roomy, .call 0 roomy]

/-- The client is gone. -/
def leaves : List AdapterEvent := [.interrupted 0, .call 0 roomy, .call 0 roomy]

end Sample

namespace Transport

theorem run_houses_visited :
    let visited := Transition.run (Server.step Sample.adapterConfig Sample.one)
      { worker := Sample.provisioned } (Sample.visits .quic)
    let left := Transition.run (Server.step Sample.adapterConfig Sample.one)
      { worker := Sample.provisioned } (Sample.visits .quic ++ Sample.leaves)
    visited.worker.core.connections.keys = [⟨1⟩] ∧
      (visited.worker.core.sessionAt Sample.session).entities.keys = [⟨1⟩] ∧
        left.worker.core.Deserted :=
  ⟨by decide +kernel, by decide +kernel,
    (run_houses (Sample.reachable _)
      (ExtTreeMap.isEmpty_iff.mp (by decide +kernel)) Sample.adapterConfig Sample.one
      (Sample.visits .quic ++ Sample.leaves)).2.2 (by decide +kernel)⟩

end Transport

end Signalweave
