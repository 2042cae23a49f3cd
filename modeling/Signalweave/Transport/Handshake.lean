import Signalweave.Core.Reliable
import Signalweave.Transport.Orphans

/-!
# Nothing is heard before the handshake

A connection gets its principal when its task has heard the credentials, and from then on the task
hands on what the client sends. Until then the connection is in no session, so that the client
gets no more than the capabilities of the server and one error.
-/

open Std

namespace Signalweave

open Stateful WovenCore

variable {core core' : WovenCore} {key : SessionKey} {c : ConnectionId} {op : Op}

/-! ## Members and principals -/

/-- A connection becomes a member of a session by joining it. -/
theorem SessionChange.joined {session : SessionState} (h : SessionChange core key op session)
    (hin : c ∈ session.members) : c ∈ (core.sessionAt key).members ∨ op.joins c key := by
  cases h with
  | join connection asked =>
    rcases ExtTreeSet.mem_insert.mp hin with heq | hin
    · obtain rfl := LawfulEqCmp.eq_of_compare heq
      exact .inr asked
    · exact .inl hin
  | remove initial asked =>
    rw [SessionState.dropRemoved_members] at hin
    exact .inl hin
  | leave connection initial asked =>
    have herased : c ∈ ((core.sessionAt key).dropRemoved
        ((core.sessionAt key).cascade initial)).members.erase connection := hin
    rw [SessionState.dropRemoved_members] at herased
    exact .inl (OrderedSet.mem_erase.mp herased).2
  | move =>
    rw [SessionState.moveToCell_eq] at hin
    exact .inl hin
  | transition =>
    rw [SessionState.transition_eq] at hin
    exact .inl hin
  | commit =>
    rw [SessionState.commit_eq] at hin
    exact .inl hin
  | _ => exact .inl hin

theorem memberships_step (h : core.Sound)
    (hin : key ∈ ((step core op).connectionAt c).memberships) :
    key ∈ (core.connectionAt c).memberships ∨ op.joins c key := by
  have hboth : (step core op).Sound ∧ (c ∈ ((step core op).sessionAt key).members →
      c ∈ (core.sessionAt key).members ∨ op.joins c key) := by
    refine (changes_step h op).invariant (P := fun core' => core'.Sound ∧
      (c ∈ (core'.sessionAt key).members → c ∈ (core.sessionAt key).members ∨ op.joins c key))
        ?_ ⟨h, .inl⟩
    rintro before after hchange ⟨hsound, hjoined⟩
    refine ⟨hchange.sound hsound, fun hmember => ?_⟩
    rcases (hchange.session key).joined hmember with hmember | hjoins
    · exact hjoined hmember
    · exact .inr hjoins
  have hmember := (hboth.1.consistent.membership c key).mpr hin
  exact (hboth.2 hmember).imp_left (h.consistent.membership c key).mp

/-- A connection that is in no session has no subscription, and nothing waits for it. -/
theorem WovenCore.Sound.idle (h : core.Sound)
    (hnone : ∀ key, key ∉ (core.connectionAt c).memberships) :
    (core.connectionAt c).outbound.drain.1 = [] := by
  apply List.eq_nil_iff_forall_not_mem.mpr
  intro message hin
  have hholds : (core.connectionAt c).outbound.Holds message :=
    (OutboundQueue.drain_drains (h.wellFormed c)).held message hin
  exact hnone _ (h.consistent.subscriptionMember c _ (h.fresh c message hholds).subscribed)

namespace Transport

open Protocol (Envelope)

/-- A number that has been given out keeps its principal for as long as there is a connection. -/
theorem LedBy.principal {P : Op → Prop} (h : LedBy P core core') (hcore : Reachable core)
    (hnumber : c.get < core.nextConnectionId) {principal : AuthenticatedPrincipal}
    (hprincipal : c ∈ core.connections →
      (core.connectionAt c).authenticated = some principal) :
    c ∈ core'.connections → (core'.connectionAt c).authenticated = some principal := by
  have hall := h.invariant (J := fun after => Reachable after ∧ c.get < after.nextConnectionId ∧
    (c ∈ after.connections → (after.connectionAt c).authenticated = some principal)) ?_
      ⟨hcore, hnumber, hprincipal⟩
  · exact hall.2.2
  · rintro before op - ⟨hbefore, hbelow, hshown⟩
    refine ⟨hbefore.next op, Nat.lt_of_lt_of_le hbelow (nextConnectionId_step hbefore.sound op), ?_⟩
    intro hlive
    by_cases hconnects : op = .transportConnected
    · subst hconnects
      have hends : Ends transportConnected before
          (fun _ core' => c ∈ core'.connections → c ∈ before.connections)
          fun _ core' => c ∈ core'.connections → c ∈ before.connections := by
        apply transportConnected_connects.mono
        · rintro _ _ ⟨rfl, outbound, rfl⟩ hin
          rcases OrderedMap.mem_insert.mp hin with rfl | hin
          · exact absurd hbelow (Nat.lt_irrefl _)
          · exact hin
        · rintro _ _ (rfl | rfl) <;> exact id
      have hstep : step before .transportConnected = after transportConnected before :=
        after_discard _ _
      exact authenticated_step hbefore.sound _ hlive (hshown (hends.after (hstep ▸ hlive)))
    · exact authenticated_step hbefore.sound op hlive
        (hshown (live_of_step hbefore.sound hconnects hlive))

/-- A connection gets into a session by an operation of its own. -/
theorem LedBy.memberships {P : Op → Prop} (h : LedBy P core core') (hcore : Reachable core)
    (hin : key ∈ (core'.connectionAt c).memberships) :
    key ∈ (core.connectionAt c).memberships ∨ ∃ op, P op ∧ op.joins c key := by
  have hboth := h.invariant (J := fun after => Reachable after ∧
    (key ∈ (after.connectionAt c).memberships →
      key ∈ (core.connectionAt c).memberships ∨ ∃ op, P op ∧ op.joins c key)) ?_ ⟨hcore, .inl⟩
  · exact hboth.2 hin
  · rintro before op hop ⟨hbefore, hjoined⟩
    refine ⟨hbefore.next op, fun hmember => ?_⟩
    rcases memberships_step hbefore.sound hmember with hmember | hjoins
    · exact hjoined hmember
    · exact .inr ⟨op, hop, hjoins⟩

/-! ## What a client is told -/

/-- The task reads what the client sends, or is about to. -/
def Adapter.isOpen (adapter : Adapter) : Bool :=
  match adapter.stage with
  | .calling .discard | .calling .lose | .closed => false
  | _ => true

/-- What is put on the write channel before a client has authenticated. -/
def Adapter.preface (config : AdapterConfig) (adapter : Adapter) : List Envelope :=
  if adapter.greeted then [capabilitiesEnvelope config] else []

/-- A client that has not authenticated has got the preface and at most one error; one that has, has
been told its principal next to the capabilities, and the connection has kept it. -/
structure Adapter.Greets (config : AdapterConfig) (core : WovenCore) (adapter : Adapter) :
    Prop where
  known : adapter.authenticated = true → adapter.connection ≠ none ∧ adapter.greeted = true
  handles : ∀ call, adapter.stage = .calling call → adapter.authenticated = false →
    match call with
    | .handle _ | .activate _ | .flush => False
    | _ => True
  signing : ∀ token, adapter.stage = .calling (.authenticate token) →
    adapter.authenticated = false ∧ adapter.greeted = true
  strange : adapter.authenticated = false → adapter.datagrams = [] ∧ ∃ errors,
    adapter.written = adapter.preface config ++ errors ∧ errors.length ≤ 1 ∧
      (∀ error ∈ errors, error.messageKind = .protocolError) ∧
        (adapter.isOpen = true → errors = [])
  told : adapter.authenticated = true → ∃ (principal : AuthenticatedPrincipal) (rest : _),
    adapter.written =
      capabilitiesEnvelope config :: authenticatedEnvelope principal.principalId :: rest ∧
    ∀ c, adapter.connection = some c → c ∈ core.connections →
      (core.connectionAt c).authenticated = some principal

namespace Adapter

variable {config : AdapterConfig} {float : F64 → String} {adapter next : Adapter} {worker : Worker}

/-- The task goes on without a word. -/
theorem Greets.proceed (h : adapter.Greets config core) {stage : Stage}
    (hhandles : ∀ call, stage = .calling call → adapter.authenticated = false →
      match call with
      | .handle _ | .activate _ | .flush => False
      | _ => True)
    (hsigning : ∀ token, stage = .calling (.authenticate token) →
      adapter.authenticated = false ∧ adapter.greeted = true)
    (hopen : Adapter.isOpen { adapter with stage } = true → adapter.isOpen = true) :
    Adapter.Greets config core { adapter with stage } where
  known := h.known
  handles := hhandles
  signing := hsigning
  strange hnot := by
    obtain ⟨hdatagrams, errors, hwritten, hlength, hkinds, hnone⟩ := h.strange hnot
    exact ⟨hdatagrams, errors, hwritten, hlength, hkinds, fun hin => hnone (hopen hin)⟩
  told := h.told

/-- A client that has authenticated is told more. -/
theorem Greets.append (h : adapter.Greets config core) (hin : adapter.authenticated = true)
    {stage : Stage} (hstage : ∀ token, stage ≠ .calling (.authenticate token))
    {written datagrams : List Envelope} {failed : Bool} (hmore : adapter.written <+: written) :
    Adapter.Greets config core { adapter with stage, written, datagrams, failed } where
  known := h.known
  handles _ _ hnot := absurd (hnot.symm.trans hin) nofun
  signing token hsigning := absurd hsigning (hstage token)
  strange hnot := absurd (hnot.symm.trans hin) nofun
  told _ := by
    obtain ⟨principal, rest, hwritten, hprincipal⟩ := h.told hin
    obtain ⟨more, rfl⟩ := hmore
    refine ⟨principal, rest ++ more, ?_, hprincipal⟩
    show adapter.written ++ more = _
    rw [hwritten]
    rfl

theorem Greets.leave (h : adapter.Greets config core) : adapter.leave.Greets config core :=
  h.proceed (fun _ hcall _ => by cases hcall; trivial) (fun _ hcall => by cases hcall) nofun

/-- The one error that ends the loop. -/
theorem Greets.refuse (h : adapter.Greets config core) (hopen : adapter.isOpen = true)
    {error : Envelope} (hkind : error.messageKind = .protocolError) (room : Nat) :
    (adapter.refuse error room).Greets config core := by
  cases hin : adapter.authenticated with
  | true => exact h.append hin (fun _ hcall => by cases hcall) (List.prefix_append _ _)
  | false =>
    obtain ⟨hdatagrams, errors, hwritten, -, -, hnone⟩ := h.strange hin
    rw [hnone hopen, List.append_nil] at hwritten
    refine ⟨h.known, ?_, ?_, fun _ => ⟨hdatagrams, [error].take room, ?_⟩, ?_⟩
    · intro call hcall hnot
      cases hcall
      trivial
    · intro token hcall
      cases hcall
    · refine ⟨?_, List.length_take_le' _ _, ?_, nofun⟩
      · show adapter.written ++ _ = _
        rw [hwritten]
        rfl
      · intro other hother
        obtain rfl := List.mem_singleton.mp (List.mem_of_mem_take hother)
        exact hkind
    · exact fun hshown => absurd (hin.symm.trans hshown) nofun

theorem messageKind_errorEnvelope {related : Protocol.MessageKind}
    {code : Protocol.ProtocolErrorCode} {text : String} :
    (errorEnvelope related code text).messageKind = .protocolError := rfl

theorem isOpen_of_stage {stage : Stage} (hstage : adapter.stage = stage)
    (hopen : Adapter.isOpen { adapter with stage } = true) : adapter.isOpen = true := by
  unfold isOpen at *
  rw [hstage]
  exact hopen

theorem Greets.handleHello (h : adapter.Greets config core) (hstage : adapter.stage = .serving)
    (hgreeted : adapter.greeted = false) (envelope : Envelope) (room : Nat) :
    (adapter.handleHello config envelope room).Greets config core := by
  have hopen : adapter.isOpen = true := isOpen_of_stage hstage rfl
  have hstrange : adapter.authenticated = false := by
    by_contra hin
    exact Bool.false_ne_true (hgreeted.symm.trans (h.known (by simpa using hin)).2)
  unfold Adapter.handleHello
  split
  · split
    · exact h.leave
    · rename_i hroom
      obtain ⟨hdatagrams, errors, hwritten, -, -, hnone⟩ := h.strange hstrange
      rw [hnone hopen, List.append_nil, preface, hgreeted] at hwritten
      refine ⟨fun hin => absurd (hstrange.symm.trans hin) nofun, h.handles, ?_, ?_, ?_⟩
      · intro token hcall
        rw [write, hstage] at hcall
        cases hcall
      · refine fun _ => ⟨hdatagrams, [], ?_, Nat.zero_le _, ?_, fun _ => rfl⟩
        · show adapter.written ++ [capabilitiesEnvelope config].take room = _
          rw [hwritten, List.take_of_length_le (Nat.one_le_iff_ne_zero.mpr hroom)]
          rfl
        · exact fun error hin => absurd hin List.not_mem_nil
      · exact fun hin => absurd (hstrange.symm.trans hin) nofun
  · exact h.refuse hopen messageKind_errorEnvelope room

theorem Greets.handleAuthenticate (h : adapter.Greets config core)
    (hstage : adapter.stage = .serving) (hgreeted : adapter.greeted = true)
    (hin : adapter.authenticated = false) (envelope : Envelope) (room : Nat) :
    (adapter.handleAuthenticate envelope room).Greets config core := by
  have hopen : adapter.isOpen = true := isOpen_of_stage hstage rfl
  unfold Adapter.handleAuthenticate
  split
  · split
    · refine h.proceed ?_ (fun _ _ => ⟨hin, hgreeted⟩) fun _ => hopen
      intro call hcall _
      cases hcall
      trivial
    · exact h.refuse hopen messageKind_errorEnvelope room
  · exact h.refuse hopen messageKind_errorEnvelope room

/-- What a client sends that has authenticated is handed on. -/
theorem Greets.handle (h : adapter.Greets config core) (hopen : adapter.isOpen = true)
    (hin : adapter.authenticated = true) (envelope : Envelope) :
    Greets config core { adapter with stage := .calling (.handle envelope) } := by
  refine h.proceed ?_ (fun _ hcall => by cases hcall) fun _ => hopen
  exact fun _ _ hnot => absurd (hnot.symm.trans hin) nofun

theorem Greets.receive (h : adapter.Greets config core) (hstage : adapter.stage = .serving)
    (frame : Except String Envelope) (room : Nat) :
    (adapter.receive config frame room).Greets config core := by
  have hopen : adapter.isOpen = true := isOpen_of_stage hstage rfl
  unfold Adapter.receive
  cases frame with
  | error text => exact h.refuse hopen messageKind_errorEnvelope room
  | ok envelope =>
    dsimp only
    cases hgreeted : adapter.greeted with
    | false => exact h.handleHello hstage hgreeted envelope room
    | true =>
      cases hin : adapter.authenticated with
      | false => exact h.handleAuthenticate hstage hgreeted hin envelope room
      | true =>
        have hhandled := h.handle hopen hin envelope
        rw [hgreeted, hin] at hhandled
        exact hhandled

theorem Greets.receiveDatagram (h : adapter.Greets config core)
    (hstage : adapter.stage = .serving) (frame : Except String Envelope) :
    (adapter.receiveDatagram frame).Greets config core := by
  have hopen : adapter.isOpen = true := isOpen_of_stage hstage rfl
  unfold Adapter.receiveDatagram
  cases hin : adapter.authenticated with
  | false => exact h
  | true =>
    cases frame with
    | error text => exact h
    | ok envelope =>
      have hhandled := h.handle hopen hin envelope
      rw [hin] at hhandled
      exact hhandled

theorem Greets.decline (h : adapter.Greets config core) {envelope : Envelope}
    (hstage : adapter.stage = .calling (.handle envelope)) (met : Surroundings) :
    (adapter.decline met envelope).Greets config core := by
  unfold Adapter.decline
  split
  · exact h.refuse (isOpen_of_stage hstage rfl) messageKind_errorEnvelope _
  · exact h.leave
  · exact h.leave

theorem Local.greets (hlocal : adapter.Local config next) (h : adapter.Greets config core) :
    next.Greets config core := by
  cases hlocal with
  | stay => exact h
  | opened stage call calls =>
    refine h.proceed ?_ ?_ fun _ => isOpen_of_stage stage rfl
    · rcases calls with rfl | rfl <;>
      · intro call hcall _
        cases hcall
        trivial
    · rcases calls with rfl | rfl <;>
      · intro token hcall
        cases hcall
  | receive stage frame room => exact h.receive stage frame room
  | datagram stage frame => exact h.receiveDatagram stage frame
  | leave stage => exact h.leave
  | refuse stage related code text room =>
    exact h.refuse (isOpen_of_stage stage rfl) messageKind_errorEnvelope room
  | decline envelope stage met => exact h.decline stage met
  | fail => exact ⟨h.known, h.handles, h.signing, h.strange, h.told⟩

/-! ## What the worker answers -/

variable {works : List ((ConnectionId → Bool) × ReleaseClock)} {request : WorkerRequest}
  {reply : Option WorkerReply} {f : Option WorkerReply → Adapter → Adapter}

/-- The core goes on, and a connection that has a principal keeps it. -/
theorem Greets.onward (h : adapter.Greets config core)
    (hkeeps : ∀ c, adapter.connection = some c → ∀ principal,
      (c ∈ core.connections → (core.connectionAt c).authenticated = some principal) →
        c ∈ core'.connections → (core'.connectionAt c).authenticated = some principal) :
    adapter.Greets config core' where
  known := h.known
  handles := h.handles
  signing := h.signing
  strange := h.strange
  told hin := by
    obtain ⟨principal, rest, hwritten, hprincipal⟩ := h.told hin
    exact ⟨principal, rest, hwritten, fun c hc => hkeeps c hc principal (hprincipal c hc)⟩

/-- What is announced reaches clients that have authenticated. -/
theorem Greets.deliver (h : adapter.Greets config core) {sent : List (ConnectionId × Envelope)}
    (hsent : ∀ entry ∈ sent, adapter.connection = some entry.1 → adapter.authenticated = true) :
    (adapter.deliver sent).Greets config core := by
  cases hin : adapter.authenticated with
  | true =>
    refine h.append hin ?_ (List.prefix_append adapter.written
      ((sent.filter fun entry => some entry.1 == adapter.connection).map Prod.snd))
    intro token hcall
    exact absurd ((h.signing token hcall).1.symm.trans hin) nofun
  | false =>
    have hnone : (sent.filter fun entry => some entry.1 == adapter.connection) = [] := by
      refine List.filter_eq_nil_iff.mpr fun entry hentry hsame => ?_
      exact Bool.false_ne_true (hin.symm.trans (hsent entry hentry (beq_iff_eq.mp hsame).symm))
    unfold Adapter.deliver
    rw [hnone, List.map_nil, List.append_nil]
    exact h

theorem Greets.drain (h : adapter.Greets config core) (fits : Envelope → Bool) (room : Nat)
    (hnothing : adapter.authenticated = false → ∀ messages,
      executed reply = .ok (.outbound messages) → messages = []) :
    (adapter.drain fits room reply).Greets config core := by
  unfold Adapter.drain
  split
  · rename_i messages hmessages
    cases hin : adapter.authenticated with
    | true =>
      rw [← hin]
      refine h.append hin ?_ (List.prefix_append adapter.written
        (flushOutbound fits room (messages.map outboundEnvelope)).1)
      intro token hcall
      exact absurd ((h.signing token hcall).1.symm.trans hin) nofun
    | false =>
      obtain rfl := hnothing hin messages hmessages
      simp only [List.map_nil, flushOutbound, List.append_nil, Bool.not_true, Bool.or_false]
      rw [← hin]
      exact h
  · exact h

theorem Greets.writeAll (h : adapter.Greets config core) (hin : adapter.authenticated = true)
    (envelopes : List Envelope) (room : Nat) {stage : Stage}
    (hstage : ∀ token, stage ≠ .calling (.authenticate token)) :
    (adapter.writeAll envelopes room stage).Greets config core := by
  unfold Adapter.writeAll
  split
  · exact h.append hin hstage (List.prefix_append _ _)
  · exact h.append hin (fun _ hcall => by cases hcall) (List.prefix_append _ _)

/-- A task gets its connection, or ends. -/
theorem Greets.connect (h : adapter.Greets config core) (hstage : adapter.stage = .calling .connect)
    (hstrange : adapter.authenticated = false) (reply : Option WorkerReply) (room : Nat) :
    (adapter.resume float .connect reply room).Greets config core := by
  obtain ⟨hdatagrams, errors, hwritten, hlength, hkinds, hnone⟩ := h.strange hstrange
  have hopen : adapter.isOpen = true := isOpen_of_stage hstage rfl
  unfold Adapter.resume
  dsimp only
  split
  · refine ⟨fun hin => absurd (hstrange.symm.trans hin) nofun, ?_, ?_,
      fun _ => ⟨hdatagrams, errors, hwritten, hlength, hkinds, fun _ => hnone hopen⟩,
      fun hin => absurd (hstrange.symm.trans hin) nofun⟩
    · intro call hcall
      cases hcall
    · intro token hcall
      cases hcall
  · exact h.proceed (fun _ hcall => by cases hcall) (fun _ hcall => by cases hcall) nofun

/-- A task goes on with an answer to what it was about to do. -/
theorem Greets.resume (h : adapter.Greets config core) {call : Call}
    (hstage : adapter.stage = .calling call) (hconnect : call ≠ .connect)
    (hsigned : ∀ token p, call = .authenticate token →
      executed reply = .ok (.authenticated p) → adapter.connection ≠ none ∧
        ∃ principal : AuthenticatedPrincipal, principal.principalId = p ∧
          ∀ c, adapter.connection = some c → c ∈ core.connections →
            (core.connectionAt c).authenticated = some principal) (room : Nat) :
    (adapter.resume float call reply room).Greets config core := by
  have hplain : ∀ {stage : Stage}, (∀ call, stage = .calling call → call = .lose) →
      (Adapter.isOpen { adapter with stage } = true → adapter.isOpen = true) →
        Adapter.Greets config core { adapter with stage } := by
    intro stage hcalls hopen
    refine h.proceed ?_ ?_ hopen
    · intro call hcall _
      obtain rfl := hcalls call hcall
      trivial
    · intro token hcall
      cases hcalls _ hcall
  cases call with
  | connect => exact absurd rfl hconnect
  | register =>
    exact hplain (fun _ hcall => by cases hcall) fun _ => isOpen_of_stage hstage rfl
  | authenticate token =>
    have hopen := isOpen_of_stage hstage rfl
    obtain ⟨hstrange, hgreeted⟩ := h.signing token hstage
    unfold Adapter.resume
    dsimp only
    split
    · rename_i p hreply
      split
      · exact h.leave
      · rename_i hroom
        obtain ⟨hknown, principal, rfl, hprincipal⟩ := hsigned token p rfl hreply
        obtain ⟨-, errors, hwritten, -, -, hnone⟩ := h.strange hstrange
        rw [hnone hopen, List.append_nil, preface, hgreeted, if_pos rfl] at hwritten
        refine ⟨fun _ => ⟨hknown, hgreeted⟩, ?_, ?_, ?_, fun _ => ⟨principal, [], ?_, hprincipal⟩⟩
        · intro call hcall
          cases hcall
        · intro token hcall
          cases hcall
        · exact fun hnot => absurd hnot nofun
        · show adapter.written ++ [authenticatedEnvelope _].take room = _
          rw [hwritten, List.take_of_length_le (Nat.one_le_iff_ne_zero.mpr hroom)]
          rfl
    · exact h.refuse hopen messageKind_errorEnvelope room
  | handle envelope =>
    have hin : adapter.authenticated = true := by
      by_contra hnot
      exact h.handles _ hstage (by simpa using hnot)
    refine h.writeAll hin _ room fun token hcall => ?_
    unfold afterReplies at hcall
    split at hcall <;> split at hcall <;> cases hcall
  | activate space =>
    have hin : adapter.authenticated = true := by
      by_contra hnot
      exact h.handles _ hstage (by simpa using hnot)
    exact h.append hin (fun _ hcall => by cases hcall) List.prefix_rfl
  | flush =>
    have hin : adapter.authenticated = true := by
      by_contra hnot
      exact h.handles _ hstage (by simpa using hnot)
    unfold Adapter.resume
    dsimp only
    split
    · exact h.writeAll hin _ room fun _ hcall => by cases hcall
    · exact h.append hin (fun _ hcall => by cases hcall) List.prefix_rfl
  | discard =>
    refine hplain ?_ nofun
    intro call hcall
    cases hcall
    rfl
  | lose => exact hplain (fun _ hcall => by cases hcall) nofun

theorem Local.authenticated (h : adapter.Local config next) :
    next.connection = adapter.connection ∧ next.authenticated = adapter.authenticated := by
  cases h with
  | receive stage frame room =>
    unfold Adapter.receive Adapter.handleHello Adapter.handleAuthenticate
    split
    · exact ⟨rfl, rfl⟩
    · split
      · split
        · split <;> exact ⟨rfl, rfl⟩
        · exact ⟨rfl, rfl⟩
      · split
        · split
          · split <;> exact ⟨rfl, rfl⟩
          · exact ⟨rfl, rfl⟩
        · exact ⟨rfl, rfl⟩
  | datagram stage frame =>
    unfold Adapter.receiveDatagram
    split
    · exact ⟨rfl, rfl⟩
    · split <;> exact ⟨rfl, rfl⟩
  | decline envelope stage met =>
    unfold Adapter.decline
    split <;> exact ⟨rfl, rfl⟩
  | _ => exact ⟨rfl, rfl⟩

end Adapter

/-! ## What the worker does -/

section Serves

variable {worker : Worker} {works : List ((ConnectionId → Bool) × ReleaseClock)}

/-- Who authenticates is known by its principal from then on. -/
theorem signed_serve (hcore : Reachable worker.core) {credentials : Credentials}
    {shown : PrincipalId}
    (h : executed (worker.serve (.command (.authenticate c credentials)) works).reply =
      .ok (.authenticated shown)) :
    ∃ principal : AuthenticatedPrincipal, principal.principalId = shown ∧
      (c ∈ (worker.serve (.command (.authenticate c credentials)) works).worker.core.connections →
        ((worker.serve (.command (.authenticate c credentials)) works).worker.core.connectionAt
          c).authenticated = some principal) := by
  obtain ⟨_, hreturns, hshown⟩ := returns_map.mp (returns_of_executed h)
  cases hshown
  obtain ⟨hlive, -, principal, ⟨-, hprincipal⟩, hafter⟩ := authenticate_signsIn.returns hreturns
  have halong := @along_serve (.command (.authenticate c credentials)) worker trivial works
  have hhandle := @Worker.core_handle_command worker (.authenticate c credentials)
  have hhandled : Reachable (worker.handle (.command (.authenticate c credentials))).1.core :=
    ledBy_handle.reachable hcore
  refine ⟨principal, hprincipal, halong.core.principal hhandled ?_ fun _ => ?_⟩
  · rw [hhandle, hafter]
    exact (hcore.sound.consistent.connectionIds c hlive).2
  · rw [hhandle, hafter, connectionAt_modifyConnection, if_pos ⟨rfl, hlive⟩]

/-- Whoever is in no session has nothing waiting. -/
theorem drained_serve (hcore : Reachable worker.core) {messages : List OutboundMessage}
    (hnone : ∀ key, key ∉ (worker.core.connectionAt c).memberships)
    (h : executed (worker.serve (.command (.drainOutbound c)) works).reply =
      .ok (.outbound messages)) : messages = [] := by
  obtain ⟨_, hreturns, hmessages⟩ := returns_map.mp (returns_of_executed h)
  cases hmessages
  obtain ⟨-, hdrained, -⟩ := drainOutbound_ends.returns hreturns
  rw [hdrained]
  exact hcore.sound.idle hnone

/-- An envelope makes nobody but its sender a member, and puts nothing into the registry. -/
theorem own_handling {met : Surroundings} {envelope : Envelope} {request : WorkerRequest}
    (h : handling met envelope = .ask request) :
    (∀ op ∈ request.ops, ∀ c key, op.joins c key → c = met.connection) ∧
      ∀ c s, request ≠ .activateSubscription c s ∧ request ≠ .command (.subscribe c s) := by
  unfold handling at h
  dsimp only at h
  split at h
  · split at h <;> cases h
  · split at h <;> cases h
  · cases h
    exact ⟨by simp [WorkerRequest.ops, Command.op], by simp⟩
  · cases h
    exact ⟨by simp [WorkerRequest.ops, Op.joins], by simp⟩
  · cases h
    refine ⟨?_, by simp⟩
    intro op hop c key hjoins
    obtain rfl := List.mem_singleton.mp hop
    exact hjoins.1.symm
  · cases h
    exact ⟨by simp [WorkerRequest.ops, Command.op, Op.joins], by simp⟩
  · cases h
    exact ⟨by simp [WorkerRequest.ops, Command.op, Op.joins], by simp⟩
  · split at h <;> cases h
    exact ⟨by simp [WorkerRequest.ops, Command.op, Op.joins], by simp⟩
  · split at h <;> cases h
    exact ⟨by simp [WorkerRequest.ops, Command.op, Op.joins], by simp⟩
  · split at h <;> cases h
    exact ⟨by simp [WorkerRequest.ops, Command.op, Op.joins], by simp⟩
  · cases h

variable {config : AdapterConfig} {float : F64 → String} {adapter : Adapter}
  {request : WorkerRequest} {f : Option WorkerReply → Adapter → Adapter} {i : Nat}
  {event : AdapterEvent}

/-- What a task asks for is for its own connection, once the client has authenticated. -/
theorem Adapter.Asks.own (h : adapter.Asks float i event request f)
    (hgreets : adapter.Greets config core) :
    (∀ op ∈ request.ops, ∀ c key, op.joins c key →
      adapter.connection = some c ∧ adapter.authenticated = true) ∧
    ∀ c s, request = .activateSubscription c s ∨ request = .command (.subscribe c s) →
      adapter.connection = some c ∧ adapter.authenticated = true := by
  cases h with
  | call call stage met request asked =>
    by_cases hconnect : call = .connect
    · subst hconnect
      unfold Adapter.request at asked
      rw [stage] at asked
      obtain rfl := Option.some.inj asked
      exact ⟨by simp [WorkerRequest.ops, Command.op, Op.joins], by simp⟩
    · obtain ⟨connection, hconnection, hrequest⟩ := request_eq_some stage hconnect asked
      have hknown : ∀ {call}, adapter.stage = .calling call → (match call with
          | .handle _ | .activate _ | .flush => False
          | _ => True) = False → adapter.authenticated = true := by
        intro call hcall hneeds
        by_contra hnot
        have hharmless := hgreets.handles call hcall (by simpa using hnot)
        rw [hneeds] at hharmless
        exact hharmless
      cases call with
      | connect => exact absurd rfl hconnect
      | handle envelope =>
        obtain ⟨hjoins, hrecords⟩ := own_handling hrequest
        refine ⟨fun op hop c key hjoin => ?_, fun c s hasked => ?_⟩
        · rw [hjoins op hop c key hjoin]
          exact ⟨hconnection, hknown stage rfl⟩
        · exact (hasked.elim (hrecords c s).1 (hrecords c s).2).elim
      | activate space =>
        obtain rfl := hrequest
        refine ⟨by simp [WorkerRequest.ops], fun c s hasked => ?_⟩
        rcases hasked with heq | heq <;> cases heq
        exact ⟨hconnection, hknown stage rfl⟩
      | register =>
        obtain rfl := hrequest
        exact ⟨by simp [WorkerRequest.ops], by simp⟩
      | authenticate token =>
        obtain rfl := hrequest
        exact ⟨by simp [WorkerRequest.ops, Command.op, Op.joins], by simp⟩
      | flush | discard | lose =>
        obtain rfl := hrequest
        exact ⟨by simp [WorkerRequest.ops, Command.op, Op.joins], by simp⟩
  | drain connection | discard connection | disconnect connection =>
    exact ⟨by simp [WorkerRequest.ops, Command.op, Op.joins], by simp⟩

theorem Adapter.Asks.greets (h : adapter.Asks float i event request f)
    (hcore : Reachable worker.core)
    (hconnecting : adapter.stage ≠ .calling .connect)
    (hidle : adapter.authenticated = false → ∀ c, adapter.connection = some c →
      ∀ key, key ∉ (worker.core.connectionAt c).memberships)
    {sent : List (ConnectionId × Envelope)} (hdelivered : (adapter.deliver sent).Greets config
      (worker.serve request works).worker.core) :
    (f (worker.serve request works).reply (adapter.deliver sent)).Greets config
      (worker.serve request works).worker.core := by
  cases h with
  | call call stage met request asked =>
    have hconnect : call ≠ .connect := fun heq => hconnecting (heq ▸ stage)
    refine hdelivered.resume stage hconnect ?_ met.room
    rintro token p rfl hreply
    obtain ⟨connection, hconnection, rfl⟩ := request_eq_some stage hconnect asked
    obtain ⟨principal, hshown, hprincipal⟩ := signed_serve hcore hreply
    refine ⟨?_, principal, hshown, ?_⟩
    · show adapter.connection ≠ none
      rw [hconnection]
      exact nofun
    · intro c hc
      cases hconnection.symm.trans hc
      exact hprincipal
  | drain connection known running met fits =>
    refine hdelivered.drain fits met.room fun hstrange messages hmessages => ?_
    exact drained_serve hcore (hidle hstrange connection known) hmessages
  | discard | disconnect => exact hdelivered

/-- A task that has no connection yet asks for one. -/
theorem Adapter.Asks.connecting (h : adapter.Asks float i event request f)
    (hstage : adapter.stage = .calling .connect) (hnone : adapter.connection = none) :
    request = .command .transportConnected ∧
      ∃ room, f = fun reply adapter => adapter.resume float .connect reply room := by
  cases h with
  | call call stage met request asked =>
    cases hstage.symm.trans stage
    unfold Adapter.request at asked
    rw [hstage] at asked
    exact ⟨(Option.some.inj asked).symm, met.room, rfl⟩
  | drain connection known | discard connection known | disconnect connection known =>
    cases hnone.symm.trans known

/-- Who has authenticated stays authenticated. -/
theorem Adapter.Asks.known (h : adapter.Asks float i event request f)
    (hconnecting : adapter.stage ≠ .calling .connect) (hin : adapter.authenticated = true)
    (reply : Option WorkerReply) (sent : List (ConnectionId × Envelope)) :
    (f reply (adapter.deliver sent)).connection = adapter.connection ∧
      (f reply (adapter.deliver sent)).authenticated = true := by
  cases h with
  | call call stage met request asked =>
    cases call with
    | connect => exact absurd stage hconnecting
    | authenticate token =>
      dsimp only
      unfold Adapter.resume
      dsimp only
      split
      · split <;> exact ⟨rfl, by first | exact hin | rfl⟩
      · exact ⟨rfl, hin⟩
    | handle envelope =>
      dsimp only
      unfold Adapter.resume Adapter.writeAll
      dsimp only
      split <;> exact ⟨rfl, hin⟩
    | flush =>
      dsimp only
      unfold Adapter.resume Adapter.writeAll
      dsimp only
      split
      · split <;> exact ⟨rfl, hin⟩
      · exact ⟨rfl, hin⟩
    | _ => exact ⟨rfl, hin⟩
  | drain connection known running met fits =>
    dsimp only
    unfold Adapter.drain
    split <;> exact ⟨rfl, hin⟩
  | discard | disconnect => exact ⟨rfl, hin⟩

end Serves

/-! ## Over a run -/

namespace Server

variable {config : AdapterConfig} {float : F64 → String} {server : Server} {worker : Worker}
  {adapter : Adapter} {i : Nat}

/-- A task that has heard the credentials of its client has the connection. -/
def Knows (server : Server) (c : ConnectionId) : Prop :=
  ∃ (i : Nat) (adapter : Adapter), server.adapters[i]? = some adapter ∧
    adapter.connection = some c ∧ adapter.authenticated = true

/-- Only clients that have authenticated are in sessions and in the registry. -/
structure Greeted (config : AdapterConfig) (server : Server) : Prop where
  housed : server.Housed
  greets : ∀ (i : Nat) adapter, server.adapters[i]? = some adapter →
    adapter.Greets config server.worker.core
  recorded : ∀ c s, server.worker.Recorded c s → server.Knows c
  member : ∀ c key, key ∈ (server.worker.core.connectionAt c).memberships → server.Knows c

theorem Greeted.authenticated (h : server.Greeted config)
    (hfound : server.adapters[i]? = some adapter) (hconnection : adapter.connection = some c)
    (hknows : server.Knows c) : adapter.authenticated = true := by
  obtain ⟨j, other, hother, hconnection', hin⟩ := hknows
  obtain rfl := h.housed.distinct i j adapter other c hfound hother hconnection hconnection'
  obtain rfl := Option.some.inj (hfound.symm.trans hother)
  exact hin

theorem greeted_start (hcore : Reachable worker.core) (hnone : ∀ c, c ∉ worker.core.connections)
    (hempty : ∀ c s, ¬ worker.Recorded c s) : Greeted config { worker } where
  housed := housed_start hcore hnone
  greets i adapter hfound := by simp at hfound
  recorded c s hrecorded := absurd hrecorded (hempty c s)
  member c key hin := by
    rw [connectionAt_of_notMem (hnone c)] at hin
    exact absurd hin ExtTreeSet.not_mem_empty

theorem Greeted.accept (h : server.Greeted config) {endpoint : Endpoint}
    (hroom : server.tasksOf endpoint < maxConnectionTasks) :
    Greeted config { server with adapters := server.adapters ++ [{ endpoint }] } := by
  have hknows : ∀ c, server.Knows c →
      Knows { server with adapters := server.adapters ++ [{ endpoint }] } c := by
    rintro c ⟨i, adapter, hfound, hknown⟩
    have hlength := (List.getElem?_eq_some_iff.mp hfound).choose
    exact ⟨i, adapter, (List.getElem?_append_left hlength).trans hfound, hknown⟩
  refine ⟨h.housed.accept hroom, ?_, fun c s hin => hknows c (h.recorded c s hin),
    fun c key hin => hknows c (h.member c key hin)⟩
  intro i adapter hfound
  rw [List.getElem?_append] at hfound
  split at hfound
  · exact h.greets i adapter hfound
  · obtain rfl := List.mem_singleton.mp (List.mem_of_getElem? hfound)
    refine ⟨fun hin => absurd hin nofun, ?_, ?_, fun _ => ⟨rfl, [], rfl, Nat.zero_le _, ?_,
      fun _ => rfl⟩, fun hin => absurd hin nofun⟩
    · intro call hcall _
      cases hcall
      trivial
    · intro token hcall
      cases hcall
    · exact fun error hin => absurd hin List.not_mem_nil

theorem Greeted.locally (h : server.Greeted config) {f : Adapter → Adapter}
    (hhoused : (server.modify i f).Housed)
    (hmoves : ∀ adapter, server.adapters[i]? = some adapter → adapter.Local config (f adapter)) :
    (server.modify i f).Greeted config := by
  have hadapters : ∀ (j : Nat), (server.modify i f).adapters[j]? =
      (server.adapters[j]?).map fun adapter => if i = j then f adapter else adapter := by
    intro j
    unfold modify
    rw [List.getElem?_modify, Option.map_eq_map]
  have hknows : ∀ c, server.Knows c → (server.modify i f).Knows c := by
    rintro c ⟨j, adapter, hfound, hconnection, hin⟩
    refine ⟨j, _, (hadapters j).trans (by rw [hfound]; rfl), ?_⟩
    dsimp only
    split
    · rename_i hij
      obtain ⟨hsame, hsame'⟩ := (hmoves adapter (hij ▸ hfound)).authenticated
      exact ⟨hsame.trans hconnection, hsame'.trans hin⟩
    · exact ⟨hconnection, hin⟩
  refine ⟨hhoused, ?_, fun c s hin => hknows c (h.recorded c s hin),
    fun c key hin => hknows c (h.member c key hin)⟩
  intro j after hafter
  rw [hadapters] at hafter
  obtain ⟨adapter, hfound, rfl⟩ := Option.map_eq_some_iff.mp hafter
  split
  · rename_i hij
    exact (hmoves adapter (hij ▸ hfound)).greets (h.greets j adapter hfound)
  · exact h.greets j adapter hfound

theorem Greeted.served (h : server.Greeted config)
    (hfound : server.adapters[i]? = some adapter) {request : WorkerRequest}
    {f : Option WorkerReply → Adapter → Adapter} {event : AdapterEvent}
    (hasks : adapter.Asks float i event request f)
    (works : List ((ConnectionId → Bool) × ReleaseClock))
    (hhoused : Housed
      { worker := (server.worker.serve request works).worker
        adapters := (server.adapters.map
          (·.deliver (server.worker.serve request works).sent)).modify i
            (f (server.worker.serve request works).reply) }) :
    Greeted config
      { worker := (server.worker.serve request works).worker
        adapters := (server.adapters.map
          (·.deliver (server.worker.serve request works).sent)).modify i
            (f (server.worker.serve request works).reply) } := by
  have hcore := h.housed.core
  have hgreets := h.greets i adapter hfound
  obtain ⟨hjoins, hrecords⟩ := hasks.own hgreets
  have hindirect : request.indirect := by
    rcases hasks.keeps hcore with ⟨-, rfl, -⟩ | ⟨-, hindirect, -⟩
    · trivial
    · exact hindirect
  have hself := fun hconnecting hidle delivered =>
    @Adapter.Asks.greets _ works config _ _ _ _ _ _ hasks hcore hconnecting hidle
      (server.worker.serve request works).sent delivered
  have halong := @along_serve request server.worker hindirect works
  have hled := @ledBy_serve request server.worker hindirect works
  generalize server.worker.serve request works = served at hhoused halong hled hself ⊢
  have hasker : ∀ c, adapter.connection = some c ∧ adapter.authenticated = true →
      server.Knows c := fun c hknown => ⟨i, adapter, hfound, hknown⟩
  have hrecorded : ∀ c s, (server.worker.handle request).1.Recorded c s → server.Knows c := by
    intro c s hrecorded
    rcases recorded_handle hrecorded with hbefore | hasked
    · exact h.recorded c s hbefore
    · exact hasker c (hrecords c s hasked)
  have hmember : ∀ c key, key ∈ (served.worker.core.connectionAt c).memberships →
      server.Knows c := by
    intro c key hin
    rcases hled.memberships hcore hin with hbefore | ⟨op, hop | htidies, hjoin⟩
    · exact h.member c key hbefore
    · exact hasker c (hjoins op hop c key hjoin)
    · cases op <;> first | exact hjoin.elim | exact htidies.elim
  have hdelivered : ∀ (j : Nat) other, server.adapters[j]? = some other →
      (other.deliver served.sent).Greets config served.worker.core := by
    intro j other hother
    apply ((h.greets j other hother).deliver ?_).onward
    · intro c hconnection principal hprincipal
      exact hled.principal hcore (h.housed.numbered j other c hother hconnection) hprincipal
    · intro entry hentry hconnection
      obtain ⟨s, hentry⟩ := halong.sent entry hentry
      exact h.authenticated hother hconnection (hrecorded entry.1 s hentry)
  -- What is left is the task that has asked: it gets its connection, or goes on with its own.
  have hnext : (f served.reply (adapter.deliver served.sent)).Greets config served.worker.core ∧
      (adapter.authenticated = true →
        (f served.reply (adapter.deliver served.sent)).connection = adapter.connection ∧
          (f served.reply (adapter.deliver served.sent)).authenticated = true) := by
    by_cases hconnecting : adapter.stage = .calling .connect
    · have hnone := h.housed.connecting i adapter hfound hconnecting
      obtain ⟨rfl, room, rfl⟩ := hasks.connecting hconnecting hnone
      have hstrange : adapter.authenticated = false := by
        by_contra hin
        exact (hgreets.known (by simpa using hin)).1 hnone
      exact ⟨(hdelivered i adapter hfound).connect hconnecting hstrange _ room,
        fun hin => absurd (hstrange.symm.trans hin) nofun⟩
    · refine ⟨hself hconnecting ?_ (hdelivered i adapter hfound), fun hin =>
        hasks.known hconnecting hin _ _⟩
      intro hstrange c hconnection key hin
      exact Bool.false_ne_true (hstrange.symm.trans
        (h.authenticated hfound hconnection (h.member c key hin)))
  have hknows : ∀ c, server.Knows c → Knows
      { worker := served.worker
        adapters := (server.adapters.map (·.deliver served.sent)).modify i
          (f served.reply) } c := by
    rintro c ⟨j, other, hother, hconnection, hin⟩
    refine ⟨j, _, (getElem?_amend (i := i)).trans (by rw [hother]; rfl), ?_⟩
    dsimp only
    split
    · rename_i hij
      obtain rfl := Option.some.inj (hfound.symm.trans (hij ▸ hother))
      obtain ⟨hsame, hin'⟩ := hnext.2 hin
      exact ⟨hsame.trans hconnection, hin'⟩
    · exact ⟨hconnection, hin⟩
  refine ⟨hhoused, ?_, fun c s hin => hknows c (hrecorded c s (halong.recorded c s hin)),
    fun c key hin => hknows c (hmember c key hin)⟩
  intro j after hafter
  rw [getElem?_amend] at hafter
  obtain ⟨other, hother, rfl⟩ := Option.map_eq_some_iff.mp hafter
  split
  · rename_i hij
    obtain rfl := Option.some.inj (hfound.symm.trans (hij ▸ hother))
    exact hnext.1
  · exact hdelivered j other hother

theorem Greeted.step (h : server.Greeted config) (event : AdapterEvent) :
    (server.step config float event).Greeted config := by
  have hmoves := @moves_step config float server event
  have hhoused := @Housed.step config float server h.housed event
  generalize server.step config float event = after at hmoves hhoused
  cases hmoves with
  | stay => exact h
  | accept endpoint room => exact h.accept room
  | locally i f moves => exact h.locally hhoused moves
  | served i adapter found request f asks works done => exact h.served found asks works hhoused

end Server

theorem greeted_worker {worker : Worker} (hcore : Reachable worker.core)
    (hnone : worker.core.connections = ∅) (hempty : worker.subscriptions = ∅)
    (config : AdapterConfig) : Server.Greeted config { worker } := by
  refine Server.greeted_start hcore ?_ ?_
  · intro c hin
    rw [hnone] at hin
    exact ExtTreeMap.not_mem_empty hin
  · rintro c s ⟨spaces, hspaces, -⟩
    rw [hempty] at hspaces
    simp at hspaces

/-- Whatever the clients send and however the tasks take turns, a client that has not authenticated
has got the capabilities, where it has said hello, at most one error and no datagram, and is in no
session and registered for no space. A client that has authenticated has got the capabilities and
its principal before anything else, and its connection acts for this principal while it lasts. -/
theorem run_greets {worker : Worker} (hcore : Reachable worker.core)
    (hnone : worker.core.connections = ∅) (hempty : worker.subscriptions = ∅)
    (config : AdapterConfig) (float : F64 → String) (events : List AdapterEvent) :
    let server := Transition.run (Server.step config float) { worker } events
    ∀ adapter ∈ server.adapters,
      (adapter.authenticated = false →
        adapter.datagrams = [] ∧
        (∃ errors, adapter.written =
            (if adapter.greeted then [capabilitiesEnvelope config] else []) ++ errors ∧
          errors.length ≤ 1 ∧ ∀ error ∈ errors, error.messageKind = .protocolError) ∧
        ∀ c, adapter.connection = some c →
          (∀ key, c ∉ (server.worker.core.sessionAt key).members) ∧
            ∀ space, ¬ server.worker.Recorded c space) ∧
      (adapter.authenticated = true →
        ∃ (principal : AuthenticatedPrincipal) (rest : List Envelope), adapter.written =
            capabilitiesEnvelope config :: authenticatedEnvelope principal.principalId :: rest ∧
          ∀ c, adapter.connection = some c → c ∈ server.worker.core.connections →
            (server.worker.core.connectionAt c).authenticated = some principal) := by
  have hgreeted : (Transition.run (Server.step config float) { worker } events).Greeted config :=
    Transition.run_invariant (fun _ event h => h.step event)
      (greeted_worker hcore hnone hempty config) events
  intro server adapter hin
  obtain ⟨i, hfound⟩ := List.mem_iff_getElem?.mp hin
  have hgreets := hgreeted.greets i adapter hfound
  refine ⟨fun hstrange => ?_, hgreets.told⟩
  obtain ⟨hdatagrams, errors, hwritten, hlength, hkinds, -⟩ := hgreets.strange hstrange
  refine ⟨hdatagrams, ⟨errors, hwritten, hlength, hkinds⟩, fun c hconnection => ⟨?_, ?_⟩⟩
  · intro key hmember
    have hmembership := (hgreeted.housed.core.sound.consistent.membership c key).mp hmember
    exact Bool.false_ne_true (hstrange.symm.trans
      (hgreeted.authenticated hfound hconnection (hgreeted.member c key hmembership)))
  · intro space hrecorded
    exact Bool.false_ne_true (hstrange.symm.trans
      (hgreeted.authenticated hfound hconnection (hgreeted.recorded c space hrecorded)))

end Transport

namespace Sample

open Transport

/-- Another client asks for more before it has authenticated. -/
def intrudes : List AdapterEvent :=
  visits .quic ++ [.accept .webTransport, .call 1 roomy, .streamOpened 1 true, .call 1 roomy,
    .received 1 (.ok (controls (.hello 1 1 "client" "0.1.0" 0 0 0))) 8,
    .received 1 (.ok (controls .subscribeSpace)) 8]

end Sample

namespace Transport

theorem run_greets_intruded :
    let server := Transition.run (Server.step Sample.adapterConfig Sample.one)
      { worker := Sample.provisioned } Sample.intrudes
    server.adapters.map Adapter.authenticated = [true, false] ∧
    server.adapters.map (fun adapter => adapter.written.length) = [4, 2] ∧
    ∀ adapter ∈ server.adapters, adapter.authenticated = false → adapter.datagrams = [] := by
  refine ⟨by decide +kernel, by decide +kernel, fun adapter hin hstrange => ?_⟩
  exact ((run_greets (Sample.reachable _) (ExtTreeMap.isEmpty_iff.mp (by decide +kernel))
    (ExtTreeMap.isEmpty_iff.mp (by decide +kernel)) Sample.adapterConfig Sample.one
      Sample.intrudes adapter hin).1 hstrange).1

end Transport

end Signalweave
