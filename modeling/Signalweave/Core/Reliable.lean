import Signalweave.Core.Journaling
import Signalweave.Core.Staleness

/-!
# Reliable messages arrive

A ledger of one connection lists every critical message that was accepted for it, and what has
become of each. What the connection has drained and what is still queued for it are, one after the
other, the messages of the ledger that no later operation has made stale.
-/

open Std

namespace Signalweave

open Stateful WovenCore SessionState

variable {core core' : WovenCore} {op : Op} {c : ConnectionId}

/-- The critical messages that an operation has accepted for a connection: those of a space it is
subscribed to and may read. -/
def Op.owed (core : WovenCore) (c : ConnectionId) : Op → List OutboundMessage
  | .publishAt request now call clock =>
    (Op.accepted core (.publishAt request now call clock)).filter (core.owes request.session c)
  | _ => []

/-- The critical messages that an operation hands out to a connection. -/
def Op.drains (core : WovenCore) (c : ConnectionId) : Op → List OutboundMessage
  | .drainOutbound connection =>
    match Signalweave.drainOutbound connection core with
    | .ok messages _ =>
      if connection = c then messages.filter fun message => message.delivery.isCritical else []
    | .error _ _ => []
  | _ => []

/-! ## One operation -/

theorem authenticated_commitPlan {request : PublishRequest} {limiter : ConnectionRateLimiter}
    {plan : PublishPlan} :
    (((core.limited request.connection limiter).commitPlan request.session plan).connectionAt
      c).authenticated = (core.connectionAt c).authenticated := by
  show ((core.limited request.connection limiter).connectionAt c).authenticated = _
  rw [limited, connectionAt_modifyConnection]
  split <;> rfl

/-- The plan of a publication changes nothing that its fan-out asks. -/
theorem owes_commitPlan {request : PublishRequest} {limiter : ConnectionRateLimiter}
    {plan : PublishPlan} :
    ((core.limited request.connection limiter).commitPlan request.session plan).owes
      request.session c = core.owes request.session c := by
  have hsubscribers : ∀ space, (((core.limited request.connection limiter).commitPlan
      request.session plan).sessionAt request.session).subscribersOf space =
        (core.sessionAt request.session).subscribersOf space := by
    intro space
    rw [commitPlan, sessionAt_modifySession]
    split
    · rw [commit_eq]
      rfl
    · rfl
  funext message
  rw [owes, owes, hsubscribers, mayReceive, mayReceive, authenticated_commitPlan]

theorem outbound_limited {limiter : ConnectionRateLimiter} {connection : ConnectionId} :
    ((core.limited connection limiter).connectionAt c).outbound =
      (core.connectionAt c).outbound := by
  rw [limited, connectionAt_modifyConnection]
  split <;> rfl

/-- Nothing is queued for a connection that does not exist, and nothing is fresh for it. -/
theorem critical_of_notMem (hdead : c ∉ core.connections) (messages : List OutboundMessage) :
    (core.connectionAt c).outbound.critical = messages.filter (core.isFresh c) := by
  rw [connectionAt_of_notMem hdead, List.filter_eq_nil_iff.mpr]
  intro message _ hfresh
  exact hdead (isFresh_iff.mp hfresh).mem_connections

/-- What a publication queues for a connection is what it owes it. -/
theorem Publishes.critical {request : PublishRequest} {now : Instant} {call : Nat}
    {clock : ReleaseClock} {plan : PublishPlan}
    (h : Publishes core request now call clock plan core') (hsound : core.Sound)
    (c : ConnectionId) : (core'.connectionAt c).outbound.critical =
      ((core.connectionAt c).outbound.critical ++
        (plan.outbound request.session).filter (core.owes request.session c)).filter
          (core'.isFresh c) := by
  obtain ⟨limiter, fan, fanned, outcome, hplan, hfanned, -, -, rfl⟩ := h.writes
  have hlimit : Change (.publishAt request now call clock) core
      (core.limited request.connection limiter) := .limit request now call clock limiter
  have hcommit : Change (.publishAt request now call clock)
      (core.limited request.connection limiter)
      ((core.limited request.connection limiter).commitPlan request.session plan) :=
    .commit request now call clock plan hplan
  by_cases hslow : c ∈ fan.disconnected
  · apply critical_of_notMem
    rw [mem_connections_loseAll]
    exact fun hlive => hlive.2 (ExtTreeSet.mem_toList.mpr hslow)
  · obtain ⟨p, hpurges⟩ := purges_loseAll (c := c)
      (hfanned.changes.sound (hcommit.sound (hlimit.sound hsound))) fan.disconnected.toList clock
    have hqueue : (((core.limited request.connection limiter).commitPlan request.session
        plan).connectionAt c).outbound = (core.connectionAt c).outbound := outbound_limited
    rw [hpurges.critical_fresh (hfanned.changes.sound (hcommit.sound (hlimit.sound hsound))),
      hfanned.critical c hslow, hqueue, owes_commitPlan]

/-- An operation adds to the critical class what it owes, and leaves there what is still fresh. -/
theorem step_critical (hsound : core.Sound) (hdrain : op ≠ .drainOutbound c) :
    ((step core op).connectionAt c).outbound.critical =
      ((core.connectionAt c).outbound.critical ++ op.owed core c).filter
        ((step core op).isFresh c) := by
  by_cases hop : op.publishes
  · cases op with
    | publishAt request now call clock =>
      rcases publishAt_step hsound request now call clock with
        ⟨hnone, hstep⟩ | ⟨plan, hplan, hpublishes⟩
      · have howed : Op.owed core c (.publishAt request now call clock) = [] := by
          rw [Op.owed, Op.accepted, hnone]
          rfl
        rw [howed, List.append_nil]
        rcases hstep with hsame | ⟨limiter, hlimited⟩
        · rw [hsame]
          exact (Purges.of_tables rfl rfl).critical_fresh hsound
        · rw [hlimited]
          have hpurges : Purges core (core.limited request.connection limiter) c fun _ => false :=
            Purges.modifyConnection _ _ (fun _ => rfl) (fun _ _ => id) fun _ => rfl
          exact hpurges.critical_fresh hsound
      · rw [hpublishes.critical hsound, Op.owed, Op.accepted, hplan]
        rfl
    | _ => exact hop.elim
  · have howed : op.owed core c = [] := by
      cases op <;> first | rfl | exact absurd trivial hop
    obtain ⟨p, hpurges⟩ := step_purges hsound hop hdrain
    rw [howed, List.append_nil]
    exact hpurges.critical_fresh hsound

theorem drainOutbound_ends :
    Ends (drainOutbound c) core
      (fun messages core' => c ∈ core.connections ∧
        messages = (core.connectionAt c).outbound.drain.1 ∧
        core' = core.modifyConnection c fun state =>
          { state with outbound := state.outbound.drain.2 })
      fun _ core' => core' = core ∧ (c.get = 0 ∨ c ∉ core.connections) := by
  simp only [drainOutbound, ends_bind, ends_lift, ends_get, ends_set, ends_pure, Option.okOr_eq_ok,
    Option.okOr_eq_error]
  refine ⟨fun _ _ => ⟨fun state hstate => ?_, fun e hnone => ⟨trivial, .inr ?_⟩⟩,
    fun e he => ⟨trivial, ?_⟩⟩
  · obtain rfl := connectionAt_of_some hstate
    exact ⟨OrderedMap.mem_of_getElem? hstate, rfl, trivial⟩
  · rw [ExtTreeMap.mem_iff_isSome_getElem?, hnone.1]
    exact Bool.false_ne_true
  · by_contra hzero
    rw [(validateConnectionId_eq_ok (u := ())).mpr fun h => hzero (.inl h)] at he
    cases he

/-- A drain hands out the whole critical class. -/
theorem step_drain (hsound : core.Sound) :
    ((step core (.drainOutbound c)).connectionAt c).outbound.critical = [] ∧
      Op.drains core c (.drainOutbound c) = (core.connectionAt c).outbound.critical := by
  have hstep : step core (.drainOutbound c) = after (drainOutbound c) core := after_discard _ core
  rw [hstep]
  have hdrains := OutboundQueue.drain_drains (hsound.wellFormed c)
  rcases returns_or_fails (drainOutbound c) core with ⟨messages, hreturns⟩ | ⟨e, hfails⟩
  · obtain ⟨hlive, rfl, hafter⟩ := drainOutbound_ends.returns hreturns
    have hcall : drainOutbound c core = .ok _ _ := hreturns
    refine ⟨?_, ?_⟩
    · rw [hafter, connectionAt_modifyConnection, if_pos ⟨rfl, hlive⟩]
      have hempty := hdrains.empty
      unfold OutboundQueue.rounds at hempty
      show (core.connectionAt c).outbound.drain.2.critical = []
      exact List.eq_nil_of_length_eq_zero (by omega)
    · rw [Op.drains, hcall]
      exact (if_pos rfl).trans hdrains.critical
  · obtain ⟨hafter, hunknown⟩ := drainOutbound_ends.fails hfails
    have hcall : drainOutbound c core = .error _ _ := hfails
    have hdead : c ∉ core.connections := by
      rcases hunknown with hzero | hdead
      · intro hlive
        have hpos := (hsound.consistent.connectionIds c hlive).1
        rw [hzero] at hpos
        exact Nat.lt_irrefl _ hpos
      · exact hdead
    have hempty : (core.connectionAt c).outbound.critical = [] := by
      rw [connectionAt_of_notMem hdead]
    rw [hafter, Op.drains, hcall, hempty]
    exact ⟨rfl, rfl⟩

/-! ## Runs -/

/-- What has become of a message. -/
inductive Disposition where
  | queued
  | drained
  | stale
  deriving DecidableEq

/-- A core beside the critical messages that a connection has drained and the ledger of all that
were accepted for it, in the order of acceptance. -/
structure DeliveryLog where
  core : WovenCore
  drained : List OutboundMessage := []
  ledger : List (OutboundMessage × Disposition) := []

/-- The operation drains the queue of a connection. -/
def Op.takes : Op → ConnectionId → Bool
  | .drainOutbound connection, c => connection == c
  | _, _ => false

theorem Op.takes_eq_false (h : op ≠ .drainOutbound c) : op.takes c = false := by
  cases op with
  | drainOutbound connection => exact beq_false_of_ne fun heq => h (by rw [heq])
  | _ => rfl

theorem Op.drains_of_ne (h : op ≠ .drainOutbound c) : op.drains core c = [] := by
  cases op with
  | drainOutbound connection =>
    rw [Op.drains]
    split
    · exact if_neg fun heq => h (by rw [heq])
    · rfl
  | _ => rfl

/-- A queued message is drained with its queue, and stale as soon as it is no longer fresh. -/
def settle (after : WovenCore) (c : ConnectionId) (op : Op) :
    OutboundMessage × Disposition → OutboundMessage × Disposition
  | (message, .queued) =>
    if op.takes c then (message, .drained)
    else if after.isFresh c message then (message, .queued)
    else (message, .stale)
  | entry => entry

/-- The messages of a ledger with one disposition. -/
def marked (ledger : List (OutboundMessage × Disposition)) (disposition : Disposition) :
    List OutboundMessage :=
  (ledger.filter fun entry => entry.2 = disposition).map Prod.fst

section Marked

variable {ledger more : List (OutboundMessage × Disposition)} {disposition : Disposition}
  {after : WovenCore}

theorem marked_append : marked (ledger ++ more) disposition =
    marked ledger disposition ++ marked more disposition := by
  rw [marked, List.filter_append, List.map_append]
  rfl

theorem marked_eq_nil (h : ∀ entry ∈ ledger, entry.2 ≠ disposition) :
    marked ledger disposition = [] := by
  rw [marked, List.filter_eq_nil_iff.mpr fun entry hentry => by simpa using h entry hentry]
  rfl

theorem settle_of_ne {entry : OutboundMessage × Disposition} (h : entry.2 ≠ .queued) :
    settle after c op entry = entry := by
  obtain ⟨message, disposition⟩ := entry
  cases disposition with
  | queued => exact absurd rfl h
  | drained => rfl
  | stale => rfl

theorem map_settle_of_ne (h : ∀ entry ∈ ledger, entry.2 ≠ .queued) :
    ledger.map (settle after c op) = ledger := by
  rw [List.map_congr_left fun entry hentry => settle_of_ne (h entry hentry), List.map_id']

/-- An operation that does not drain keeps queued what stays fresh. -/
theorem marked_queued_settle (htakes : op.takes c = false) :
    marked (ledger.map (settle after c op)) .queued =
      (marked ledger .queued).filter (after.isFresh c) := by
  induction ledger with
  | nil => rfl
  | cons entry rest ih =>
    rw [List.map_cons, ← List.singleton_append, ← List.singleton_append (l := rest), marked_append,
      marked_append, ih, List.filter_append]
    congr 1
    obtain ⟨message, disposition⟩ := entry
    cases disposition with
    | queued =>
      rw [settle, htakes, if_neg Bool.false_ne_true]
      cases hfresh : after.isFresh c message <;> simp [marked, hfresh]
    | drained => rfl
    | stale => rfl

theorem marked_drained_settle (htakes : op.takes c = false) :
    marked (ledger.map (settle after c op)) .drained = marked ledger .drained := by
  induction ledger with
  | nil => rfl
  | cons entry rest ih =>
    rw [List.map_cons, ← List.singleton_append, ← List.singleton_append (l := rest), marked_append,
      marked_append, ih]
    congr 1
    obtain ⟨message, disposition⟩ := entry
    cases disposition with
    | queued =>
      rw [settle, htakes, if_neg Bool.false_ne_true]
      cases hfresh : after.isFresh c message <;> simp [marked]
    | drained => rfl
    | stale => rfl

/-- A drain turns what is queued into what is drained. -/
theorem marked_settle_drain (htakes : op.takes c = true)
    (h : ∀ entry ∈ ledger, entry.2 ≠ .drained) :
    marked (ledger.map (settle after c op)) .drained = marked ledger .queued := by
  induction ledger with
  | nil => rfl
  | cons entry rest ih =>
    rw [List.map_cons, ← List.singleton_append, ← List.singleton_append (l := rest), marked_append,
      marked_append, ih fun entry hentry => h entry (List.mem_cons_of_mem _ hentry)]
    congr 1
    obtain ⟨message, disposition⟩ := entry
    cases disposition with
    | queued =>
      rw [settle, if_pos htakes]
      rfl
    | drained => exact absurd rfl (h _ List.mem_cons_self)
    | stale => rfl

theorem settle_ne_queued (htakes : op.takes c = true)
    (entry : OutboundMessage × Disposition) : (settle after c op entry).2 ≠ .queued := by
  obtain ⟨message, disposition⟩ := entry
  cases disposition with
  | queued =>
    rw [settle, if_pos htakes]
    exact nofun
  | drained => exact nofun
  | stale => exact nofun

theorem settle_ne_drained (htakes : op.takes c = false) {entry : OutboundMessage × Disposition}
    (h : entry.2 ≠ .drained) : (settle after c op entry).2 ≠ .drained := by
  obtain ⟨message, disposition⟩ := entry
  cases disposition with
  | queued =>
    rw [settle, htakes, if_neg Bool.false_ne_true]
    split <;> exact nofun
  | drained => exact absurd rfl h
  | stale => exact nofun

end Marked

namespace DeliveryLog

/-- An operation, with what it drains for the connection and what it comes to owe it. -/
def step (c : ConnectionId) (log : DeliveryLog) (op : Op) : DeliveryLog :=
  let after := Signalweave.step log.core op
  { core := after
    drained := log.drained ++ op.drains log.core c
    ledger :=
      (log.ledger ++ (op.owed log.core c).map fun message => (message, Disposition.queued)).map
      (settle after c op) }

/-- The messages of the ledger that have not become stale, in the order of acceptance. -/
def expected (log : DeliveryLog) : List OutboundMessage :=
  (log.ledger.filter fun entry => entry.2 ≠ .stale).map Prod.fst

/-- The ledger tells what the connection has drained and what is queued for it; the drained part
comes first. -/
structure Exact (c : ConnectionId) (log : DeliveryLog) : Prop where
  sound : log.core.Sound
  parts : ∃ past present, log.ledger = past ++ present ∧ (∀ entry ∈ past, entry.2 ≠ .queued) ∧
    ∀ entry ∈ present, entry.2 ≠ .drained
  drained : log.drained = marked log.ledger .drained
  queued : (log.core.connectionAt c).outbound.critical = marked log.ledger .queued

variable {log : DeliveryLog}

theorem Exact.expected (h : log.Exact c) :
    log.drained ++ (log.core.connectionAt c).outbound.critical = log.expected := by
  obtain ⟨past, present, hledger, hpast, hpresent⟩ := h.parts
  rw [h.drained, h.queued, DeliveryLog.expected, hledger, marked_append, marked_append,
    marked_eq_nil hpast, marked_eq_nil hpresent, List.append_nil, List.nil_append,
    List.filter_append, List.map_append, marked, marked]
  congr 2
  · apply List.filter_congr
    rintro ⟨message, disposition⟩ hentry
    have hne := hpast _ hentry
    cases disposition <;> simp_all
  · apply List.filter_congr
    rintro ⟨message, disposition⟩ hentry
    have hne := hpresent _ hentry
    cases disposition <;> simp_all

theorem Exact.drain (h : log.Exact c) : (log.step c (.drainOutbound c)).Exact c := by
  obtain ⟨hempty, hdrains⟩ := step_drain h.sound (c := c)
  have htakes : (Op.drainOutbound c).takes c = true := beq_self_eq_true c
  obtain ⟨past, present, hledger, hpast, hpresent⟩ := h.parts
  have hall : ∀ entry ∈ (log.step c (.drainOutbound c)).ledger, entry.2 ≠ .queued := by
    intro entry hentry
    obtain ⟨before, -, rfl⟩ := List.mem_map.mp hentry
    exact settle_ne_queued htakes before
  have hnew : (log.step c (.drainOutbound c)).ledger =
      (past ++ present).map
        (settle (Signalweave.step log.core (.drainOutbound c)) c (.drainOutbound c)) := by
    rw [← hledger]
    simp only [DeliveryLog.step, Op.owed, List.map_nil, List.append_nil]
  refine ⟨sound_step h.sound _, ⟨_, [], (List.append_nil _).symm, hall, nofun⟩, ?_, ?_⟩
  · rw [hnew, List.map_append, marked_append, map_settle_of_ne hpast,
      marked_settle_drain htakes hpresent]
    show log.drained ++ Op.drains log.core c (.drainOutbound c) = _
    rw [hdrains, h.drained, h.queued, hledger, marked_append, marked_append, marked_eq_nil hpast,
      marked_eq_nil hpresent, List.append_nil, List.nil_append]
  · rw [marked_eq_nil hall]
    exact hempty

theorem Exact.step (h : log.Exact c) (op : Op) : (log.step c op).Exact c := by
  by_cases hdrain : op = .drainOutbound c
  · rw [hdrain]
    exact h.drain
  · have htakes := Op.takes_eq_false hdrain
    obtain ⟨past, present, hledger, hpast, hpresent⟩ := h.parts
    have howed : ∀ messages : List OutboundMessage,
        marked (messages.map fun message => (message, Disposition.queued)) .queued = messages ∧
          marked (messages.map fun message => (message, Disposition.queued)) .drained = [] := by
      intro messages
      induction messages <;> simp_all [marked]
    refine ⟨sound_step h.sound op, ?_, ?_, ?_⟩
    · refine ⟨past, (present ++ (op.owed log.core c).map fun message =>
        (message, Disposition.queued)).map (settle (Signalweave.step log.core op) c op),
        ?_, hpast, ?_⟩
      · show (log.ledger ++ _).map _ = _
        rw [hledger, List.append_assoc, List.map_append, map_settle_of_ne hpast]
      · intro entry hentry
        obtain ⟨before, hbefore, rfl⟩ := List.mem_map.mp hentry
        apply settle_ne_drained htakes
        rcases List.mem_append.mp hbefore with hin | hnew
        · exact hpresent before hin
        · obtain ⟨message, -, rfl⟩ := List.mem_map.mp hnew
          exact nofun
    · show log.drained ++ op.drains log.core c = marked ((log.ledger ++ _).map _) .drained
      rw [Op.drains_of_ne hdrain, List.append_nil, marked_drained_settle htakes, marked_append,
        (howed _).2, List.append_nil, h.drained]
    · show ((Signalweave.step log.core op).connectionAt c).outbound.critical =
        marked ((log.ledger ++ _).map _) .queued
      rw [step_critical h.sound hdrain, marked_queued_settle htakes, marked_append, (howed _).1,
        h.queued]

theorem run_core (log : DeliveryLog) (ops : List Op) :
    (Transition.run (DeliveryLog.step c) log ops).core =
      Transition.run Signalweave.step log.core ops :=
  Transition.run_project (f := DeliveryLog.core) (fun _ _ => rfl) log ops

end DeliveryLog

theorem Initial.exact (h : Initial core) (c : ConnectionId) : DeliveryLog.Exact c { core } := by
  refine ⟨h.empty.sound, ⟨[], [], rfl, nofun, nofun⟩, rfl, ?_⟩
  show (core.connectionAt c).outbound.critical = []
  rw [h.empty.connectionAt]

/-- A publication loses the connections it reports, and no others. -/
theorem Publishes.mem_connections {request : PublishRequest} {now : Instant} {call : Nat}
    {clock : ReleaseClock} {plan : PublishPlan} {outcome : PublishOutcome}
    (h : Publishes core request now call clock plan core')
    (hreturns : Returns (publishAt request now call clock) core outcome core') :
    c ∈ core'.connections ↔ c ∈ core.connections ∧ c ∉ outcome.disconnectedSlowConsumers := by
  obtain ⟨limiter, fan, fanned, outcome', hplan, hfanned, hcall, hslow, rfl⟩ := h.writes
  have houtcome : outcome = outcome' := by
    have hrun : publishAt request now call clock core = .ok outcome _ := hreturns
    rw [hcall] at hrun
    cases hrun
    rfl
  rw [mem_connections_loseAll, houtcome, hslow, hfanned.live]
  refine and_congr_left fun _ => ?_
  show c ∈ (core.limited request.connection limiter).connections ↔ _
  rw [limited, mem_connections_modifyConnection]

/-- Along every run what a connection has drained of the critical messages, and then what is queued
for it, are the messages accepted for it that no later operation has made stale, each once and in
the order of acceptance; a publication loses no connection but the slow ones it reports. What is
accepted are the messages of its plan, which `decides_of_planPublish` in `Core.Refines` shows to be
what the authority of the channel has answered. -/
theorem run_reliable (h : Initial core) (ops : List Op) (c : ConnectionId) :
    let log := Transition.run (DeliveryLog.step c) { core } ops
    log.core = Transition.run step core ops ∧
      log.drained ++ (log.core.connectionAt c).outbound.critical = log.expected ∧
      ∀ request now call clock outcome core',
        Returns (publishAt request now call clock) log.core outcome core' →
          (c ∈ core'.connections ↔
            c ∈ log.core.connections ∧ c ∉ outcome.disconnectedSlowConsumers) := by
  intro log
  have hexact : log.Exact c :=
    Transition.run_invariant (P := DeliveryLog.Exact c) (fun _ op h => h.step op) (h.exact c) ops
  refine ⟨DeliveryLog.run_core _ ops, hexact.expected, ?_⟩
  intro request now call clock outcome core' hreturns
  obtain ⟨plan, -, hpublishes⟩ := publishes_of_returns hexact.sound hreturns
  exact hpublishes.mem_connections hreturns

namespace Sample

/-- A publication that is drained, one that the departure of its entity makes stale, and one that
stays queued. -/
def drainedBetween : List Op :=
  published ++ [.drainOutbound ⟨1⟩, .publishAt (publication 6) 1 1 clock,
    .spawnEntity ⟨1⟩ (spaceKey 1) ⟨1⟩, .removeEntity ⟨1⟩ session ⟨1⟩,
    .publishAt { publication 7 with entity := some ⟨2⟩ } 2 2 clock]

end Sample

theorem run_reliable_drainedBetween :
    let log := Transition.run (DeliveryLog.step ⟨1⟩) { core := Sample.core } Sample.drainedBetween
    log.drained.map OutboundMessage.sequence = [5] ∧
      log.expected.map OutboundMessage.sequence = [5, 7] ∧
      log.drained ++ (log.core.connectionAt ⟨1⟩).outbound.critical = log.expected :=
  ⟨by decide +kernel, by decide +kernel,
    (run_reliable Sample.initial Sample.drainedBetween ⟨1⟩).2.1⟩

end Signalweave
