import Signalweave.Core.Losing
import Signalweave.Core.QueueChanges

/-!
# The writes of a publication

Once the plan is made nothing fails: the journal has room for what the plan records, every
message of the plan has the key its queue asks for, and the slow consumers are known
connections.
-/

open Std

namespace Signalweave

open Stateful WovenCore

namespace WovenCore

variable {core : WovenCore}

/-! ## The journal -/

theorem journal_ends {messages : List OutboundMessage} {Q : Unit → WovenCore → Prop}
    {E : CoreError → WovenCore → Prop}
    (hroom : messages.length ≤ core.journalOutbox.remainingCapacity)
    (hdone : Q () { core with
      journalOutbox := { core.journalOutbox with
        records := core.journalOutbox.records ++ messages.map JournalRecord.mk } }) :
    Ends (messages.foldlM journalOne ()) core Q E := by
  induction messages generalizing core with
  | nil => simpa using hdone
  | cons message rest ih =>
    simp only [List.length_cons, JournalOutbox.remainingCapacity] at hroom
    have hpush : core.journalOutbox.push { message } = .ok
        { core.journalOutbox with records := core.journalOutbox.records ++ [{ message }] } := by
      rw [JournalOutbox.push, if_neg (by omega)]
    rw [List.foldlM_cons, ends_bind, journalOne, ends_bind, ends_get, hpush]
    simp only [ends_set]
    apply ih
    · simp only [JournalOutbox.remainingCapacity, List.length_append, List.length_singleton]
      omega
    · simpa using hdone

/-! ## Who a message reaches -/

/-- The connection reads a message of the session where it is subscribed to the space: its
principal may receive it. -/
def mayReceive (core : WovenCore) (key : SessionKey) (connection : ConnectionId)
    (message : OutboundMessage) : Bool :=
  (core.connectionAt connection).authenticated.any fun principal =>
    canReceive principal key message.space message.channel

/-- The fan-out puts a message to a connection, unless it has found it slow before. -/
def reaches (core : WovenCore) (key : SessionKey) (connection : ConnectionId)
    (message : OutboundMessage) : Bool :=
  (core.recipients key message).contains connection && core.mayReceive key connection message

/-- The critical messages that a connection is to get, each as soon as it is accepted. -/
def owes (core : WovenCore) (key : SessionKey) (connection : ConnectionId)
    (message : OutboundMessage) : Bool :=
  message.delivery.isCritical &&
    (((core.sessionAt key).subscribersOf message.space).contains connection &&
      core.mayReceive key connection message)

theorem spatialCandidate_subscribed {session : SessionState}
    {subscribers : ExtTreeSet ConnectionId} {position : EntityPosition} {radius : ℚ}
    {exactDistance : Bool} {candidate : EntityId} {connection : ConnectionId}
    (h : spatialCandidate session subscribers position radius exactDistance candidate =
      some connection) : connection ∈ subscribers := by
  simp only [spatialCandidate, Option.bind_eq_bind, Option.bind_eq_some_iff] at h
  obtain ⟨record, -, candidatePosition, -, h⟩ := h
  split at h
  · cases h
  · split at h
    · rename_i hcontains
      cases h
      exact hcontains
    · cases h

/-- Nobody but a subscriber receives anything. -/
theorem routingRecipients_subset {session : SessionState} {message : OutboundMessage}
    {connection : ConnectionId} (h : connection ∈ routingRecipients session message) :
    connection ∈ session.subscribersOf message.space := by
  unfold routingRecipients at h
  split at h
  · simp at h
  split at h
  · exact h
  split at h
  · exact h
  · split at h
    · simp at h
    · unfold spatialRecipients at h
      rw [ExtTreeSet.mem_ofList, List.contains_iff_mem, List.mem_filterMap] at h
      obtain ⟨candidate, -, hcandidate⟩ := h
      exact spatialCandidate_subscribed hcandidate
  · simp at h

/-- A critical message goes to all subscribers. -/
theorem routingRecipients_of_critical {session : SessionState} {message : OutboundMessage}
    (hcritical : message.delivery.isCritical = true) (hspace : message.space ∈ session.spaces) :
    routingRecipients session message = session.subscribersOf message.space := by
  obtain ⟨descriptor, hdescriptor⟩ := OrderedMap.exists_of_mem hspace
  unfold routingRecipients
  rw [hdescriptor]
  simp only [hcritical, if_true]
  rfl

theorem mem_recipients {key : SessionKey} {message : OutboundMessage} {connection : ConnectionId}
    (hkey : key ∈ core.sessions) :
    connection ∈ core.recipients key message ↔
      connection ∈ routingRecipients (core.sessionAt key) message := by
  rw [recipients, sessions_getElem? hkey, Option.elim_some, ExtTreeSet.mem_toList]

theorem mem_sessions_of_mem_recipients {key : SessionKey} {message : OutboundMessage}
    {connection : ConnectionId} (h : connection ∈ core.recipients key message) :
    key ∈ core.sessions := by
  by_contra hnone
  rw [recipients, ExtTreeMap.getElem?_eq_none hnone] at h
  simp at h

/-! ## The fan-out -/

/-- The queue has taken messages of a session one after the other. -/
def Took (key : SessionKey) : OutboundQueue → OutboundQueue → Prop :=
  Relation.ReflTransGen fun queue queue' => ∃ (message : AuthorizedMessage) (result : QueuePush),
    queue.push (message.toOutbound key) = .ok (result, queue')

/-- What holds while a plan is fanned out: only queues have changed, and every connection not yet
found slow has got the critical messages expected for it. -/
structure FannedOut (op : Op) (key : SessionKey) (start : WovenCore)
    (expected : ConnectionId → List OutboundMessage) (fan : FanOut) (core : WovenCore) : Prop where
  changes : Changes op start core
  tables : core = { start with connections := core.connections }
  connections : ∀ c, core.connectionAt c =
    { start.connectionAt c with outbound := (core.connectionAt c).outbound }
  live : ∀ c, c ∈ core.connections ↔ c ∈ start.connections
  slow : ∀ c, c ∈ fan.disconnected → c ∈ start.connections
  reported : fan.outcome.disconnectedSlowConsumers = []
  queues : ∀ c, Took key (start.connectionAt c).outbound (core.connectionAt c).outbound
  critical : ∀ c, c ∉ fan.disconnected → (core.connectionAt c).outbound.critical =
    (start.connectionAt c).outbound.critical ++ expected c

theorem FannedOut.refl {op : Op} {key : SessionKey} (core : WovenCore) {count : Nat} :
    FannedOut op key core (fun _ => []) { outcome := { authorizedMessages := count } } core where
  changes := .refl
  tables := rfl
  connections _ := rfl
  live _ := Iff.rfl
  slow c hc := by simp at hc
  reported := rfl
  queues _ := .refl
  critical c _ := (List.append_nil _).symm

theorem FannedOut.sessions {op : Op} {key : SessionKey} {start : WovenCore}
    {expected : ConnectionId → List OutboundMessage} {fan : FanOut}
    (h : FannedOut op key start expected fan core) : core.sessions = start.sessions := by
  rw [h.tables]

theorem FannedOut.sessionAt {op : Op} {key : SessionKey} {start : WovenCore}
    {expected : ConnectionId → List OutboundMessage} {fan : FanOut}
    (h : FannedOut op key start expected fan core) (k : SessionKey) :
    core.sessionAt k = start.sessionAt k := by
  rw [WovenCore.sessionAt, h.sessions, WovenCore.sessionAt]

theorem attempts_eq_some {fan : FanOut} {key : SessionKey} {message : OutboundMessage}
    {recipient : ConnectionId} {connection : ConnectionState}
    (h : fan.attempts core key message recipient = some connection) :
    recipient ∉ fan.disconnected ∧ recipient ∈ core.connections ∧
      connection = core.connectionAt recipient ∧ core.mayReceive key recipient message = true := by
  unfold FanOut.attempts at h
  split at h
  · cases h
  · rename_i hslow
    obtain ⟨hfound, hreads⟩ := Option.filter_eq_some_iff.mp h
    obtain rfl := connectionAt_of_some hfound
    exact ⟨hslow, OrderedMap.mem_of_getElem? hfound, rfl, hreads⟩

theorem attempts_eq_none {fan : FanOut} {key : SessionKey} {message : OutboundMessage}
    {recipient : ConnectionId} (h : fan.attempts core key message recipient = none)
    (hslow : recipient ∉ fan.disconnected) : core.mayReceive key recipient message = false := by
  unfold FanOut.attempts at h
  rw [if_neg hslow] at h
  by_cases hlive : recipient ∈ core.connections
  · rw [connections_getElem? hlive, Option.filter_eq_none_iff] at h
    exact Bool.eq_false_iff.mpr (h _ rfl)
  · rw [mayReceive, connectionAt_of_notMem hlive]
    rfl

theorem mayReceive_iff {key : SessionKey} {connection : ConnectionId} {message : OutboundMessage} :
    core.mayReceive key connection message = true ↔
      ∃ principal, (core.connectionAt connection).authenticated = some principal ∧
        canReceive principal key message.space message.channel = true := by
  rw [mayReceive, Option.any_eq_true]

section FanOut

variable {request : PublishRequest} {now : Instant} {call : Nat} {clock : ReleaseClock}
  {start : WovenCore} {expected : ConnectionId → List OutboundMessage} {fan : FanOut}
  {key : SessionKey} {message : AuthorizedMessage} {recipient : ConnectionId}

/-- What the recipient of one attempt is to get by it. -/
def attempted (start : WovenCore) (key : SessionKey) (message : OutboundMessage)
    (connection : ConnectionId) : List OutboundMessage :=
  [message].filter fun message =>
    message.delivery.isCritical && start.mayReceive key connection message

/-- A message that passed the check has a key where its class needs one. -/
theorem isSome_of_validateCoalesceKey (h : validateCoalesceKey message = .ok ()) :
    message.delivery.isReplaceable = true → message.coalesceKey.isSome = true := by
  intro hreplaceable
  rw [Option.isSome_iff_ne_none]
  intro hnone
  simp [validateCoalesceKey, hnone, hreplaceable] at h

/-- Whoever has been found slow could not take what was expected for it. -/
def FoundSlow (start : WovenCore) (expected : ConnectionId → List OutboundMessage) (fan : FanOut) :
    Prop :=
  ∀ c ∈ fan.disconnected, (start.connectionAt c).outbound.config.criticalCapacity <
    (start.connectionAt c).outbound.critical.length + (expected c).length

theorem config_of_took {key : SessionKey} {queue queue' : OutboundQueue} (h : Took key queue queue')
    (hw : queue.WellFormed) : queue'.WellFormed ∧ queue'.config = queue.config := by
  induction h with
  | refl => exact ⟨hw, rfl⟩
  | tail _ hlast ih =>
    obtain ⟨message, result, hpush⟩ := hlast
    have hpushes := OutboundQueue.pushes_of_push ih.1 hpush
    exact ⟨hpushes.wellFormed, hpushes.config.trans ih.2⟩

/-- One message is pushed to one queue. -/
theorem FannedOut.push {result : QueuePush} {queue : OutboundQueue}
    (h : FannedOut (.publishAt request now call clock) request.session start expected fan core)
    (hscope :
      (start.sessionAt request.session).InScope message.space message.spaceEpoch message.entity)
    (hsubscribed : ⟨request.session, message.space⟩ ∈ (start.connectionAt recipient).subscriptions)
    (hlive : recipient ∈ core.connections) (hslow : recipient ∉ fan.disconnected)
    (hreads :
      start.mayReceive request.session recipient (message.toOutbound request.session) = true)
    (hpush : (core.connectionAt recipient).outbound.push (message.toOutbound request.session) =
      .ok (result, queue))
    (hpushes : OutboundQueue.Pushes (core.connectionAt recipient).outbound
      (message.toOutbound request.session) result queue) :
    FannedOut (.publishAt request now call clock) request.session start
      (fun c => expected c ++
        if c = recipient then attempted start request.session (message.toOutbound request.session) c
        else [])
      { outcome := { fan.outcome with
          recipientAttempts := fan.outcome.recipientAttempts + 1
          queues := recordQueueResult fan.outcome.queues result }
        disconnected :=
          if result = .criticalCapacityExhausted then fan.disconnected.insert recipient
          else fan.disconnected }
      (core.modifyConnection recipient fun state => { state with outbound := queue }) := by
  obtain ⟨principal, hprincipal, hallowed⟩ := mayReceive_iff.mp hreads
  have hat : ∀ c, (core.modifyConnection recipient fun state =>
      { state with outbound := queue }).connectionAt c =
        if c = recipient then { core.connectionAt c with outbound := queue }
        else core.connectionAt c := by
    intro c
    rw [connectionAt_modifyConnection]
    by_cases hc : c = recipient
    · rw [if_pos ⟨hc, hlive⟩, if_pos hc]
    · rw [if_neg fun hand => hc hand.1, if_neg hc]
  refine ⟨?_, ?_, ?_, ?_, ?_, h.reported, ?_, ?_⟩
  · refine h.changes.tail (.deliver request now call clock message recipient principal result
      queue ?_ ?_ hallowed ?_ hpush)
    · rw [h.connections]
      exact hsubscribed
    · rw [h.connections]
      exact hprincipal
    · rw [h.sessionAt]
      exact hscope
  · exact congrArg (fun base : WovenCore => { base with
      connections := (core.modifyConnection recipient fun state =>
        { state with outbound := queue }).connections }) h.tables
  · intro c
    rw [hat]
    split
    · rw [h.connections]
    · exact h.connections c
  · exact fun c => mem_connections_modifyConnection.trans (h.live c)
  · intro c hc
    dsimp only at hc
    split at hc
    · rcases OrderedSet.mem_insert.mp hc with rfl | hc
      · exact (h.live c).mp hlive
      · exact h.slow c hc
    · exact h.slow c hc
  · intro c
    rw [hat]
    split
    · rename_i heq
      subst heq
      exact (h.queues c).tail ⟨message, result, hpush⟩
    · exact h.queues c
  · intro c hc
    have hbefore : c ∉ fan.disconnected := by
      intro hin
      apply hc
      dsimp only
      split
      · exact OrderedSet.mem_insert.mpr (.inr hin)
      · exact hin
    rw [hat]
    by_cases heq : c = recipient
    · subst heq
      have hroom : result ≠ .criticalCapacityExhausted := by
        intro hfull
        apply hc
        simp [hfull]
      rw [if_pos rfl, if_pos rfl, hpushes.critical, h.critical c hbefore]
      cases hcritical : (message.toOutbound request.session).delivery.isCritical with
      | true => simp [hroom, attempted, hcritical, hreads]
      | false => simp [attempted, hcritical]
    · rw [if_neg heq, if_neg heq, h.critical c hbefore, List.append_nil]

theorem deliver_ends (hsound : start.Sound)
    (hscope :
      (start.sessionAt request.session).InScope message.space message.spaceEpoch message.entity)
    (hcoalesce : validateCoalesceKey message = .ok ())
    (hsubscribed : ⟨request.session, message.space⟩ ∈ (start.connectionAt recipient).subscriptions)
    (h : FannedOut (.publishAt request now call clock) request.session start expected fan core) :
    Ends (deliver request.session (message.toOutbound request.session) fan recipient) core
      (FannedOut (.publishAt request now call clock) request.session start fun c => expected c ++
        if c = recipient then attempted start request.session (message.toOutbound request.session) c
        else [])
      fun _ _ => False := by
  have hmay : core.mayReceive request.session recipient (message.toOutbound request.session) =
      start.mayReceive request.session recipient (message.toOutbound request.session) := by
    rw [mayReceive, h.connections, mayReceive]
  unfold deliver
  rw [ends_bind, ends_get]
  cases hattempt :
    fan.attempts core request.session (message.toOutbound request.session) recipient with
  | none =>
    refine { h with critical := ?_ }
    intro c hc
    rw [h.critical c hc]
    split
    · rename_i heq
      subst heq
      have hnone := attempts_eq_none hattempt hc
      rw [attempted, List.filter_cons, ← hmay, hnone]
      simp
    · rw [List.append_nil]
  | some connection =>
    obtain ⟨hslow, hlive, rfl, hreads⟩ := attempts_eq_some hattempt
    have hw := (h.changes.sound hsound).wellFormed recipient
    obtain ⟨result, queue, hpush, hpushes⟩ :=
      @OutboundQueue.push_pushes _ (message.toOutbound request.session) hw
        (isSome_of_validateCoalesceKey hcoalesce)
    simp only [hpush]
    rw [ends_bind, ends_set, ends_pure]
    exact h.push hscope hsubscribed hlive hslow (hmay ▸ hreads) hpush hpushes

theorem deliver_foundSlow (hsound : start.Sound)
    (hslow : FoundSlow start expected fan)
    (h : FannedOut (.publishAt request now call clock) request.session start expected fan core) :
    Ends (deliver request.session (message.toOutbound request.session) fan recipient) core
      (fun fan' _ => FoundSlow start (fun c => expected c ++ if c = recipient then
        attempted start request.session (message.toOutbound request.session) c else []) fan')
      fun _ _ => True := by
  have hmay : core.mayReceive request.session recipient (message.toOutbound request.session) =
      start.mayReceive request.session recipient (message.toOutbound request.session) := by
    rw [mayReceive, h.connections, mayReceive]
  have hmore : ∀ c ∈ fan.disconnected, (start.connectionAt c).outbound.config.criticalCapacity <
      (start.connectionAt c).outbound.critical.length + (expected c ++ if c = recipient then
        attempted start request.session (message.toOutbound request.session) c else []).length := by
    intro c hc
    have hless := hslow c hc
    rw [List.length_append]
    omega
  unfold deliver
  rw [ends_bind, ends_get]
  cases hattempt :
    fan.attempts core request.session (message.toOutbound request.session) recipient with
  | none => exact hmore
  | some connection =>
    obtain ⟨hfresh, hlive, rfl, hreads⟩ := attempts_eq_some hattempt
    cases hpush :
      (core.connectionAt recipient).outbound.push (message.toOutbound request.session) with
    | error error =>
      simp only [hpush]
      exact trivial
    | ok answer =>
      obtain ⟨result, queue⟩ := answer
      simp only [hpush]
      rw [ends_bind, ends_set, ends_pure]
      intro c hc
      dsimp only at hc
      split at hc
      · rename_i hfull
        rcases OrderedSet.mem_insert.mp hc with rfl | hc
        · have hpushes := OutboundQueue.pushes_of_push
            ((h.changes.sound hsound).wellFormed c) hpush
          obtain ⟨hcritical, hlength⟩ := hpushes.exhausted.mp hfull
          have hconfig := (config_of_took (h.queues c) (hsound.wellFormed c)).2
          have hattempted : attempted start request.session (message.toOutbound request.session) c =
              [message.toOutbound request.session] := by
            simp [attempted, hcritical, ← hmay, hreads]
          rw [h.critical c hfresh, List.length_append, hconfig] at hlength
          dsimp only
          rw [if_pos rfl, hattempted, List.length_append, List.length_singleton]
          omega
        · exact hmore c hc
      · exact hmore c hc

theorem recipients_of_sessions {core core' : WovenCore} (h : core'.sessions = core.sessions)
    (message : OutboundMessage) : core'.recipients key message = core.recipients key message := by
  rw [recipients, h, recipients]

/-- The recipients of a critical message are those it is owed to. -/
theorem owes_eq (hscope : (start.sessionAt key).InScope message.space message.spaceEpoch
    message.entity) (c : ConnectionId) :
    (if c ∈ start.recipients key (message.toOutbound key) then
      attempted start key (message.toOutbound key) c else []) =
        [message.toOutbound key].filter (start.owes key c) := by
  cases hcritical : (message.toOutbound key).delivery.isCritical with
  | false => simp [attempted, owes, hcritical]
  | true =>
    obtain ⟨descriptor, hdescriptor, -⟩ := hscope.1
    have hiff : c ∈ start.recipients key (message.toOutbound key) ↔
        c ∈ (start.sessionAt key).subscribersOf message.space := by
      rw [mem_recipients (mem_sessions_of_inScope hscope), routingRecipients_of_critical hcritical
        (OrderedMap.mem_of_getElem? hdescriptor)]
      rfl
    by_cases hin : c ∈ (start.sessionAt key).subscribersOf message.space
    · rw [if_pos (hiff.mpr hin)]
      have hcontains : ((start.sessionAt key).subscribersOf
          (message.toOutbound key).space).contains c = true := hin
      simp only [attempted, List.filter_cons, List.filter_nil, owes, hcritical, hcontains,
        Bool.true_and]
    · rw [if_neg (mt hiff.mp hin)]
      have hcontains : ((start.sessionAt key).subscribersOf
          (message.toOutbound key).space).contains c = false := by
        rwa [← Bool.not_eq_true]
      simp [owes, hcontains]

/-- What is put to one recipient by one attempt. -/
def put (start : WovenCore) (key : SessionKey) (message : OutboundMessage)
    (recipient connection : ConnectionId) : List OutboundMessage :=
  if connection = recipient then [message].filter (start.mayReceive key connection) else []

/-- What holds along the fan-out of a message if each attempt keeps it: it speaks of what has been
put to each connection so far. -/
theorem deliverAll_reaches {R : (ConnectionId → List OutboundMessage) → FanOut → WovenCore → Prop}
    {come : ConnectionId → List OutboundMessage} {message : OutboundMessage}
    (hconsistent : start.Consistent)
    (hsessions : ∀ come fan core, R come fan core → core.sessions = start.sessions)
    (hdeliver : ∀ recipient, ⟨key, message.space⟩ ∈ (start.connectionAt recipient).subscriptions →
      ∀ come fan core, R come fan core → Ends (deliver key message fan recipient) core
        (R fun c => come c ++ put start key message recipient c) fun _ _ => False)
    (h : R come fan core) :
    Ends (deliverAll key fan message) core
      (R fun c => come c ++ [message].filter (start.reaches key c)) fun _ _ => False := by
  have hnodup : (start.recipients key message).Nodup := by
    rw [recipients]
    exact (ExtTreeSet.distinct_toList (t := _)).imp (by simp)
  have hreaches : ∀ c, [message].filter (start.reaches key c) =
      if c ∈ start.recipients key message then [message].filter (start.mayReceive key c)
        else [] := by
    intro c
    rw [List.filter_congr (q := fun _ => (start.recipients key message).contains c &&
      start.mayReceive key c message) (by simp [reaches])]
    by_cases hin : c ∈ start.recipients key message <;> simp [hin, List.filter_cons]
  unfold deliverAll
  rw [ends_bind, ends_get, recipients_of_sessions (hsessions _ _ _ h)]
  simp only [hreaches]
  apply Ends.foldlM_along (I := fun seen => R
    fun c => come c ++ if c ∈ seen then [message].filter (start.mayReceive key c) else [])
  · intro seen recipient rest hlist fan core h
    have hrecipient : recipient ∈ start.recipients key message := by
      rw [← hlist]
      exact List.mem_append_right _ List.mem_cons_self
    have hfresh : recipient ∉ seen := by
      intro hin
      rw [← hlist] at hnodup
      exact (List.nodup_append.mp hnodup).2.2 recipient hin recipient List.mem_cons_self rfl
    have hsubscribed : ⟨key, message.space⟩ ∈ (start.connectionAt recipient).subscriptions :=
      (hconsistent.subscription recipient key message.space).mp
        (routingRecipients_subset
          ((mem_recipients (mem_sessions_of_mem_recipients hrecipient)).mp hrecipient))
    apply (hdeliver recipient hsubscribed _ fan core h).mono
    · intro fan' core' h'
      convert h' using 2 with c
      by_cases hc : c = recipient
      · subst hc
        simp [hfresh, put]
      · simp [hc, put]
    · exact fun _ _ => id
  · simpa using h

/-- What each attempt of a fan-out keeps, the fan-out keeps. -/
theorem fanOut_reaches {R : (ConnectionId → List OutboundMessage) → FanOut → WovenCore → Prop}
    {messages : List OutboundMessage} (hconsistent : start.Consistent)
    (hsessions : ∀ come fan core, R come fan core → core.sessions = start.sessions)
    (hdeliver : ∀ message ∈ messages, ∀ recipient,
      ⟨key, message.space⟩ ∈ (start.connectionAt recipient).subscriptions →
        ∀ come fan core, R come fan core → Ends (deliver key message fan recipient) core
          (R fun c => come c ++ put start key message recipient c) fun _ _ => False)
    (h : R (fun _ => []) fan start) :
    Ends (messages.foldlM (deliverAll key) fan) start
      (R fun c => messages.filter (start.reaches key c)) fun _ _ => False := by
  apply Ends.foldlM_along (I := fun seen => R fun c => seen.filter (start.reaches key c))
  · intro seen message rest hlist fan core h
    have hin : message ∈ messages := by
      rw [← hlist]
      exact List.mem_append_right _ List.mem_cons_self
    simp only [List.filter_append]
    exact deliverAll_reaches hconsistent hsessions (hdeliver message hin) h
  · exact h

/-- What is expected of a fan-out is what is critical of the messages it puts. -/
theorem filter_put (recipient connection : ConnectionId) (message : OutboundMessage) :
    (put start key message recipient connection).filter
      (fun message => message.delivery.isCritical) =
      if connection = recipient then attempted start key message connection else [] := by
  unfold put
  split
  · rw [List.filter_filter, attempted]
  · rfl

theorem filter_reaches {messages : List AuthorizedMessage} (hscope : ∀ message ∈ messages,
    (start.sessionAt key).InScope message.space message.spaceEpoch message.entity)
    (c : ConnectionId) :
    (((messages.map fun message => message.toOutbound key).filter (start.reaches key c)).filter
      fun message => message.delivery.isCritical) =
        (messages.map fun message => message.toOutbound key).filter (start.owes key c) := by
  rw [List.filter_filter]
  apply List.filter_congr
  intro outbound hin
  obtain ⟨message, hmessage, rfl⟩ := List.mem_map.mp hin
  have howes := owes_eq (hscope message hmessage) c
  rw [reaches]
  by_cases hin : c ∈ start.recipients key (message.toOutbound key)
  · rw [if_pos hin] at howes
    cases hcritical : (message.toOutbound key).delivery.isCritical <;>
      cases hmay : start.mayReceive key c (message.toOutbound key) <;>
      cases hdue : start.owes key c (message.toOutbound key) <;>
      simp_all [attempted]
  · rw [if_neg hin] at howes
    cases hdue : start.owes key c (message.toOutbound key) <;> simp_all

/-- What each delivery of a plan keeps, its fan-out keeps: it speaks of what is expected for each
connection so far. -/
theorem fanOut_along {R : (ConnectionId → List OutboundMessage) → FanOut → WovenCore → Prop}
    {plan : PublishPlan} (hconsistent : start.Consistent)
    (hscope : ∀ message ∈ plan.messages,
      (start.sessionAt key).InScope message.space message.spaceEpoch message.entity)
    (hsessions : ∀ expected fan core, R expected fan core → core.sessions = start.sessions)
    (hdeliver : ∀ message ∈ plan.messages, ∀ recipient,
      ⟨key, message.space⟩ ∈ (start.connectionAt recipient).subscriptions →
        ∀ expected fan core, R expected fan core →
          Ends (deliver key (message.toOutbound key) fan recipient) core
            (R fun c => expected c ++
              if c = recipient then attempted start key (message.toOutbound key) c else [])
            fun _ _ => False)
    (h : R (fun _ => []) fan start) :
    Ends ((plan.outbound key).foldlM (deliverAll key) fan) start
      (R fun c => (plan.outbound key).filter (start.owes key c)) fun _ _ => False := by
  have hall : Ends ((plan.outbound key).foldlM (deliverAll key) fan) start
      (R fun c => ((plan.outbound key).filter (start.reaches key c)).filter fun message =>
        message.delivery.isCritical) fun _ _ => False := by
    apply fanOut_reaches (R := fun come => R fun c => (come c).filter fun message =>
      message.delivery.isCritical) hconsistent fun _ _ _ h => hsessions _ _ _ h
    · intro outbound hin recipient hsubscribed come fan core h
      obtain ⟨message, hmessage, rfl⟩ := List.mem_map.mp hin
      simp only [List.filter_append, filter_put]
      exact hdeliver message hmessage recipient hsubscribed _ fan core h
    · exact h
  simpa only [PublishPlan.outbound, filter_reaches hscope] using hall

/-- The whole fan-out: every connection not found slow has got what the plan owes it, and who is
found slow has no room for it. -/
theorem fanOut_ends (request : PublishRequest) (now : Instant) (call : Nat) (clock : ReleaseClock)
    {plan : PublishPlan} {count : Nat} (hsound : start.Sound)
    (hmessages : ∀ message ∈ plan.messages, validateCoalesceKey message = .ok () ∧
      (start.sessionAt request.session).InScope message.space message.spaceEpoch message.entity) :
    Ends ((plan.outbound request.session).foldlM (deliverAll request.session)
        { outcome := { authorizedMessages := count } }) start
      (fun fan fanned => FannedOut (.publishAt request now call clock) request.session start
          (fun c => (plan.outbound request.session).filter (start.owes request.session c))
          fan fanned ∧
        FoundSlow start
          (fun c => (plan.outbound request.session).filter (start.owes request.session c)) fan)
      fun _ _ => False := by
  apply fanOut_along (R := fun expected fan core =>
    FannedOut (.publishAt request now call clock) request.session start expected fan core ∧
      FoundSlow start expected fan) hsound.consistent
  · exact fun message hmessage => (hmessages message hmessage).2
  · exact fun _ _ _ h => h.1.sessions
  · intro message hmessage recipient hsubscribed expected fan core h
    obtain ⟨hcoalesce, hscope⟩ := hmessages message hmessage
    exact (deliver_ends hsound hscope hcoalesce hsubscribed h.1).and
      (deliver_foundSlow hsound h.2 h.1)
  · exact ⟨FannedOut.refl start, fun c hc => absurd hc (by simp)⟩

end FanOut

/-! ## Slow consumers -/

/-- The state after the connections found slow are lost. -/
def loseAll (core : WovenCore) (slow : List ConnectionId) (clock : ReleaseClock) : WovenCore :=
  slow.foldl (fun core connection => core.lose connection clock) core

theorem loseAll_changes {op : Op} (hop : ∀ connection, op.loses connection) (core : WovenCore)
    (slow : List ConnectionId) (clock : ReleaseClock) :
    Changes op core (core.loseAll slow clock) := by
  induction slow generalizing core with
  | nil => exact .refl
  | cons connection rest ih => exact (lose_changes (hop connection) core clock).trans (ih _)

theorem mem_connections_loseAll {slow : List ConnectionId} {clock : ReleaseClock}
    {c : ConnectionId} :
    c ∈ (core.loseAll slow clock).connections ↔ c ∈ core.connections ∧ c ∉ slow := by
  induction slow generalizing core with
  | nil => simp [loseAll]
  | cons connection rest ih =>
    change c ∈ ((core.lose connection clock).loseAll rest clock).connections ↔ _
    rw [ih, mem_connections_lose, List.mem_cons]
    tauto

theorem disconnectSlow_ends {slow : List ConnectionId} {clock : ReleaseClock}
    {outcome : PublishOutcome} (hnodup : slow.Nodup)
    (hlive : ∀ c ∈ slow, c ∈ core.connections ∧ c.get ≠ 0) :
    Ends (slow.foldlM (disconnectSlow clock) outcome) core
      (fun outcome' core' => core' = core.loseAll slow clock ∧ outcome' = { outcome with
        disconnectedSlowConsumers := outcome.disconnectedSlowConsumers ++ slow })
      fun _ _ => False := by
  induction slow generalizing core outcome with
  | nil => exact ⟨rfl, by rw [List.append_nil]⟩
  | cons connection rest ih =>
    obtain ⟨hfresh, hrest⟩ := List.nodup_cons.mp hnodup
    obtain ⟨hconnected, hid⟩ := hlive connection List.mem_cons_self
    rw [List.foldlM_cons, ends_bind, disconnectSlow, ends_bind, ends_get, if_pos hconnected,
      ends_bind]
    apply transportLost_ends
    · rintro - (hzero | hunknown)
      · exact hid hzero
      · exact hunknown hconnected
    · intro summary _
      rw [ends_pure]
      apply (@ih (core.lose connection clock) { outcome with
        disconnectedSlowConsumers := outcome.disconnectedSlowConsumers ++ [connection] }
        hrest ?_).mono
      · rintro outcome' core' ⟨hcore, hreported⟩
        refine ⟨hcore, ?_⟩
        rw [hreported, List.append_assoc, List.singleton_append]
      · exact fun _ _ => id
      · intro c hc
        obtain ⟨hin, hne⟩ := hlive c (List.mem_cons_of_mem _ hc)
        refine ⟨mem_connections_lose.mpr ⟨hin, ?_⟩, hne⟩
        rintro rfl
        exact hfresh hc

/-! ## The publication -/

/-- The state after the rate limiter of a connection has counted. -/
def limited (core : WovenCore) (connection : ConnectionId) (limiter : ConnectionRateLimiter) :
    WovenCore :=
  core.modifyConnection connection fun state => { state with rateLimiter := limiter }

theorem admitPublish_ends {connection : ConnectionId} {now : Instant}
    {Q : Unit → WovenCore → Prop} {E : CoreError → WovenCore → Prop} (hrefused : ∀ e, E e core)
    (hadmitted : ∀ limiter, connection ∈ core.connections →
      Q () (core.limited connection limiter)) : Ends (admitPublish connection now) core Q E := by
  simp [admitPublish, hrefused]
  intro state hstate limiter _
  exact hadmitted limiter (OrderedMap.mem_of_getElem? hstate)

/-- Every message of a plan has the key its class needs and stays in scope when the plan is
committed. -/
theorem deliverable_of_planPublish {request : PublishRequest} {call : Nat} {plan : PublishPlan}
    (hplan : core.planPublish request call = .ok plan) :
    ∀ message ∈ plan.messages, validateCoalesceKey message = .ok () ∧
      ((core.commitPlan request.session plan).sessionAt request.session).InScope message.space
        message.spaceEpoch message.entity := by
  have hplanned := planPublish_eq_ok hplan
  intro message hmessage
  obtain ⟨before, hvalid⟩ := hplanned.messages message hmessage
  refine ⟨hvalid.coalesce, ?_⟩
  rw [WovenCore.commitPlan, sessionAt_modifySession, if_pos ⟨rfl, hplanned.session⟩,
    SessionState.commit_eq]
  exact hvalid.scope

/-- A plan is carried out to its end, and `fan` is what its fan-out has kept. -/
theorem commitPublish_fans (now : Instant) {request : PublishRequest} {call : Nat}
    {clock : ReleaseClock} {plan : PublishPlan} {Q : PublishOutcome → WovenCore → Prop}
    (hsound : core.Sound) (hplan : core.planPublish request call = .ok plan)
    (hdone : ∀ fan fanned,
      Returns ((plan.outbound request.session).foldlM (deliverAll request.session)
        { outcome := { authorizedMessages := plan.messages.length } })
        (core.commitPlan request.session plan) fan fanned →
      FannedOut (.publishAt request now call clock) request.session
        (core.commitPlan request.session plan) (fun c => (plan.outbound request.session).filter
          ((core.commitPlan request.session plan).owes request.session c)) fan fanned →
      FoundSlow (core.commitPlan request.session plan)
        (fun c => (plan.outbound request.session).filter
          ((core.commitPlan request.session plan).owes request.session c)) fan →
        Q { fan.outcome with disconnectedSlowConsumers := fan.disconnected.toList }
          (fanned.loseAll fan.disconnected.toList clock)) :
    Ends (commitPublish request.session plan clock) core Q fun _ _ => False := by
  have hplanned := planPublish_eq_ok hplan
  have hcommitted : (core.commitPlan request.session plan).Sound :=
    (Change.commit request now call clock plan hplan).sound hsound
  rw [commitPublish, ends_bind]
  apply journal_ends
  · rw [PublishPlan.journaled, PublishPlan.outbound, List.filter_map, List.length_map]
    exact hplanned.journal
  · rw [ends_bind]
    simp only [withSession, ends_bind, ends_get, ends_lift, ends_set]
    refine ⟨fun _ _ => ?_, ?_⟩
    · change Ends _ (core.commitPlan request.session plan) _ _
      apply ((fanOut_ends request now call clock hcommitted (deliverable_of_planPublish hplan)).and
        (ends_of_forall (fun _ _ => id) fun _ _ _ => trivial)).mono
      · rintro fan fanned ⟨⟨hfanned, hfound⟩, hreturns⟩
        apply (disconnectSlow_ends ?_ ?_).mono
        · rintro outcome core' ⟨rfl, rfl⟩
          rw [hfanned.reported, List.nil_append]
          exact hdone fan fanned hreturns hfanned hfound
        · exact fun _ _ => id
        · exact (ExtTreeSet.distinct_toList (t := fan.disconnected)).imp (by simp)
        · intro c hc
          have hlive := (hfanned.live c).mpr (hfanned.slow c (ExtTreeSet.mem_toList.mp hc))
          have hpos := ((hfanned.changes.sound hcommitted).consistent.connectionIds c hlive).1
          exact ⟨hlive, by omega⟩
      · exact fun _ _ => id
    · intro e hnone
      simp at hnone
      exact absurd hplanned.session hnone.1

/-- A plan is carried out to its end. -/
theorem commitPublish_ends (now : Instant) {request : PublishRequest} {call : Nat}
    {clock : ReleaseClock} {plan : PublishPlan} {Q : PublishOutcome → WovenCore → Prop}
    (hsound : core.Sound) (hplan : core.planPublish request call = .ok plan)
    (hdone : ∀ fan fanned outcome,
      FannedOut (.publishAt request now call clock) request.session
        (core.commitPlan request.session plan) (fun c => (plan.outbound request.session).filter
          ((core.commitPlan request.session plan).owes request.session c)) fan fanned →
      FoundSlow (core.commitPlan request.session plan)
        (fun c => (plan.outbound request.session).filter
          ((core.commitPlan request.session plan).owes request.session c)) fan →
      outcome.disconnectedSlowConsumers = fan.disconnected.toList →
        Q outcome (fanned.loseAll fan.disconnected.toList clock)) :
    Ends (commitPublish request.session plan clock) core Q fun _ _ => False :=
  commitPublish_fans now hsound hplan fun fan fanned _ hfanned hfound =>
    hdone fan fanned _ hfanned hfound rfl

/-- The two ends of a publication: refused with nothing but the limiter touched, or carried out
to its last write. -/
theorem publishAt_ends {request : PublishRequest} {now : Instant} {call : Nat}
    {clock : ReleaseClock} {Q : PublishOutcome → WovenCore → Prop}
    {E : CoreError → WovenCore → Prop} (hsound : core.Sound) (hrefused : ∀ e, E e core)
    (hlimited : ∀ e limiter, E e (core.limited request.connection limiter))
    (hpublished : ∀ limiter plan fan fanned outcome,
      (core.limited request.connection limiter).planPublish request call = .ok plan →
      FannedOut (.publishAt request now call clock) request.session
        ((core.limited request.connection limiter).commitPlan request.session plan)
        (fun c => (plan.outbound request.session).filter
          (((core.limited request.connection limiter).commitPlan request.session plan).owes
            request.session c)) fan fanned →
      outcome.disconnectedSlowConsumers = fan.disconnected.toList →
        Q outcome (fanned.loseAll fan.disconnected.toList clock)) :
    Ends (publishAt request now call clock) core Q E := by
  simp only [publishAt, ends_bind, ends_lift, ends_get]
  refine ⟨fun _ _ => ?_, fun e _ => hrefused e⟩
  apply admitPublish_ends hrefused
  intro limiter hlive
  have hlimit : Change (.publishAt request now call clock) core
      (core.limited request.connection limiter) := .limit request now call clock limiter
  have hlimitedSound := hlimit.sound hsound
  refine ⟨fun plan hplan => ?_, fun e _ => hlimited e limiter⟩
  exact (commitPublish_ends now hlimitedSound hplan fun fan fanned outcome hfanned _ =>
    hpublished limiter plan fan fanned outcome hplan hfanned).mono (fun _ _ => id)
      fun _ _ => False.elim

end WovenCore

end Signalweave
