import Signalweave.Core.Journaling
import Signalweave.QueueParts

/-!
# Sessions do not touch each other

Sessions share connections, the channel table, the entity counter and the queues. An operation
addressed to one of them leaves everything of another one as it was; what remains is the overflow
of the queues they share, and the loss of the connections that a publication reports as slow.
-/

open Std

namespace Signalweave

open Stateful WovenCore OutboundQueue

/-- The session an operation is addressed to. -/
def Op.addressee : Op → Option SessionKey
  | .provisionSession key | .configureSessionAdmission key _ _ _
  | .applySessionCapacityAt key _ _ | .requestSessionAdmissionAt _ key _ _
  | .installSpace key _ | .advanceSpaceEpoch key _ _ | .joinSession _ key
  | .joinSessionWithAdmission _ key _ | .leaveSession _ key _
  | .updateEntityPosition _ key _ _ | .removeEntity _ key _ => some key
  | .subscribe _ spaceKey | .unsubscribe _ spaceKey | .spawnEntity _ spaceKey _ =>
    some spaceKey.session
  | .transitionEntity request => some request.session
  | .publishAt request _ _ _ => some request.session
  | .registerChannel _ | .transportConnected | .authenticate _ _ | .drainOutbound _
  | .popJournalRecord | .transportLost _ _ => none

theorem Op.not_loses {op : Op} {key : SessionKey} (h : op.addressee = some key)
    (hop : ¬ op.publishes) (connection : ConnectionId) : ¬ op.loses connection := by
  cases op with
  | publishAt request now call clock => exact absurd trivial hop
  | transportLost c clock => cases h
  | _ => exact id

/-! ## The queues -/

/-- What a change of an operation can make of the queue of a connection. -/
inductive QueueChange (op : Op) (queue : OutboundQueue) : OutboundQueue → Prop
  | same : QueueChange op queue queue
  | purge (p : OutboundMessage → Bool) (asked : ∀ message, p message = true →
      op.addressee = some message.sessionKey ∨ ∃ connection, op.loses connection) :
      QueueChange op queue (queue.purge p)
  | push (message : OutboundMessage) (result : QueuePush) (queue' : OutboundQueue)
      (asked : op.publishes) (pushed : queue.push message = .ok (result, queue')) :
      QueueChange op queue queue'
  | drain (asked : op.addressee = none) : QueueChange op queue queue.drain.2
  | start (config : OutboundQueueConfig)
      (asked : op.addressee = none ∨ ∃ connection, op.loses connection) :
      QueueChange op queue { config }

theorem QueueChange.of_eq {op : Op} {queue queue' : OutboundQueue} (h : queue' = queue) :
    QueueChange op queue queue' := by
  rw [h]
  exact .same

theorem QueueChange.keyed {op : Op} {queue queue' : OutboundQueue} (h : QueueChange op queue queue')
    (hw : queue.WellFormed) (hkeyed : queue.Keyed) : queue'.Keyed := by
  cases h with
  | same => exact hkeyed
  | purge p asked => exact hkeyed.purge
  | push message result queue' asked pushed => exact hkeyed.push pushed
  | drain asked => exact Keyed.drain hw
  | start config asked => exact keyed_start config

/-- An operation addressed to one session purges its messages only. -/
theorem QueueChange.part_eq {op : Op} {queue queue' : OutboundQueue} {key other : SessionKey}
    (h : QueueChange op queue queue') (haddressee : op.addressee = some key)
    (hop : ¬ op.publishes) (hne : other ≠ key) : queue'.part other = queue.part other := by
  have hloses := Op.not_loses haddressee hop
  cases h with
  | same => rfl
  | purge p asked =>
    apply part_purge
    rintro message hp rfl
    rcases asked message hp with hsame | ⟨connection, hlost⟩
    · rw [haddressee] at hsame
      exact hne (Option.some.inj hsame).symm
    · exact hloses connection hlost
  | push message result queue' asked pushed => exact absurd asked hop
  | drain asked =>
    rw [haddressee] at asked
    cases asked
  | start config asked =>
    rcases asked with hnone | ⟨connection, hlost⟩
    · rw [haddressee] at hnone
      cases hnone
    · exact absurd hlost (hloses connection)

variable {core core' : WovenCore} {key other : SessionKey} {connection c : ConnectionId} {op : Op}

theorem Op.removes.addressee (h : op.removes key) : op.addressee = some key := by
  cases op <;> first | exact h.elim | exact congrArg some h

theorem Op.detaches.addressee (h : op.detaches connection key) :
    op.addressee = some key ∨ ∃ c, op.loses c := by
  cases op with
  | leaveSession c k now =>
    obtain ⟨-, rfl⟩ := h
    exact .inl rfl
  | transportLost c clock => exact .inr ⟨_, h⟩
  | publishAt request now call clock => exact .inr ⟨connection, trivial⟩
  | _ => exact h.elim

theorem outbound_modifyConnection_same {g : ConnectionState → ConnectionState}
    (hg : ∀ state, (g state).outbound = state.outbound) :
    ((core.modifyConnection connection g).connectionAt c).outbound =
      (core.connectionAt c).outbound := by
  rw [connectionAt_modifyConnection]
  split
  · exact hg _
  · rfl

theorem outbound_dropRemoved {removal : Removal} :
    ((core.dropRemoved key removal).connectionAt c).outbound =
      (core.connectionAt c).outbound.purge fun message => message.removedBy key removal :=
  outbound_mapConnections fun _ _ => rfl

theorem outbound_purgeSpace {spaceKey : SpaceKey} :
    ((core.purgeSpace spaceKey).connectionAt c).outbound =
      (core.connectionAt c).outbound.purge fun message => message.inSpace spaceKey :=
  outbound_mapConnections fun _ _ => rfl

theorem leave_eq (core : WovenCore) (connection : ConnectionId) (key : SessionKey)
    (reason : ReleaseReason) (now : Instant) :
    ∃ removal, core.leave connection key reason now =
      ((core.releaseSessionAdmission connection key reason now).dropRemoved key
        removal).dropMembership connection key := ⟨_, rfl⟩

theorem outbound_leave {reason : ReleaseReason} {now : Instant} :
    ∃ p, ((core.leave connection key reason now).connectionAt c).outbound =
        (core.connectionAt c).outbound.purge p ∧
      ∀ message, p message = true → OutboundMessage.sessionKey message = key := by
  obtain ⟨removal, hleave⟩ := leave_eq core connection key reason now
  have hrelease : (core.releaseSessionAdmission connection key reason now).connectionAt c =
      core.connectionAt c := by
    rw [connectionAt, connections_releaseSessionAdmission, connectionAt]
  have hsession : ∀ message : OutboundMessage, message.removedBy key removal = true →
      message.sessionKey = key := fun message hp => (OutboundMessage.removedBy_iff.mp hp).1
  rw [hleave, dropMembership, connectionAt_modifyConnection, connectionAt_modifySession]
  split
  · refine ⟨fun message => message.removedBy key removal || message.inSession key, ?_, ?_⟩
    · show (OutboundQueue.purge _ fun message => message.inSession key) = _
      rw [outbound_dropRemoved, hrelease, purge_purge]
    · intro message hp
      rcases (Bool.or_eq_true _ _).mp hp with hp | hp
      · exact hsession message hp
      · exact OutboundMessage.inSession_iff.mp hp
  · exact ⟨_, by rw [outbound_dropRemoved, hrelease], hsession⟩

theorem Change.outbound (h : Change op core core') (c : ConnectionId) :
    QueueChange op (core.connectionAt c).outbound (core'.connectionAt c).outbound := by
  cases h with
  | join k connection asked =>
    rw [WovenCore.join, connectionAt_modifySession]
    exact .of_eq (outbound_modifyConnection_same fun _ => rfl)
  | removeEntities k initial asked =>
    rw [outbound_dropRemoved]
    refine .purge _ fun message hp => .inl ?_
    rw [asked.addressee, (OutboundMessage.removedBy_iff.mp hp).1]
  | purgeSpace k space proposed gone =>
    rw [outbound_purgeSpace]
    refine .purge _ fun message hp => .inl ?_
    exact congrArg some (congrArg SpaceKey.session (OutboundMessage.inSpace_iff.mp hp)).symm
  | advanceEpoch k space proposed descriptor found later empty =>
    rw [WovenCore.advanceEpoch, connectionAt_modifySession, outbound_purgeSpace]
    refine .purge _ fun message hp => .inl ?_
    exact congrArg some (congrArg SpaceKey.session (OutboundMessage.inSpace_iff.mp hp)).symm
  | connect outbound queue room =>
    obtain rfl := OutboundQueue.new_eq_ok queue
    show QueueChange _ _ ((core.connections.insert _ _)[c]?.getD _).outbound
    rw [OrderedMap.getElem?_insert]
    split
    · exact .start _ (.inl rfl)
    · exact .same
  | authenticate connection credentials state principal found fresh =>
    exact .of_eq (outbound_modifyConnection_same fun _ => rfl)
  | leave connection k reason now asked member =>
    obtain ⟨p, hpurged, hsession⟩ := @outbound_leave core k connection c reason now
    rw [hpurged]
    refine .purge p fun message hp => ?_
    rw [hsession message hp]
    exact asked.addressee
  | subscribe connection spaceKey member installed room =>
    rw [WovenCore.subscribe, connectionAt_modifySession]
    exact .of_eq (outbound_modifyConnection_same fun _ => rfl)
  | unsubscribe connection spaceKey subscribed =>
    have hsession : ∀ message : OutboundMessage, message.inSpace spaceKey = true →
        (Op.unsubscribe connection spaceKey).addressee = some message.sessionKey :=
      fun message hp =>
        congrArg some (congrArg SpaceKey.session (OutboundMessage.inSpace_iff.mp hp)).symm
    rw [WovenCore.unsubscribe, connectionAt_modifyConnection, connectionAt_modifySession]
    split
    · exact .purge _ fun message hp => .inl (hsession message hp)
    · exact .same
  | spawn connection spaceKey epoch principal member provisioned installed roomOwned room =>
    exact .of_eq (outbound_modifyConnection_same fun _ => rfl)
  | transition request checked moves =>
    rw [WovenCore.transition, outbound_mapConnections fun _ _ => rfl]
    refine .purge _ fun message hp => .inl ?_
    exact congrArg some (OutboundMessage.inSession_iff.mp ((Bool.and_eq_true _ _).mp hp).1).symm
  | limit request now call clock limiter =>
    exact .of_eq (outbound_modifyConnection_same fun _ => rfl)
  | deliver request now call clock message recipient principal result queue subscribed
      authenticated allowed scope pushed =>
    rw [connectionAt_modifyConnection]
    split
    · rename_i hc
      obtain ⟨rfl, -⟩ := hc
      exact .push _ result queue trivial pushed
    · exact .same
  | drain connection =>
    rw [connectionAt_modifyConnection]
    split
    · exact .drain rfl
    · exact .same
  | releasePending connection k now asked =>
    rw [releasePendingAdmission_eq]
    exact .same
  | disconnect connection asked left unbound =>
    show QueueChange _ _ ((core.connections.erase connection)[c]?.getD _).outbound
    rw [OrderedMap.getElem?_erase]
    split
    · exact .start _ (.inr ⟨connection, asked⟩)
    · exact .same
  | _ => exact .same

/-- In every reachable state the latest values are kept under their own keys. -/
theorem Reachable.keyed (h : Reachable core) (c : ConnectionId) :
    (core.connectionAt c).outbound.Keyed := by
  refine h.induction (P := fun core => ∀ c, (core.connectionAt c).outbound.Keyed) ?_ ?_ c
  · intro core hempty c
    rw [hempty.connectionAt]
    exact keyed_start _
  · intro op core core' hsound hchange hkeyed c
    exact (hchange.outbound c).keyed (hsound.wellFormed c) (hkeyed c)

/-! ## The tables -/

/-- Nothing of a session has changed but what waits in queues. -/
structure Untouched (key : SessionKey) (core core' : WovenCore) : Prop where
  session : core'.sessions[key]? = core.sessions[key]?
  admission : core'.admissions[key]? = core.admissions[key]?
  pending : ∀ c : ConnectionId,
    core'.pendingAdmissions[(c, key)]? = core.pendingAdmissions[(c, key)]?
  lease : ∀ c : ConnectionId,
    core'.admissionLeases[(c, key)]? = core.admissionLeases[(c, key)]?
  memberships : ∀ c, key ∈ (core'.connectionAt c).memberships ↔
    key ∈ (core.connectionAt c).memberships
  subscriptions : ∀ c space, ⟨key, space⟩ ∈ (core'.connectionAt c).subscriptions ↔
    ⟨key, space⟩ ∈ (core.connectionAt c).subscriptions

namespace Untouched

variable {core'' : WovenCore}

theorem refl : Untouched key core core :=
  ⟨rfl, rfl, fun _ => rfl, fun _ => rfl, fun _ => Iff.rfl, fun _ _ => Iff.rfl⟩

theorem trans (h : Untouched key core core') (h' : Untouched key core' core'') :
    Untouched key core core'' :=
  ⟨h'.session.trans h.session, h'.admission.trans h.admission,
    fun c => (h'.pending c).trans (h.pending c), fun c => (h'.lease c).trans (h.lease c),
    fun c => (h'.memberships c).trans (h.memberships c),
    fun c space => (h'.subscriptions c space).trans (h.subscriptions c space)⟩

/-- Tables that no session is in are of no concern. -/
theorem of_tables (hsessions : core'.sessions = core.sessions)
    (hconnections : core'.connections = core.connections)
    (hadmissions : core'.admissions[key]? = core.admissions[key]?)
    (hpending : ∀ c : ConnectionId,
    core'.pendingAdmissions[(c, key)]? = core.pendingAdmissions[(c, key)]?)
    (hleases : ∀ c : ConnectionId,
      core'.admissionLeases[(c, key)]? = core.admissionLeases[(c, key)]?) :
    Untouched key core core' := by
  refine ⟨by rw [hsessions], hadmissions, hpending, hleases, fun c => ?_, fun c space => ?_⟩
  · rw [connectionAt, hconnections, connectionAt]
  · rw [connectionAt, hconnections, connectionAt]

theorem modifySession (hne : key ≠ other) (f : SessionState → SessionState) :
    Untouched key core (core.modifySession other f) := by
  refine ⟨?_, rfl, fun _ => rfl, fun _ => rfl, fun _ => Iff.rfl, fun _ _ => Iff.rfl⟩
  show (core.sessions.modify other f)[key]? = _
  rw [OrderedMap.getElem?_modify, if_neg hne]

theorem modifyConnection (connection : ConnectionId) (g : ConnectionState → ConnectionState)
    (hmemberships : ∀ state, key ∈ (g state).memberships ↔ key ∈ ConnectionState.memberships state)
    (hsubscriptions : ∀ state space, ⟨key, space⟩ ∈ (g state).subscriptions ↔
      ⟨key, space⟩ ∈ ConnectionState.subscriptions state) :
    Untouched key core (core.modifyConnection connection g) := by
  refine ⟨rfl, rfl, fun _ => rfl, fun _ => rfl, fun c => ?_, fun c space => ?_⟩
  · rw [connectionAt_modifyConnection]
    split
    · exact hmemberships _
    · exact Iff.rfl
  · rw [connectionAt_modifyConnection]
    split
    · exact hsubscriptions _ _
    · exact Iff.rfl

theorem mapConnections (g : ConnectionId → ConnectionState → ConnectionState)
    (hmemberships : ∀ c state, key ∈ (g c state).memberships ↔
      key ∈ ConnectionState.memberships state)
    (hsubscriptions : ∀ c state space, ⟨key, space⟩ ∈ (g c state).subscriptions ↔
      ⟨key, space⟩ ∈ ConnectionState.subscriptions state) :
    Untouched key core (core.mapConnections g) := by
  refine ⟨rfl, rfl, fun _ => rfl, fun _ => rfl, fun c => ?_, fun c space => ?_⟩
  · rw [connectionAt_mapConnections]
    split
    · exact hmemberships _ _
    · exact Iff.rfl
  · rw [connectionAt_mapConnections]
    split
    · exact hsubscriptions _ _ _
    · exact Iff.rfl

theorem dropRemoved (hne : key ≠ other) (removal : Removal) :
    Untouched key core (core.dropRemoved other removal) := by
  refine (modifySession hne _).trans (mapConnections _ (fun _ _ => Iff.rfl) fun c state space => ?_)
  show _ ∈ ExtTreeSet.filter _ _ ↔ _
  rw [OrderedSet.mem_filter]
  simp [hne]

theorem leave (hne : key ≠ other) (reason : ReleaseReason) (now : Instant) :
    Untouched key core (core.leave connection other reason now) := by
  obtain ⟨removal, hleave⟩ := leave_eq core connection other reason now
  rw [hleave]
  have hrelease : Untouched key core
      (core.releaseSessionAdmission connection other reason now) := by
    unfold releaseSessionAdmission
    cases core.admissionLeases[(connection, other)]? with
    | none => exact refl
    | some lease =>
      refine of_tables ?_ ?_ ?_ ?_ ?_
      · rfl
      · rfl
      · show (core.admissions.modify other _)[key]? = _
        rw [OrderedMap.getElem?_modify, if_neg hne]
      · exact fun _ => rfl
      · intro c
        show (core.admissionLeases.erase (connection, other))[(c, key)]? = _
        rw [OrderedMap.getElem?_erase, if_neg]
        exact fun heq => hne (congrArg Prod.snd heq)
  refine hrelease.trans ((dropRemoved hne removal).trans ((modifySession hne _).trans
    (modifyConnection _ _ (fun state => ?_) fun state space => ?_)))
  · show key ∈ ExtTreeSet.erase _ _ ↔ _
    rw [OrderedSet.mem_erase]
    exact and_iff_right hne
  · show _ ∈ ExtTreeSet.filter _ _ ↔ _
    rw [OrderedSet.mem_filter]
    exact and_iff_left (decide_eq_true hne)

theorem subscription_ne {spaceKey : SpaceKey} (hne : key ≠ spaceKey.session) (space : SpaceId) :
    (⟨key, space⟩ : SpaceKey) ≠ spaceKey :=
  fun heq => hne (congrArg SpaceKey.session heq)

theorem slot_ne (hne : key ≠ other) (c : ConnectionId) : (c, key) ≠ (connection, other) :=
  fun heq => hne (congrArg Prod.snd heq)

end Untouched

theorem Op.joins.addressee (h : op.joins connection key) : op.addressee = some key := by
  cases op <;> first | exact h.elim | exact congrArg some h.2

/-- What an operation addressed to one session changes is not of another one. -/
theorem Change.untouched (h : Change op core core') (haddressee : op.addressee = some other)
    (hop : ¬ op.publishes) (hne : key ≠ other) : Untouched key core core' := by
  have hloses := Op.not_loses haddressee hop
  cases h with
  | provisionSession k fresh room =>
    obtain rfl := Option.some.inj haddressee
    refine ⟨?_, rfl, fun _ => rfl, fun _ => rfl, fun _ => Iff.rfl, fun _ _ => Iff.rfl⟩
    show (core.sessions.insert k {})[key]? = _
    rw [OrderedMap.getElem?_insert, if_neg hne]
  | configureAdmission k metadata policy capacity provisioned own fresh =>
    obtain rfl := Option.some.inj haddressee
    refine .of_tables rfl rfl ?_ (fun _ => rfl) fun _ => rfl
    show (core.admissions.insert k _)[key]? = _
    rw [OrderedMap.getElem?_insert, if_neg hne]
  | applyCapacity k update now controller found =>
    obtain rfl := Option.some.inj haddressee
    refine .of_tables rfl rfl ?_ (fun _ => rfl) fun _ => rfl
    show (core.admissions.insert k _)[key]? = _
    rw [OrderedMap.getElem?_insert, if_neg hne]
  | requestAdmission connection k idempotencyKey now principal controller authenticated found =>
    obtain rfl := Option.some.inj haddressee
    generalize controller.requestJoinAt _ now = answer
    refine .of_tables rfl rfl ?_ (fun c => ?_) fun _ => rfl
    · show (core.admissions.insert k _)[key]? = _
      rw [OrderedMap.getElem?_insert, if_neg hne]
    · unfold WovenCore.requestAdmission
      cases answer.1 with
      | admitted lease =>
        show (core.pendingAdmissions.insert (connection, k) lease)[(c, key)]? = _
        rw [OrderedMap.getElem?_insert, if_neg (Untouched.slot_ne hne c)]
      | _ => rfl
  | bindLease connection k lease principal controller authenticated own unbound pending found
      active unshared =>
    obtain rfl := Option.some.inj haddressee
    refine .of_tables rfl rfl rfl (fun c => ?_) fun c => ?_
    · show (core.pendingAdmissions.erase (connection, k))[(c, key)]? = _
      rw [OrderedMap.getElem?_erase, if_neg (Untouched.slot_ne hne c)]
    · show (core.admissionLeases.insert (connection, k) lease)[(c, key)]? = _
      rw [OrderedMap.getElem?_insert, if_neg (Untouched.slot_ne hne c)]
  | join connection k asked =>
    obtain rfl := Option.some.inj (asked.addressee.symm.trans haddressee)
    unfold WovenCore.join
    refine Untouched.trans ?_ (.modifySession hne _)
    refine .modifyConnection connection _ (fun state => ?_) fun _ _ => Iff.rfl
    show key ∈ ExtTreeSet.insert _ _ ↔ _
    rw [OrderedSet.mem_insert]
    exact or_iff_right hne
  | installSpace k descriptor session found valid fresh room history parent =>
    obtain rfl := Option.some.inj haddressee
    exact .modifySession hne _
  | removeEntities k initial asked =>
    obtain rfl := Option.some.inj (asked.addressee.symm.trans haddressee)
    exact .dropRemoved hne _
  | purgeSpace k space proposed gone =>
    exact .mapConnections _ (fun _ _ => Iff.rfl) fun _ _ _ => Iff.rfl
  | advanceEpoch k space proposed descriptor found later empty =>
    obtain rfl := Option.some.inj haddressee
    unfold WovenCore.advanceEpoch
    refine Untouched.trans ?_ (.modifySession hne _)
    exact .mapConnections _ (fun _ _ => Iff.rfl) fun _ _ _ => Iff.rfl
  | leave connection k reason now asked member =>
    rcases asked.addressee with hsame | ⟨c, hlost⟩
    · obtain rfl := Option.some.inj (hsame.symm.trans haddressee)
      exact .leave hne reason now
    · exact absurd hlost (hloses c)
  | subscribe connection spaceKey member installed room =>
    obtain rfl := Option.some.inj haddressee
    unfold WovenCore.subscribe
    refine Untouched.trans ?_ (.modifySession hne _)
    refine .modifyConnection connection _ (fun _ => Iff.rfl) fun state space => ?_
    show _ ∈ ExtTreeSet.insert _ _ ↔ _
    rw [OrderedSet.mem_insert]
    exact or_iff_right (Untouched.subscription_ne hne space)
  | unsubscribe connection spaceKey subscribed =>
    obtain rfl := Option.some.inj haddressee
    refine (Untouched.modifySession hne _).trans
      (.modifyConnection connection _ (fun _ => Iff.rfl) fun state space => ?_)
    show _ ∈ ExtTreeSet.erase _ _ ↔ _
    rw [OrderedSet.mem_erase]
    exact and_iff_right (Untouched.subscription_ne hne space)
  | spawn connection spaceKey epoch principal member provisioned installed roomOwned room =>
    obtain rfl := Option.some.inj haddressee
    have hid : Untouched key core { core with nextEntityId := core.nextEntityId + 1 } :=
      .of_tables rfl rfl rfl (fun _ => rfl) fun _ => rfl
    exact hid.trans ((Untouched.modifySession hne _).trans
      (.modifyConnection connection _ (fun _ => Iff.rfl) fun _ _ => Iff.rfl))
  | move connection k entity position cell session record descriptor found entityFound spaceFound
      valid indexed =>
    obtain rfl := Option.some.inj haddressee
    exact .modifySession hne _
  | transition request checked moves =>
    obtain rfl := Option.some.inj haddressee
    exact (Untouched.modifySession hne _).trans
      (.mapConnections _ (fun _ _ => Iff.rfl) fun _ _ _ => Iff.rfl)
  | limit | commit | deliver => exact absurd trivial hop
  | releasePending connection k now asked => exact absurd asked (hloses connection)
  | disconnect connection asked left unbound => exact absurd asked (hloses connection)
  | _ => cases haddressee

/-! ## Isolation -/

/-- The queue has taken messages of one session; of another one it has given up what overflows
call for. -/
def OverflowsOnly (addressed spared : SessionKey) : OutboundQueue → OutboundQueue → Prop :=
  Relation.ReflTransGen fun queue queue' => ∃ message result,
    message.sessionKey = addressed ∧ queue.push message = .ok (result, queue') ∧
      queue.Spares spared queue'

/-- The transport losses that a publication makes of the connections it reports as slow. -/
def Op.losses (core : WovenCore) : Op → List Op
  | .publishAt request now call clock =>
    match Signalweave.publishAt request now call clock core with
    | .ok outcome _ =>
      outcome.disconnectedSlowConsumers.map fun connection => .transportLost connection clock
    | .error _ _ => []
  | _ => []

theorem step_transportLost {clock : ReleaseClock} (hlive : connection ∈ core.connections)
    (hid : connection.get ≠ 0) :
    step core (.transportLost connection clock) = core.lose connection clock := by
  show after (transportLost connection clock >>= fun _ => pure ()) core = _
  rw [after_discard]
  have hends : Ends (transportLost connection clock) core
      (fun _ core' => core' = core.lose connection clock) fun _ _ => False := by
    refine transportLost_ends (fun _ hunknown => ?_) fun _ _ => rfl
    rcases hunknown with hzero | hdead
    · exact hid hzero
    · exact hdead hlive
  rcases returns_or_fails (transportLost connection clock) core with ⟨_, hr⟩ | ⟨_, hf⟩
  · exact hends.returns hr
  · exact (hends.fails hf).elim

/-- The connections found slow go the way of lost transports. -/
theorem run_transportLost {clock : ReleaseClock} {slow : List ConnectionId} (hnodup : slow.Nodup)
    (hlive : ∀ c ∈ slow, c ∈ core.connections ∧ c.get ≠ 0) :
    Transition.run step core (slow.map fun connection => .transportLost connection clock) =
      core.loseAll slow clock := by
  induction slow generalizing core with
  | nil => rfl
  | cons connection rest ih =>
    obtain ⟨hfresh, hrest⟩ := List.nodup_cons.mp hnodup
    obtain ⟨hconnected, hid⟩ := hlive connection List.mem_cons_self
    rw [List.map_cons, Transition.run_cons, step_transportLost hconnected hid]
    apply ih hrest
    intro c hc
    obtain ⟨hin, hne⟩ := hlive c (List.mem_cons_of_mem _ hc)
    refine ⟨mem_connections_lose.mpr ⟨hin, ?_⟩, hne⟩
    rintro rfl
    exact hfresh hc

theorem Took.overflowsOnly {queue queue' : OutboundQueue} (h : Took other queue queue')
    (hkeyed : queue.Keyed) (hne : key ≠ other) :
    queue'.Keyed ∧ OverflowsOnly other key queue queue' := by
  induction h with
  | refl => exact ⟨hkeyed, .refl⟩
  | tail _ hlast ih =>
    obtain ⟨message, result, hpush⟩ := hlast
    have hspares := @push_spares _ _ (message.toOutbound other) key _ ih.1 (Ne.symm hne) hpush
    exact ⟨ih.1.push hpush, ih.2.tail ⟨_, result, rfl, hpush, hspares⟩⟩

/-- The parts of a publication before it loses anybody. -/
theorem Untouched.fannedOut {request : PublishRequest} {start fanned : WovenCore} {fan : FanOut}
    {expected : ConnectionId → List OutboundMessage}
    (h : FannedOut op request.session start expected fan fanned) : Untouched key start fanned := by
  refine ⟨?_, ?_, fun _ => ?_, fun _ => ?_, fun c => ?_, fun c space => ?_⟩
  · rw [h.tables]
  · rw [h.tables]
  · rw [h.tables]
  · rw [h.tables]
  · rw [h.connections]
  · rw [h.connections]

theorem Untouched.limited {limiter : ConnectionRateLimiter} :
    Untouched key core (core.limited connection limiter) :=
  .modifyConnection connection _ (fun _ => Iff.rfl) fun _ _ => Iff.rfl

theorem Untouched.commitPlan {plan : PublishPlan} (hne : key ≠ other) :
    Untouched key core (core.commitPlan other plan) := by
  have hjournal : Untouched key core { core with
      journalOutbox := { core.journalOutbox with
        records := core.journalOutbox.records ++
          (plan.journaled other).map JournalRecord.mk } } :=
    .of_tables rfl rfl rfl (fun _ => rfl) fun _ => rfl
  exact hjournal.trans (.modifySession hne _)

/-- What an operation leaves of another session before the losses it reports. -/
structure Isolates (core : WovenCore) (op : Op) (addressed key : SessionKey)
    (spared : WovenCore) : Prop where
  untouched : Untouched key core spared
  queues : ∀ c,
    (spared.connectionAt c).outbound.part key = (core.connectionAt c).outbound.part key ∨
    op.publishes ∧ OverflowsOnly addressed key (core.connectionAt c).outbound
      (spared.connectionAt c).outbound
  rest : step core op = Transition.run step spared (op.losses core)

theorem publishAt_isolates (h : Reachable core) {request : PublishRequest} {now : Instant}
    {call : Nat} {clock : ReleaseClock} (hne : key ≠ request.session) :
    ∃ spared, Isolates core (.publishAt request now call clock) request.session key spared := by
  have hsound := h.sound
  have hqueue : ∀ limiter c, ((core.limited request.connection limiter).connectionAt c).outbound =
      (core.connectionAt c).outbound := fun limiter c =>
    outbound_modifyConnection_same fun _ => rfl
  rcases returns_or_fails (publishAt request now call clock) core with ⟨_, hreturned⟩ | ⟨e, hfails⟩
  swap
  · have hlosses : Op.losses core (.publishAt request now call clock) = [] := by
      rw [Op.losses, show publishAt request now call clock core = .error e _ from hfails]
    have hrefused := publishAt_refused hsound hfails
    rw [← step_publishAt] at hrefused
    refine ⟨step core (.publishAt request now call clock), ?_, fun c => .inl ?_, ?_⟩
    · rcases hrefused with hsame | ⟨limiter, hlimited⟩
      · rw [hsame]
        exact .refl
      · rw [hlimited]
        exact .limited
    · rcases hrefused with hsame | ⟨limiter, hlimited⟩
      · rw [hsame]
      · rw [hlimited, hqueue]
    · rw [hlosses, Transition.run_nil]
  · obtain ⟨plan, -, hpublishes⟩ := publishes_of_returns hsound hreturned
    obtain ⟨limiter, fan, fanned, outcome, hplan, hfanned, hreturns, hslow, hafter⟩ :=
      hpublishes.writes
    have hlimit : Change (.publishAt request now call clock) core
        (core.limited request.connection limiter) := .limit request now call clock limiter
    have hcommit : Change (.publishAt request now call clock)
        (core.limited request.connection limiter)
        ((core.limited request.connection limiter).commitPlan request.session plan) :=
      .commit request now call clock plan hplan
    have hfannedSound := hfanned.changes.sound (hcommit.sound (hlimit.sound hsound))
    refine ⟨fanned, (Untouched.limited.trans (.commitPlan hne)).trans (.fannedOut hfanned),
      fun c => .inr ⟨trivial, ?_⟩, ?_⟩
    · have hstart : (((core.limited request.connection limiter).commitPlan request.session
          plan).connectionAt c).outbound = (core.connectionAt c).outbound := hqueue limiter c
      rw [← hstart]
      apply (Took.overflowsOnly (hfanned.queues c) ?_ hne).2
      rw [hstart]
      exact h.keyed c
    · have hlosses : Op.losses core (.publishAt request now call clock) =
          fan.disconnected.toList.map fun connection => .transportLost connection clock := by
        rw [Op.losses, hreturns, ← hslow]
      rw [step_publishAt, hafter, hlosses, run_transportLost]
      · exact (ExtTreeSet.distinct_toList (t := fan.disconnected)).imp (by simp)
      · intro c hc
        have hlive := (hfanned.live c).mpr (hfanned.slow c (ExtTreeSet.mem_toList.mp hc))
        have hid := (hfannedSound.consistent.connectionIds c hlive).1
        exact ⟨hlive, Nat.ne_of_gt hid⟩

theorem Changes.isolated (h : Changes op core core')
    (haddressee : op.addressee = some other) (hop : ¬ op.publishes) (hne : key ≠ other) :
    Untouched key core core' ∧
      ∀ c, (core'.connectionAt c).outbound.part key = (core.connectionAt c).outbound.part key := by
  refine h.invariant (P := fun after => Untouched key core after ∧
    ∀ c, (after.connectionAt c).outbound.part key = (core.connectionAt c).outbound.part key) ?_
      ⟨.refl, fun _ => rfl⟩
  rintro before after hchange ⟨huntouched, hqueues⟩
  refine ⟨huntouched.trans (hchange.untouched haddressee hop hne), fun c => ?_⟩
  exact ((hchange.outbound c).part_eq haddressee hop hne).trans (hqueues c)

/-- An operation addressed to one session leaves the tables and the queued messages of every other
session as they were, but for what overflowing queues give up; what else it does is to lose the
connections that it reports as slow. -/
theorem session_isolation (h : Reachable core) (op : Op) (addressed key : SessionKey)
    (haddressee : op.addressee = some addressed) (hne : key ≠ addressed) :
    ∃ spared, Isolates core op addressed key spared := by
  by_cases hop : op.publishes
  · cases op with
    | publishAt request now call clock =>
      obtain rfl := Option.some.inj haddressee
      exact publishAt_isolates h hne
    | _ => exact hop.elim
  · have hlosses : op.losses core = [] := by
      cases op <;> first | rfl | exact absurd trivial hop
    obtain ⟨huntouched, hqueues⟩ :=
      (changes_step h.sound op).isolated haddressee hop hne
    exact ⟨step core op, huntouched, fun c => .inl (hqueues c), by rw [hlosses, Transition.run_nil]⟩

namespace Sample

/-- A second session, with the same ids in it. -/
def otherSession : SessionKey := ⟨⟨1⟩, ⟨2⟩⟩

/-- A session in use, and another one next to it. -/
def twoSessions : List Op :=
  published ++ [.provisionSession otherSession, .installSpace otherSession (Sample.space 1)]

end Sample

theorem session_isolation_twoSessions :
    let core := Transition.run step Sample.core Sample.twoSessions
    let op := Op.advanceSpaceEpoch Sample.session ⟨1⟩ ⟨2⟩
    ((step core op).sessionAt Sample.session).entities.size = 0 ∧
      (core.sessionAt Sample.session).entities.size = 1 ∧
      ∃ spared, Isolates core op Sample.session Sample.otherSession spared :=
  ⟨by decide +kernel, by decide +kernel,
    session_isolation (Sample.reachable _) _ _ _ rfl (by decide)⟩

end Signalweave
