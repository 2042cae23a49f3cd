import Signalweave.Core.Freshness

/-!
# What each change does to the queues

One lemma for each kind of change, and the case analysis over all of them: a change purges, or it
delivers one message to one queue, or it drains one queue.
-/

open Std

namespace Signalweave

namespace WovenCore

variable {core core' : WovenCore} {c connection : ConnectionId} {key : SessionKey}
  {spaceKey : SpaceKey} {message : OutboundMessage}

/-! ## Updates of one table -/

theorem Purges.modifySession {f : SessionState → SessionState}
    (hscope : key ∈ core.sessions → ∀ {space epoch entity},
      (core.sessionAt key).InScope space epoch entity →
        (f (core.sessionAt key)).InScope space epoch entity) :
    Purges core (core.modifySession key f) c fun _ => false := by
  have hsame : (core.modifySession key f).connectionAt c = core.connectionAt c :=
    connectionAt_modifySession
  apply Purges.of_same (by rw [hsame])
  intro message h
  apply h.imp (by rw [hsame]; exact id) (by rw [hsame])
  rw [sessionAt_modifySession]
  split
  · rename_i hkey
    rw [hkey.1]
    exact hscope hkey.2
  · exact id

theorem Purges.modifyConnection (connection : ConnectionId) (g : ConnectionState → ConnectionState)
    (hqueue : ∀ state, (g state).outbound = state.outbound)
    (hsubscriptions : ∀ state k, k ∈ ConnectionState.subscriptions state →
      k ∈ (g state).subscriptions)
    (hauthenticated : c = connection → (g (core.connectionAt connection)).authenticated =
      (core.connectionAt connection).authenticated) :
    Purges core (core.modifyConnection connection g) c fun _ => false := by
  by_cases hc : c = connection ∧ connection ∈ core.connections
  · have hat : (core.modifyConnection connection g).connectionAt c = g (core.connectionAt c) := by
      rw [connectionAt_modifyConnection, if_pos hc]
    apply Purges.of_same (by rw [hat, hqueue])
    intro message h
    exact h.imp (by rw [hat]; exact hsubscriptions _ _)
      (by rw [hat, hc.1]; exact hauthenticated hc.1) id
  · have hat : (core.modifyConnection connection g).connectionAt c = core.connectionAt c := by
      rw [connectionAt_modifyConnection, if_neg hc]
    apply Purges.of_same (by rw [hat])
    intro message h
    exact h.imp (by rw [hat]; exact id) (by rw [hat]) id

/-- A connection does not see what happens to another one. -/
theorem Purges.other {g : ConnectionState → ConnectionState} (hne : c ≠ connection) :
    Purges core (core.modifyConnection connection g) c fun _ => false := by
  have hat : (core.modifyConnection connection g).connectionAt c = core.connectionAt c := by
    rw [connectionAt_modifyConnection, if_neg fun hand => hne hand.1]
  apply Purges.of_same (by rw [hat])
  intro message h
  exact h.imp (by rw [hat]; exact id) (by rw [hat]) id

theorem subscriptions_mapConnections {g : ConnectionId → ConnectionState → ConnectionState}
    (hg : ∀ c state, (g c state).subscriptions = state.subscriptions) :
    ((core.mapConnections g).connectionAt c).subscriptions =
      (core.connectionAt c).subscriptions := by
  rw [connectionAt_mapConnections]
  split
  · exact hg _ _
  · rfl

theorem authenticated_mapConnections {g : ConnectionId → ConnectionState → ConnectionState}
    (hg : ∀ c state, (g c state).authenticated = state.authenticated) :
    ((core.mapConnections g).connectionAt c).authenticated =
      (core.connectionAt c).authenticated := by
  rw [connectionAt_mapConnections]
  split
  · exact hg _ _
  · rfl

/-- A session with a scope exists. -/
theorem mem_sessions_of_inScope {space : SpaceId} {epoch : SpaceEpoch} {entity : Option EntityId}
    (h : (core.sessionAt key).InScope space epoch entity) : key ∈ core.sessions := by
  by_contra hmem
  obtain ⟨⟨descriptor, hdescriptor, -⟩, -⟩ := h
  rw [sessionAt_of_notMem hmem] at hdescriptor
  simp at hdescriptor

/-! ## Removal and departure -/

theorem Purges.dropRemoved {removal : Removal} :
    Purges core (core.dropRemoved key removal) c fun message => message.removedBy key removal := by
  apply Purges.of_purge
  · unfold WovenCore.dropRemoved
    rw [outbound_mapConnections (p := fun message => message.removedBy key removal)
      (fun _ _ => rfl)]
    rfl
  · intro message h hp
    have hkept : message.sessionKey = key →
        SessionState.keptBy removal message.space message.entity = true := by
      intro hkey
      rw [← Bool.not_eq_false]
      exact fun hfalse => Bool.eq_false_iff.mp hp
        (OutboundMessage.removedBy_iff.mpr ⟨hkey, hfalse⟩)
    apply h.imp
    · refine fun hin => mem_subscriptions_dropRemoved.mpr ⟨hin, fun hkey => ?_⟩
      exact (SessionState.keptBy_iff.mp (hkept hkey)).1
    · exact authenticated_mapConnections (fun _ _ => rfl)
    · rw [sessionAt_dropRemoved]
      split
      · rename_i hkey
        exact fun hscope => hscope.dropRemoved (hkept hkey.1)
      · exact id
  · intro message h hp hafter
    obtain ⟨rfl, hremoved⟩ := OutboundMessage.removedBy_iff.mp hp
    have hscope := hafter.scope
    rw [sessionAt_dropRemoved, if_pos ⟨rfl, mem_sessions_of_inScope h.scope⟩] at hscope
    exact SessionState.not_inScope_dropRemoved hremoved hscope

/-- A connection gives up subscriptions, and with each of them the messages of its space. -/
theorem Purges.giveUp (g : ConnectionState → ConnectionState) (p : OutboundMessage → Bool)
    (hqueue : ∀ state, (g state).outbound = state.outbound.purge p)
    (hauthenticated : ∀ state, (g state).authenticated = state.authenticated)
    (hsubscriptions : ∀ state message, OutboundMessage.spaceKey message ∈ (g state).subscriptions ↔
      message.spaceKey ∈ ConnectionState.subscriptions state ∧ p message = false) :
    ∃ p, Purges core (core.modifyConnection connection g) c p := by
  by_cases hc : c = connection ∧ connection ∈ core.connections
  · have hat : (core.modifyConnection connection g).connectionAt c = g (core.connectionAt c) := by
      rw [connectionAt_modifyConnection, if_pos hc]
    refine ⟨p, Purges.of_purge (by rw [hat, hqueue]) ?_ ?_⟩
    · intro message h hp
      exact h.imp (fun hin => by rw [hat]; exact (hsubscriptions _ _).mpr ⟨hin, hp⟩)
        (by rw [hat, hauthenticated]) id
    · intro message _ hp hafter
      have hin := hafter.subscribed
      rw [hat, hsubscriptions, hp] at hin
      simp at hin
  · have hat : (core.modifyConnection connection g).connectionAt c = core.connectionAt c := by
      rw [connectionAt_modifyConnection, if_neg hc]
    refine ⟨_, Purges.of_same (by rw [hat]) ?_⟩
    intro message h
    exact h.imp (by rw [hat]; exact id) (by rw [hat]) id

/-- Subscriptions and scopes that were there after were there before. -/
theorem Fresh.of_giveUp (g : ConnectionState → ConnectionState)
    (hauthenticated : ∀ state, (g state).authenticated = state.authenticated)
    (hsubscriptions : ∀ state k, k ∈ (g state).subscriptions →
      k ∈ ConnectionState.subscriptions state)
    (h : (core.modifyConnection connection g).Fresh c message) : core.Fresh c message := by
  apply h.imp
  · rw [connectionAt_modifyConnection]
    split
    · exact hsubscriptions _ _
    · exact id
  · rw [connectionAt_modifyConnection]
    split
    · rw [hauthenticated]
    · rfl
  · exact id

theorem purges_dropMembership (core : WovenCore) (c connection : ConnectionId) (key : SessionKey) :
    ∃ p, Purges core (core.dropMembership connection key) c p := by
  have hsession : Purges core (core.modifySession key fun session => session.leave connection) c
      fun _ => false := Purges.modifySession fun _ _ _ _ => id
  have hconnection : ∃ p, Purges (core.modifySession key fun session => session.leave connection)
      (core.dropMembership connection key) c p := by
    apply Purges.giveUp (fun state => state.leave key) (fun message => message.inSession key)
      (fun _ => rfl) fun _ => rfl
    intro state message
    simp only [ConnectionState.leave, ConnectionState.purgeOutbound, OrderedSet.mem_filter,
      decide_eq_true_eq]
    refine and_congr_right fun _ => ?_
    rw [← Bool.not_eq_true, OutboundMessage.inSession_iff]
    rfl
  obtain ⟨p, hp⟩ := hconnection
  exact ⟨p, hsession.before hp⟩

theorem Fresh.of_dropMembership (h : (core.dropMembership connection key).Fresh c message) :
    core.Fresh c message := by
  have hbefore := Fresh.of_giveUp (fun state => state.leave key) (fun _ => rfl)
    (fun state k hk => (OrderedSet.mem_filter.mp hk).1) h
  refine hbefore.imp id rfl ?_
  rw [sessionAt_modifySession]
  split
  · exact id
  · exact id

theorem purges_leave {reason : ReleaseReason} {now : Instant} :
    ∃ p, Purges core (core.leave connection key reason now) c p := by
  have hrelease : Purges core (core.releaseSessionAdmission connection key reason now) c
      fun _ => false := by
    rw [releaseSessionAdmission_eq]
    exact Purges.of_tables rfl rfl
  unfold WovenCore.leave detachConnectionFromSession
  obtain ⟨p, hleave⟩ := purges_dropMembership _ c connection key
  exact ⟨_, hrelease.before (Purges.dropRemoved.trans hleave fun _ _ hafter =>
    hafter.of_dropMembership)⟩

theorem purges_unsubscribe : ∃ p, Purges core (core.unsubscribe connection spaceKey) c p := by
  have hsession : Purges core (core.modifySession spaceKey.session fun session =>
      { session with subscribers := session.subscribers.modify spaceKey.space fun subscribers =>
        subscribers.erase connection }) c fun _ => false := Purges.modifySession fun _ _ _ _ => id
  have hconnection : ∃ p, Purges (core.modifySession spaceKey.session fun session =>
      { session with subscribers := session.subscribers.modify spaceKey.space fun subscribers =>
        subscribers.erase connection }) (core.unsubscribe connection spaceKey) c p := by
    refine Purges.giveUp (fun state =>
      { state with subscriptions := state.subscriptions.erase spaceKey }.purgeOutbound
        fun message => message.inSpace spaceKey) (fun message => message.inSpace spaceKey)
      (fun _ => rfl) (fun _ => rfl) ?_
    intro state message
    simp only [ConnectionState.purgeOutbound, OrderedSet.mem_erase]
    rw [and_comm, ← Bool.not_eq_true, OutboundMessage.inSpace_iff]
  obtain ⟨p, hp⟩ := hconnection
  exact ⟨p, hsession.before hp⟩

/-! ## Epochs and transitions -/

theorem purges_purgeSpace (hgone : spaceKey.space ∉ (core.sessionAt spaceKey.session).spaces) :
    ∃ p, Purges core (core.purgeSpace spaceKey) c p := by
  refine ⟨fun message => message.inSpace spaceKey, Purges.of_purge ?_ ?_ ?_⟩
  · exact outbound_mapConnections fun _ _ => rfl
  · intro message h _
    have hsubscriptions : ((core.purgeSpace spaceKey).connectionAt c).subscriptions =
        (core.connectionAt c).subscriptions := subscriptions_mapConnections fun _ _ => rfl
    exact h.imp (by rw [hsubscriptions]; exact id) (authenticated_mapConnections fun _ _ => rfl) id
  · intro message h hp
    obtain ⟨⟨descriptor, hdescriptor, -⟩, -⟩ := h.scope
    rw [OutboundMessage.inSpace_iff] at hp
    subst hp
    exact absurd (OrderedMap.mem_of_getElem? hdescriptor) hgone

/-- A session changes and every queue is purged of what the change takes out of scope. -/
theorem Purges.purgeAfter (key : SessionKey) (f : SessionState → SessionState)
    {p : OutboundMessage → Bool}
    (hother : ∀ message, p message = true → message.sessionKey = key)
    (hkept : ∀ message, message.sessionKey = key → p message = false →
      (core.sessionAt key).InScope message.space message.spaceEpoch message.entity →
        (f (core.sessionAt key)).InScope message.space message.spaceEpoch message.entity)
    (hgone : ∀ message, p message = true →
      (core.sessionAt key).InScope message.space message.spaceEpoch message.entity →
        ¬ (f (core.sessionAt key)).InScope message.space message.spaceEpoch message.entity)
    (hqueue : (core'.connectionAt c).outbound = (core.connectionAt c).outbound.purge p)
    (hsubscriptions : (core'.connectionAt c).subscriptions = (core.connectionAt c).subscriptions)
    (hauthenticated : (core'.connectionAt c).authenticated = (core.connectionAt c).authenticated)
    (hsessions : ∀ k, core'.sessionAt k =
      if k = key ∧ key ∈ core.sessions then f (core.sessionAt k) else core.sessionAt k) :
    Purges core core' c p := by
  apply Purges.of_purge hqueue
  · intro message h hp
    apply h.imp (by rw [hsubscriptions]; exact id) hauthenticated
    rw [hsessions]
    split
    · rename_i hkey
      rw [hkey.1]
      exact hkept message hkey.1 hp
    · exact id
  · intro message h hp hafter
    have hkey := hother message hp
    have hscope := hafter.scope
    have hbefore := h.scope
    rw [hsessions, if_pos ⟨hkey, hkey ▸ mem_sessions_of_inScope h.scope⟩] at hscope
    rw [hkey] at hscope hbefore
    exact hgone message hp hbefore hscope

theorem purges_advanceEpoch {space : SpaceId} {proposed : SpaceEpoch}
    {descriptor : SpaceDescriptor} (hfound : (core.sessionAt key).spaces[space]? = some descriptor)
    (hlater : descriptor.epoch < proposed) :
    ∃ p, Purges core (core.advanceEpoch key space proposed) c p := by
  refine ⟨fun message => message.inSpace ⟨key, space⟩, Purges.purgeAfter key
    (fun session => session.advanceEpoch space proposed) ?_ ?_ ?_ ?_ ?_ ?_ ?_⟩
  · intro message hp
    exact congrArg SpaceKey.session (OutboundMessage.inSpace_iff.mp hp)
  · intro message hkey hp hscope
    apply hscope.advanceEpoch
    rintro rfl
    apply Bool.eq_false_iff.mp hp
    rw [OutboundMessage.inSpace_iff, ← hkey]
    rfl
  · intro message hp hscope
    obtain rfl := congrArg SpaceKey.space (OutboundMessage.inSpace_iff.mp hp)
    exact SessionState.not_inScope_advanceEpoch hfound hlater hscope
  · exact outbound_mapConnections fun _ _ => rfl
  · exact subscriptions_mapConnections fun _ _ => rfl
  · exact authenticated_mapConnections fun _ _ => rfl
  · exact fun k => sessionAt_modifySession

theorem purges_transition {request : EntityTransitionRequest} {record : EntityRecord}
    (hchecked : core.TransitionChecked request record)
    (hmoves : request.sourceSpace ≠ request.destinationSpace) :
    ∃ p, Purges core (core.transition request) c p := by
  refine ⟨fun message => message.leftBehind request, Purges.purgeAfter request.session
    (fun session => session.transition request) ?_ ?_ ?_ ?_ ?_ ?_ ?_⟩
  · intro message hp
    exact OutboundMessage.inSession_iff.mp ((Bool.and_eq_true _ _).mp hp).1
  · intro message hkey hp hscope
    apply hscope.transition hchecked.found hchecked.space hchecked.source
    rw [OutboundMessage.leftBehind, OutboundMessage.inSession_iff.mpr hkey, Bool.true_and] at hp
    exact hp
  · intro message hp _
    exact SessionState.not_inScope_transition hmoves ((Bool.and_eq_true _ _).mp hp).2
  · exact outbound_mapConnections fun _ _ => rfl
  · exact subscriptions_mapConnections fun _ _ => rfl
  · exact authenticated_mapConnections fun _ _ => rfl
  · exact fun k => sessionAt_modifySession

theorem purges_spawn {epoch : SpaceEpoch} {principal : AuthenticatedPrincipal}
    (h : core.Consistent) :
    ∃ p, Purges core (core.spawn connection spaceKey epoch principal) c p := by
  have hid : Purges core { core with nextEntityId := core.nextEntityId + 1 } c fun _ => false :=
    Purges.of_tables rfl rfl
  unfold WovenCore.spawn
  refine ⟨_, hid.before ((Purges.modifySession ?_).before
    (Purges.modifyConnection _ _ (fun _ => rfl)
    (fun _ _ => id) fun _ => rfl))⟩
  intro _ space epoch entity hscope
  refine hscope.of_entities rfl ?_
  intro id record hrecord
  refine ⟨record, ?_, rfl⟩
  have hlt := (h.entityIds _ _ (OrderedMap.mem_of_getElem? hrecord)).2
  rw [OrderedMap.getElem?_insert, if_neg, ← hrecord]
  rintro rfl
  exact Nat.lt_irrefl _ hlt

/-! ## Deliveries, drains and connections -/

/-- A connection gets one message, if its queue has room for it. -/
structure Delivers (core core' : WovenCore) (c : ConnectionId) (message : OutboundMessage) :
    Prop where
  fresh : core.Fresh c message
  pushed : ∃ result queue, (core.connectionAt c).outbound.push message = .ok (result, queue) ∧
    core' = core.modifyConnection c fun state => { state with outbound := queue }

/-- A connection takes everything its queue holds. -/
def DrainsQueue (core core' : WovenCore) (c : ConnectionId) : Prop :=
  core' = core.modifyConnection c fun state => { state with outbound := state.outbound.drain.2 }

/-- A new queue is as empty as the queue that was read under the new id before. -/
theorem purges_connect {outbound : OutboundQueue} (h : core.Consistent)
    (hqueue : OutboundQueue.new core.config.outboundQueue = .ok outbound) :
    Purges core { core with
      nextConnectionId := core.nextConnectionId + 1
      connections := core.connections.insert ⟨core.nextConnectionId⟩ { outbound } } c
      fun _ => false := by
  obtain rfl := OutboundQueue.new_eq_ok hqueue
  by_cases hc : c = ⟨core.nextConnectionId⟩
  · have hdead : c ∉ core.connections := by
      intro hlive
      have hlt := (h.connectionIds c hlive).2
      rw [hc] at hlt
      exact Nat.lt_irrefl _ hlt
    have hat : { core with
        nextConnectionId := core.nextConnectionId + 1
        connections := core.connections.insert ⟨core.nextConnectionId⟩
          { outbound := { config := core.config.outboundQueue } } }.connectionAt c =
        { outbound := { config := core.config.outboundQueue } } := by
      rw [connectionAt, OrderedMap.getElem?_insert, if_pos hc]
      rfl
    refine ⟨?_, ?_, ?_, ?_, by simp⟩
    · rw [hat]
      exact fun _ => OutboundQueue.wellFormed_start _
    · intro message
      rw [hat, connectionAt_of_notMem hdead]
      simp [OutboundQueue.not_holds_start]
    · rw [hat, connectionAt_of_notMem hdead]
      rfl
    · exact fun message hfresh => absurd hfresh.mem_connections hdead
  · have hat : { core with
        nextConnectionId := core.nextConnectionId + 1
        connections := core.connections.insert ⟨core.nextConnectionId⟩
          { outbound := { config := core.config.outboundQueue } } }.connectionAt c =
        core.connectionAt c := by
      rw [connectionAt, OrderedMap.getElem?_insert, if_neg hc]
      rfl
    apply Purges.of_same (by rw [hat])
    intro message hfresh
    exact hfresh.imp (by rw [hat]; exact id) (by rw [hat]) id

theorem purges_disconnect :
    ∃ p, Purges core { core with connections := core.connections.erase connection } c p := by
  by_cases hc : c = connection
  · have hat : { core with connections := core.connections.erase connection }.connectionAt c =
        { outbound := { config := {} } } := by
      rw [connectionAt, OrderedMap.getElem?_erase, if_pos hc]
      rfl
    refine ⟨fun _ => true, ?_, ?_, ?_, by simp, ?_⟩
    · rw [hat]
      exact fun _ => OutboundQueue.wellFormed_start _
    · intro message
      rw [hat]
      simp [OutboundQueue.not_holds_start]
    · rw [hat]
      simp
    · intro message _ _ hafter
      have hin := hafter.subscribed
      rw [hat] at hin
      simp at hin
  · have hat : { core with connections := core.connections.erase connection }.connectionAt c =
        core.connectionAt c := by
      rw [connectionAt, OrderedMap.getElem?_erase, if_neg hc]
      rfl
    refine ⟨_, Purges.of_same (by rw [hat]) ?_⟩
    intro message hfresh
    exact hfresh.imp (by rw [hat]; exact id) (by rw [hat]) id

/-- What a movement keeps of every record is its place. -/
theorem purges_move {entity : EntityId} {position : EntityPosition}
    {cell : Option SpatialCellKey} :
    Purges core (core.modifySession key fun session =>
      (session.moveToCell entity cell).modifyEntity entity fun record =>
        { record with position := some position }) c fun _ => false := by
  apply Purges.modifySession
  intro _ space epoch id hscope
  apply hscope.of_entities
  · rw [SessionState.moveToCell_eq]
    rfl
  · intro other record hrecord
    rw [SessionState.moveToCell_eq, SessionState.modifyEntity, OrderedMap.getElem?_modify, hrecord]
    split
    · exact ⟨_, rfl, rfl⟩
    · exact ⟨_, rfl, rfl⟩

/-! ## The state is sound -/

/-- The indexes agree, the queues are in order and hold nothing stale. -/
structure Sound (core : WovenCore) : Prop where
  consistent : core.Consistent
  wellFormed : ∀ connection, (core.connectionAt connection).outbound.WellFormed
  fresh : ∀ connection message, (core.connectionAt connection).outbound.Holds message →
    core.Fresh connection message

theorem Fresh.withQueue {queue : OutboundQueue} (h : core.Fresh c message) :
    (core.modifyConnection c fun state => { state with outbound := queue }).Fresh c message := by
  apply h.imp
  · rw [connectionAt_modifyConnection]
    split <;> exact id
  · rw [connectionAt_modifyConnection]
    split <;> rfl
  · exact id

theorem Delivers.pushes (h : Delivers core core' c message)
    (hw : (core.connectionAt c).outbound.WellFormed) :
    ∃ result, OutboundQueue.Pushes (core.connectionAt c).outbound message result
      (core'.connectionAt c).outbound := by
  obtain ⟨result, queue, hpush, rfl⟩ := h.pushed
  refine ⟨result, ?_⟩
  rw [connectionAt_modifyConnection, if_pos ⟨rfl, h.fresh.mem_connections⟩]
  exact OutboundQueue.pushes_of_push hw hpush

theorem DrainsQueue.drains (h : DrainsQueue core core' c)
    (hw : (core.connectionAt c).outbound.WellFormed) :
    (core'.connectionAt c).outbound.WellFormed ∧
      ∀ message, ¬ (core'.connectionAt c).outbound.Holds message := by
  obtain rfl := h
  rw [connectionAt_modifyConnection]
  split
  · have hdrains := OutboundQueue.drain_drains hw
    exact ⟨hdrains.wellFormed, fun _ =>
      OutboundQueue.not_holds_of_rounds hdrains.wellFormed hdrains.empty⟩
  · rename_i hdead
    rw [connectionAt_of_notMem fun hlive => hdead ⟨rfl, hlive⟩]
    exact ⟨OutboundQueue.wellFormed_start _, fun _ => OutboundQueue.not_holds_start⟩

end WovenCore

open WovenCore

/-! ## All changes -/

theorem Change.queue {op : Op} {core core' : WovenCore} (hchange : Change op core core')
    (h : core.Consistent) (c : ConnectionId) :
    (∃ p, Purges core core' c p) ∨
      (op.publishes ∧ ∃ message, Delivers core core' c message) ∨
      (op = .drainOutbound c ∧ DrainsQueue core core' c) := by
  cases hchange with
  | registerChannel => exact .inl ⟨_, Purges.of_tables rfl rfl⟩
  | provisionSession key fresh =>
    left
    refine ⟨_, Purges.of_same rfl fun message hfresh => hfresh.imp id rfl ?_⟩
    rw [sessionAt_provision fresh]
    exact id
  | configureAdmission => exact .inl ⟨_, Purges.of_tables rfl rfl⟩
  | applyCapacity => exact .inl ⟨_, Purges.of_tables rfl rfl⟩
  | requestAdmission => exact .inl ⟨_, Purges.of_tables rfl rfl⟩
  | bindLease => exact .inl ⟨_, Purges.of_tables rfl rfl⟩
  | join connection key _ principal authenticated _ _ provisioned =>
    left
    refine ⟨_, (Purges.modifyConnection connection
      (fun state => { state with memberships := state.memberships.insert key })
      (fun _ => rfl) (fun _ _ => id) fun _ => rfl).before (Purges.modifySession ?_)⟩
    exact fun _ _ _ _ => id
  | installSpace key descriptor session found _ fresh =>
    obtain rfl := sessionAt_of_some found
    exact .inl ⟨_, Purges.modifySession fun _ _ _ _ hscope => hscope.installSpace fresh⟩
  | removeEntities key initial => exact .inl ⟨_, Purges.dropRemoved⟩
  | purgeSpace _ _ _ gone => exact .inl (purges_purgeSpace gone)
  | advanceEpoch key space proposed descriptor found later empty =>
    exact .inl (purges_advanceEpoch found later)
  | takeConnectionId => exact .inl ⟨_, Purges.of_tables rfl rfl⟩
  | connect outbound queue => exact .inl ⟨_, purges_connect h queue⟩
  | authenticate connection credentials state principal found fresh =>
    left
    by_cases hc : c = connection
    · refine ⟨_, Purges.of_same ?_ fun message hfresh => ?_⟩
      · rw [connectionAt_modifyConnection]
        split <;> rfl
      · -- Nothing is fresh for a connection that has not authenticated.
        obtain ⟨principal, hprincipal, -⟩ := hfresh.allowed
        rw [hc, connectionAt_of_some found, fresh] at hprincipal
        cases hprincipal
    · exact ⟨_, Purges.other hc⟩
  | leave connection key reason now => exact .inl purges_leave
  | subscribe connection spaceKey member installed =>
    left
    refine ⟨_, (Purges.modifyConnection connection
      (fun state => { state with subscriptions := state.subscriptions.insert spaceKey })
      (fun _ => rfl) (fun _ _ hin => ?_) fun _ => rfl).before (Purges.modifySession ?_)⟩
    · exact OrderedSet.mem_insert.mpr (.inr hin)
    · exact fun _ _ _ _ => id
  | unsubscribe connection spaceKey subscribed => exact .inl purges_unsubscribe
  | spawn connection spaceKey epoch principal member _ installed => exact .inl (purges_spawn h)
  | move => exact .inl ⟨_, purges_move⟩
  | transition request checked moves =>
    obtain ⟨record, hchecked⟩ := checkTransition_eq_ok checked
    exact .inl (purges_transition hchecked moves)
  | limit =>
    exact .inl ⟨_, Purges.modifyConnection _ _ (fun _ => rfl) (fun _ _ => id) fun _ => rfl⟩
  | commit request now call clock plan planned =>
    left
    have hjournal : Purges core { core with
        journalOutbox := { core.journalOutbox with
          records := core.journalOutbox.records ++
            (plan.journaled request.session).map JournalRecord.mk } } c fun _ => false :=
      Purges.of_tables rfl rfl
    refine ⟨_, hjournal.before (Purges.modifySession ?_)⟩
    intro _ space epoch entity hscope
    rw [SessionState.commit_eq]
    exact hscope
  | deliver request now call clock message recipient principal result queue subscribed
      authenticated allowed scope pushed =>
    by_cases hc : c = recipient
    · subst hc
      exact .inr (.inl ⟨trivial, message.toOutbound request.session,
        ⟨subscribed, ⟨principal, authenticated, allowed⟩, scope⟩, result, queue, pushed, rfl⟩)
    · exact .inl ⟨_, Purges.other hc⟩
  | drain connection =>
    by_cases hc : c = connection
    · exact .inr (.inr ⟨by rw [hc], by rw [hc]; rfl⟩)
    · exact .inl ⟨_, Purges.other hc⟩
  | popJournal => exact .inl ⟨_, Purges.of_tables rfl rfl⟩
  | releasePending connection key now =>
    rw [releasePendingAdmission_eq]
    exact .inl ⟨_, Purges.of_tables rfl rfl⟩
  | disconnect connection left => exact .inl purges_disconnect

theorem Change.sound {op : Op} {core core' : WovenCore} (hchange : Change op core core')
    (h : core.Sound) : core'.Sound := by
  refine ⟨hchange.consistent h.consistent, ?_, ?_⟩
  · intro c
    have hw := h.wellFormed c
    rcases hchange.queue h.consistent c with ⟨p, hpurges⟩ | ⟨-, message, hdelivers⟩ | ⟨-, hdrains⟩
    · exact hpurges.wellFormed hw
    · obtain ⟨result, hpushes⟩ := hdelivers.pushes hw
      exact hpushes.wellFormed
    · exact (hdrains.drains hw).1
  · intro c message hholds
    have hw := h.wellFormed c
    rcases hchange.queue h.consistent c with ⟨p, hpurges⟩ | ⟨-, pushed, hdelivers⟩ | ⟨-, hdrains⟩
    · obtain ⟨hbefore, hp⟩ := (hpurges.holds message).mp hholds
      exact hpurges.kept message (h.fresh c message hbefore) hp
    · obtain ⟨result, hpushes⟩ := hdelivers.pushes hw
      obtain ⟨result, queue, hpush, rfl⟩ := hdelivers.pushed
      rcases hpushes.holds message hholds with rfl | hbefore
      · exact hdelivers.fresh.withQueue
      · exact (h.fresh c message hbefore).withQueue
    · exact absurd hholds ((hdrains.drains hw).2 message)

theorem Changes.sound {op : Op} {core core' : WovenCore} (h : Changes op core core')
    (hs : core.Sound) : core'.Sound :=
  h.invariant (fun _ _ hchange => hchange.sound) hs

end Signalweave
