import Signalweave.Core.ConsistencySteps

/-!
# Every operation is made of changes

For each operation, from a core whose indexes agree: whichever way it ends, the core it leaves
is reached by elementary changes.
-/

open Std

namespace Signalweave

open Stateful WovenCore

/-- The method leaves the core some changes of the operation away, whichever way it ends. -/
abbrev Makes {α : Type} (op : Op) (method : CoreM α) (core : WovenCore) : Prop :=
  Ends method core (fun _ => Changes op core) fun _ => Changes op core

/-- The method makes one change or none. -/
abbrev MakesOne {α : Type} (op : Op) (method : CoreM α) (core : WovenCore) : Prop :=
  Ends method core (fun _ => Relation.ReflGen (Change op) core) fun _ =>
    Relation.ReflGen (Change op) core

@[simp] theorem no_change {op : Op} {core : WovenCore} : Relation.ReflGen (Change op) core core :=
  .refl

theorem MakesOne.makes {α : Type} {op : Op} {method : CoreM α} {core : WovenCore}
    (h : MakesOne op method core) : Makes op method core :=
  h.mono (fun _ _ => Relation.ReflGen.to_reflTransGen) fun _ _ =>
    Relation.ReflGen.to_reflTransGen

section Operations

variable {core : WovenCore}

/-! ## Channels, sessions and admission -/

theorem registerChannel_makes {channel : ChannelDefinition} :
    Makes (.registerChannel channel) (registerChannel channel) core := by
  simp [Makes, registerChannel]
  intro _ _ hfresh hroom
  exact .single (.registerChannel channel hfresh hroom)

theorem provisionSession_makes {key : SessionKey} :
    Makes (.provisionSession key) (provisionSession key) core := by
  simp [Makes, provisionSession]
  intro _ _ hfresh hroom
  exact .single (.provisionSession key hfresh hroom)

theorem configureSessionAdmission_makes {key : SessionKey} {metadata : AdmissionMetadata}
    {policy : QueuePolicy} {capacity : CapacityUpdate} :
    Makes (.configureSessionAdmission key metadata policy capacity)
      (configureSessionAdmission key metadata policy capacity) core := by
  simp [Makes, configureSessionAdmission]
  intro _ _ hkey hown hfresh
  exact .single (.configureAdmission key metadata policy capacity hkey hown hfresh)

theorem applySessionCapacityAt_makes {key : SessionKey} {update : CapacityUpdate}
    {now : Instant} :
    Makes (.applySessionCapacityAt key update now) (applySessionCapacityAt key update now)
      core := by
  simp [Makes, applySessionCapacityAt]
  intro _ _ controller hfound
  exact .single (.applyCapacity key update now controller hfound)

theorem requestSessionAdmissionAt_makes {connection : ConnectionId} {key : SessionKey}
    {idempotencyKey : IdempotencyKey} {now : Instant} :
    Makes (.requestSessionAdmissionAt connection key idempotencyKey now)
      (requestSessionAdmissionAt connection key idempotencyKey now) core := by
  simp [Makes, requestSessionAdmissionAt]
  intro _ _ _ principal hprincipal _ _ _ _ controller hfound
  exact .single (.requestAdmission connection key idempotencyKey now principal controller
    hprincipal hfound)

/-! ## Connections, memberships and subscriptions -/

theorem transportConnected_makes : MakesOne .transportConnected transportConnected core := by
  simp [MakesOne, transportConnected]
  intro hroom next hnext
  obtain rfl : next = core.nextConnectionId + 1 := by
    simp [checkedSucc] at hnext
    exact hnext.2.symm
  cases hqueue : OutboundQueue.new core.config.outboundQueue with
  | error error =>
    simp
    exact .single .takeConnectionId
  | ok outbound =>
    simp
    exact .single (.connect outbound hqueue hroom)

theorem authenticate_makes {connection : ConnectionId} {credentials : Credentials} :
    MakesOne (.authenticate connection credentials) (authenticate connection credentials)
      core := by
  simp [MakesOne, authenticate, withConnection]
  intro _ state hfound hfresh
  cases core.authenticator.authenticate credentials with
  | error error => simp
  | ok principal =>
    simp
    intro _ _ _
    exact .single (.authenticate connection credentials state principal hfound hfresh)

/-- The two normal ends of the unchecked join, and its failures before anything is written. -/
theorem joinSessionUncheckedAdmission_ends {connection : ConnectionId} {key : SessionKey}
    {Q : Unit → WovenCore → Prop} {E : CoreError → WovenCore → Prop}
    (hsame : key ∈ (core.connectionAt connection).memberships → Q () core)
    (hjoin : ∀ principal, core.authenticatedPrincipal connection = .ok principal →
      principal.grants.canReadNamespace key.namespaceId = true →
      principal.grants.canReadSession key = true → key ∈ core.sessions →
      (core.connectionAt connection).memberships.size ≠
        core.config.maxMembershipsPerConnection → Q () (core.join connection key))
    (herror : ∀ e, E e core) :
    Ends (joinSessionUncheckedAdmission connection key) core Q E := by
  simp [joinSessionUncheckedAdmission, withConnection, withSession, herror, requireNamespaceRead,
    requireSessionRead]
  intro _ _ _ principal hprincipal hnamespace hsession hkey state hstate
  refine ⟨fun hmember => hsame (by rwa [connectionAt_of_some hstate]), fun _ hroom _ _ => ?_⟩
  rw [← connectionAt_of_some hstate] at hroom
  exact ⟨fun _ _ => hjoin principal hprincipal hnamespace hsession hkey hroom, fun hnot =>
    absurd hkey hnot⟩

theorem joinSession_makes {connection : ConnectionId} {key : SessionKey} :
    Makes (.joinSession connection key) (joinSession connection key) core := by
  simp [Makes, joinSession]
  intro hfree
  apply joinSessionUncheckedAdmission_ends
  · exact fun _ => .refl
  · intro principal hprincipal hnamespace hsession hkey hroom
    exact .single (.join connection key ⟨rfl, rfl⟩ principal hprincipal hnamespace hsession hkey
      (fun hin => absurd hin hfree) hroom)
  · exact fun _ => .refl

theorem joinSessionWithAdmission_makes {connection : ConnectionId} {key : SessionKey}
    {lease : AdmissionLease} :
    Makes (.joinSessionWithAdmission connection key lease)
      (joinSessionWithAdmission connection key lease) core := by
  simp [Makes, joinSessionWithAdmission]
  intro _ _ _ principal hprincipal _ hown
  cases hbound : core.admissionLeases[(connection, key)]? with
  | some bound => simp
  | none =>
    simp
    intro hpending controller hfound hactive hunshared
    have hbind : Changes (.joinSessionWithAdmission connection key lease) core
        (core.bindLease connection key lease) :=
      .single (.bindLease connection key lease principal controller hprincipal hown hbound
        hpending hfound hactive fun slot hslot =>
          hunshared slot.1 slot.2 hslot)
    apply joinSessionUncheckedAdmission_ends
    · exact fun _ => hbind
    · intro principal hprincipal hnamespace hsession hkey hroom
      refine hbind.tail (.join connection key ⟨rfl, rfl⟩ principal hprincipal hnamespace hsession
        hkey (fun _ => ?_) hroom)
      exact OrderedMap.mem_insert.mpr (.inl rfl)
    · exact fun _ => .refl

theorem leaveSession_makes {connection : ConnectionId} {key : SessionKey} {now : Instant} :
    Makes (.leaveSession connection key now) (leaveSession connection key now) core := by
  simp [Makes, leaveSession, requireMembership_eq_ok]
  intro _ _ _ state hstate hmember
  exact .single (.leave connection key .intentional now ⟨rfl, rfl⟩
    (by rwa [connectionAt_of_some hstate]))

theorem subscribe_makes {connection : ConnectionId} {spaceKey : SpaceKey}
    (h : core.Consistent) :
    MakesOne (.subscribe connection spaceKey) (subscribe connection spaceKey) core := by
  simp [MakesOne, subscribe, withConnection, requireMembership_eq_ok]
  intro _ _ _ principal hprincipal _ _ _ _ _ _ state hstate hmember state' hstate'
  obtain rfl : state = state' := by simpa [hstate] using hstate'
  intro _ hroom session hsession hinstalled _ _
  obtain rfl := sessionAt_of_some hsession
  have hsubscribers :=
    ((h.session spaceKey.session).subscriberSpaces spaceKey.space).mpr hinstalled
  refine ⟨?_, fun hnot => absurd (OrderedMap.mem_of_getElem? hsession) hnot⟩
  intro session hsession'
  obtain rfl := sessionAt_of_some hsession'
  refine ⟨fun _ => ?_, fun hnot => absurd hsubscribers hnot⟩
  rw [← connectionAt_of_some hstate] at hmember hroom
  exact .single (.subscribe connection spaceKey hmember hinstalled hroom)

theorem unsubscribe_makes {connection : ConnectionId} {spaceKey : SpaceKey} :
    Makes (.unsubscribe connection spaceKey) (unsubscribe connection spaceKey) core := by
  simp [Makes, unsubscribe]
  intro _ _ _ _ _ state hstate hsubscribed
  exact .single (.unsubscribe connection spaceKey (by rwa [connectionAt_of_some hstate]))

theorem drainOutbound_makes {connection : ConnectionId} :
    Makes (.drainOutbound connection) (drainOutbound connection) core := by
  simp [Makes, drainOutbound]
  intro _ _ _
  exact .single (.drain connection)

theorem popJournalRecord_makes : Makes .popJournalRecord popJournalRecord core := by
  simp [Makes, popJournalRecord]
  exact .single .popJournal

/-! ## Spaces -/

theorem installSpace_makes {key : SessionKey} {descriptor : SpaceDescriptor} :
    MakesOne (.installSpace key descriptor) (installSpace key descriptor) core := by
  cases hvalid : descriptor.validate with
  | error error => simp [MakesOne, installSpace, hvalid]
  | ok _ =>
    simp [MakesOne, installSpace, hvalid, withSession]
    intro _ _ session hsession hfresh hroom _ hhistory _ hparent _ _
    exact .single (.installSpace key descriptor session hsession hvalid hfresh hroom hhistory
      hparent)

/-- No entity of a space is left once the entities of the space are removed. -/
theorem space_ne_of_removal {core : WovenCore} {key : SessionKey} {space : SpaceId}
    {id : EntityId} {record : EntityRecord} (h : core.Consistent) (hkey : key ∈ core.sessions)
    (hid : ((core.dropRemoved key (core.removalOf key
      (core.spaceEntities key space))).sessionAt key).entities[id]? = some record) :
    record.space ≠ space := by
  have hkeyed := (h.session key).keyed
  rw [sessionAt_dropRemoved, if_pos ⟨rfl, hkey⟩] at hid
  obtain ⟨hfound, hnot⟩ := SessionState.mem_dropRemoved_entities.mp hid
  rintro rfl
  apply hnot
  rw [removalOf_of_mem hkey, SessionState.mem_cascade_entities hkeyed]
  exact .inl ((mem_entitiesWhere hkeyed).mpr ⟨record, hfound, by simp⟩)

/-- The checks of an epoch advance have passed. -/
structure AdvanceAccepted (core : WovenCore) (key : SessionKey) (space : SpaceId)
    (proposed : SpaceEpoch) (descriptor : SpaceDescriptor) : Prop where
  session : validateSessionKey key = .ok ()
  spaceId : space.get ≠ 0
  epoch : proposed.get ≠ 0
  provisioned : key ∈ core.sessions
  found : (core.sessionAt key).spaces[space]? = some descriptor
  later : descriptor.epoch < proposed

/-- An accepted epoch advance is made, or it is stopped by the second lookup once the removal has
taken the space itself. -/
theorem advanceSpaceEpoch_of_accepted {key : SessionKey} {space : SpaceId} {proposed : SpaceEpoch}
    {descriptor : SpaceDescriptor} {Q : CleanupSummary → WovenCore → Prop}
    {E : CoreError → WovenCore → Prop}
    (haccepted : AdvanceAccepted core key space proposed descriptor)
    (hmade : ∀ summary, space ∉ (core.removalOf key (core.spaceEntities key space)).spaces →
      Q summary ((core.dropRemoved key
        (core.removalOf key (core.spaceEntities key space))).advanceEpoch key space proposed))
    (hstopped : ∀ e, space ∈ (core.removalOf key (core.spaceEntities key space)).spaces →
      E e ((core.dropRemoved key
        (core.removalOf key (core.spaceEntities key space))).purgeSpace ⟨key, space⟩)) :
    Ends (advanceSpaceEpoch key space proposed) core Q E := by
  obtain ⟨hsession, hspace, hproposed, hkey, hdescriptor, hlater⟩ := haccepted
  have hlater : ¬ proposed ≤ descriptor.epoch := Nat.not_le_of_lt hlater
  simp [advanceSpaceEpoch, hsession, hspace, hproposed, sessions_getElem? hkey, hdescriptor,
    hlater, requireNonzero]
  have hafter : (core.removeEntitiesAndAnchoredSpaces key (core.spaceEntities key
      space)).2.sessions[key]? = some ((core.sessionAt key).dropRemoved
        (core.removalOf key (core.spaceEntities key space))) := by
    change (core.dropRemoved key _).sessions[key]? = _
    rw [sessions_getElem? (mem_sessions_dropRemoved.mpr hkey), sessionAt_dropRemoved,
      if_pos ⟨rfl, hkey⟩]
  refine ⟨⟨⟨?_, fun hnone => absurd (OrderedMap.mem_of_getElem? hafter) hnone⟩,
    fun hnone => absurd (OrderedMap.mem_of_getElem? hdescriptor) hnone⟩,
    fun hnone => absurd hkey hnone⟩
  rw [hafter]
  rintro _ ⟨⟩
  have hfound := @SessionState.dropRemoved_spaces (core.sessionAt key)
    (core.removalOf key (core.spaceEntities key space)) space
  rw [hdescriptor] at hfound
  by_cases hdoomed : space ∈ (core.removalOf key (core.spaceEntities key space)).spaces
  · rw [if_pos hdoomed] at hfound
    exact ⟨fun _ hsome => absurd (hfound.symm.trans hsome) (by simp),
      fun _ => hstopped _ hdoomed⟩
  · rw [if_neg hdoomed] at hfound
    exact ⟨fun _ _ => hmade _ hdoomed,
      fun hnone => absurd (OrderedMap.mem_of_getElem? hfound) hnone⟩

/-- An epoch advance that is not accepted changes nothing. -/
theorem advanceSpaceEpoch_ends {key : SessionKey} {space : SpaceId} {proposed : SpaceEpoch}
    {Q : CleanupSummary → WovenCore → Prop} {E : CoreError → WovenCore → Prop}
    (hrefused : ∀ e, E e core)
    (haccepted : ∀ descriptor, AdvanceAccepted core key space proposed descriptor →
      Ends (advanceSpaceEpoch key space proposed) core Q E) :
    Ends (advanceSpaceEpoch key space proposed) core Q E := by
  by_cases h : ∃ descriptor, AdvanceAccepted core key space proposed descriptor
  · obtain ⟨descriptor, h⟩ := h
    exact haccepted descriptor h
  · simp [advanceSpaceEpoch, hrefused]
    intro _ hsession hspace hproposed session hfound descriptor hdescriptor hlater
    obtain rfl := sessionAt_of_some hfound
    exact absurd ⟨descriptor, hsession, hspace, hproposed, OrderedMap.mem_of_getElem? hfound,
      hdescriptor, Nat.lt_of_not_le hlater⟩ h

theorem advanceSpaceEpoch_makes {key : SessionKey} {space : SpaceId} {proposed : SpaceEpoch}
    (h : core.Consistent) :
    Makes (.advanceSpaceEpoch key space proposed) (advanceSpaceEpoch key space proposed)
      core := by
  apply advanceSpaceEpoch_ends
  · exact fun _ => .refl
  · intro descriptor haccepted
    have hkey := haccepted.provisioned
    have hremoved : Changes (.advanceSpaceEpoch key space proposed) core
        (core.dropRemoved key (core.removalOf key (core.spaceEntities key space))) :=
      .single (.removeEntities key _ rfl)
    apply advanceSpaceEpoch_of_accepted haccepted
    · intro _ hkept
      refine hremoved.tail (.advanceEpoch key space proposed descriptor ?_ haccepted.later ?_)
      · rw [sessionAt_dropRemoved, if_pos ⟨rfl, hkey⟩, SessionState.dropRemoved_spaces,
          if_neg hkept, haccepted.found]
      · exact fun id record hid => space_ne_of_removal h hkey hid
    · intro _ hdoomed
      refine hremoved.tail (.purgeSpace key space proposed ?_)
      rw [sessionAt_dropRemoved, if_pos ⟨rfl, hkey⟩, ExtTreeMap.mem_iff_isSome_getElem?,
        SessionState.dropRemoved_spaces, if_pos hdoomed]
      simp

/-! ## Entities -/

/-- What a spawn does where it is not refused. -/
theorem spawnEntity_spawns {connection : ConnectionId} {spaceKey : SpaceKey} {epoch : SpaceEpoch} :
    Ends (spawnEntity connection spaceKey epoch) core
      (fun entity core' => entity = ⟨core.nextEntityId⟩ ∧ spaceKey.session ∈ core.sessions ∧
        (∃ principal, core.authenticatedPrincipal connection = .ok principal ∧
          core' = core.spawn connection spaceKey epoch principal) ∧
          Change (.spawnEntity connection spaceKey epoch) core core')
      fun _ core' => core' = core := by
  simp [spawnEntity, withSession, withConnection, requireMembership_eq_ok,
    requireSubscription_eq_ok]
  intro _ _ _ _ principal hprincipal _ _ _ _ _ _ state hstate hmember _ _ _ state' hstate'
    hroomOwned session hsession descriptor hdescriptor hepoch hroom next hnext
  obtain rfl : next = core.nextEntityId + 1 := by
    simp [checkedSucc] at hnext
    exact hnext.2.symm
  have hkey := OrderedMap.mem_of_getElem? hsession
  have hlive := OrderedMap.mem_of_getElem? hstate
  refine ⟨fun _ _ => ⟨fun _ _ => ⟨hkey, ⟨principal, hprincipal, rfl⟩, ?_⟩,
    fun hnot => absurd hlive hnot⟩, fun hnot => absurd hkey hnot⟩
  refine .spawn connection spaceKey epoch principal ?_ hkey ?_ ?_ ?_
  · rwa [connectionAt_of_some hstate]
  · rw [sessionAt_of_some hsession]
    exact ⟨descriptor, hdescriptor, hepoch⟩
  · rwa [connectionAt_of_some hstate']
  · rwa [sessionAt_of_some hsession]

theorem spawnEntity_makes {connection : ConnectionId} {spaceKey : SpaceKey} {epoch : SpaceEpoch} :
    MakesOne (.spawnEntity connection spaceKey epoch) (spawnEntity connection spaceKey epoch)
      core := by
  apply spawnEntity_spawns.mono
  · rintro _ core' ⟨-, -, -, hchange⟩
    exact .single hchange
  · rintro _ _ rfl
    exact .refl

theorem mem_entities_modifySession {key : SessionKey} {entity : EntityId}
    {f : SessionState → SessionState} {session : SessionState}
    (hsession : core.sessions[key]? = some session)
    (hentities : (f session).entities = session.entities) :
    (((core.modifySession key f).sessions[key]?).bind fun session => session.entities[entity]?) =
      session.entities[entity]? := by
  rw [modifySession, ExtTreeMap.getElem?_modify_self, hsession]
  change (f session).entities[entity]? = _
  rw [hentities]

theorem modifySession_modifySession {key : SessionKey} {f g : SessionState → SessionState} :
    (core.modifySession key f).modifySession key g = core.modifySession key fun s => g (f s) := by
  unfold modifySession
  congr 1
  apply ExtTreeMap.ext_getElem?
  intro k
  rw [OrderedMap.getElem?_modify, OrderedMap.getElem?_modify, OrderedMap.getElem?_modify]
  split
  · rw [Option.map_map]
    rfl
  · rfl

theorem updateEntityPosition_makes {connection : ConnectionId} {key : SessionKey}
    {entity : EntityId} {position : EntityPosition} :
    Makes (.updateEntityPosition connection key entity position)
      (updateEntityPosition connection key entity position) core := by
  simp [Makes, updateEntityPosition, withSession, withEntity, requireMembership_eq_ok,
    requireSubscription_eq_ok, - Option.bind_eq_none_iff]
  intro _ _ _ _ principal hprincipal _ _ _ _ state hstate hmember session hsession record hrecord
    howner _ _ _ _ _ descriptor hdescriptor
  cases hvalid : position.validateForFrame descriptor.localFrame with
  | error error => simp
  | ok _ =>
    simp [- Option.bind_eq_none_iff]
    intro cell hcell _ _
    rw [mem_entities_modifySession hsession (by rw [SessionState.moveToCell_eq]), hrecord]
    simp only [Option.some.injEq, reduceCtorEq, false_implies, and_true]
    rintro _ rfl
    rw [modifySession_modifySession]
    exact .single (.move connection key entity position cell session record descriptor hsession
      hrecord hdescriptor hvalid hcell)

theorem removeEntity_makes {connection : ConnectionId} {key : SessionKey} {entity : EntityId} :
    Makes (.removeEntity connection key entity) (removeEntity connection key entity) core := by
  simp [Makes, removeEntity]
  intros
  exact .single (.removeEntities key _ rfl)

theorem transitionEntity_makes {request : EntityTransitionRequest} :
    MakesOne (.transitionEntity request) (transitionEntity request) core := by
  simp [MakesOne, transitionEntity, withSession, withEntity, - Option.bind_eq_none_iff]
  intro _ hchecked hmoves
  obtain ⟨record, hrecord⟩ := checkTransition_eq_ok hchecked
  have hsession := sessions_getElem? hrecord.provisioned
  intro _ _
  rw [mem_entities_modifySession hsession (by rw [SessionState.removeEntityFromCell_eq]),
    hrecord.found]
  simp only [Option.some.injEq, reduceCtorEq, false_implies, and_true]
  rintro _ rfl
  rw [modifySession_modifySession, modifySession_modifySession]
  refine .single (.transition request hchecked fun heq => hmoves heq ?_)
  -- Both epochs are the current one of the one space.
  obtain ⟨source, hsource, hsourceEpoch⟩ := hrecord.source
  obtain ⟨destination, hdestination, hdestinationEpoch⟩ := hrecord.destination
  rw [← heq, hsource] at hdestination
  obtain rfl := Option.some.inj hdestination
  exact hsourceEpoch.symm.trans hdestinationEpoch

end Operations

end Signalweave
