import Signalweave.Core.SpaceGraph
import Signalweave.Core.Capacity
import Signalweave.Core.EpochAdvance
import Signalweave.Core.WorldEffects

/-!
# The core keeps a world

Each operation of the core, with its success, is one step of the world that the core keeps; so
every run of the core is a run of the world, which is lawful all along.
-/

open Std

namespace Signalweave

open Stateful WovenCore

/-- Whether an operation ends normally. -/
def answers (core : WovenCore) (op : Op) : Bool :=
  match op.call.run core with
  | .ok _ _ => true
  | .error _ _ => false

section Operations

variable {core : WovenCore} {connection : ConnectionId} {key : SessionKey} {spaceKey : SpaceKey}

/-- The operation, with its success, is a step of the world. -/
def Refines (core : WovenCore) (op : Op) : Prop :=
  core.world.Step core.authenticator (op, answers core op) (step core op).world

/-- It is enough to look at the two ends of the operation. -/
theorem refines_of_ends {op : Op}
    (h : Ends op.call core
      (fun _ core' => core.world.Step core.authenticator (op, true) core'.world)
      fun _ core' => core.world.Step core.authenticator (op, false) core'.world) :
    Refines core op := by
  unfold Refines answers step Stateful.after
  unfold Ends at h
  cases hrun : op.call.run core with
  | ok answer after =>
    rw [hrun] at h
    exact h
  | error error after =>
    rw [hrun] at h
    exact h

theorem refused {op : Op} : core.world.Step core.authenticator (op, false) core.world := .refused op

/-- An operation that is not about the world leaves it as it is, however it ends. -/
theorem refines_elsewhere {op : Op} (hop : op.elsewhere)
    (hsame : (step core op).world = core.world) : Refines core op := by
  unfold Refines
  rw [hsame]
  cases answers core op with
  | true => exact .elsewhere op hop
  | false => exact .refused op

/-! ## Admissions, queues and the journal -/

theorem Change.world {op : Op} {core' : WovenCore} (h : Change op core core')
    (hop : op.elsewhere) : core'.world = core.world := by
  cases h with
  | configureAdmission | applyCapacity | requestAdmission | popJournal => rfl
  | drain => exact world_modifyConnection (fun _ => rfl) (fun _ => rfl) fun _ => rfl
  | join connection key asked => cases op <;> first | exact hop.elim | exact asked.elim
  | removeEntities key initial asked => cases op <;> first | exact hop.elim | exact asked.elim
  | leave connection key reason now asked =>
    cases op <;> first | exact hop.elim | exact asked.elim
  | releasePending connection key now asked =>
    cases op <;> first | exact hop.elim | exact asked.elim
  | disconnect connection asked => cases op <;> first | exact hop.elim | exact asked.elim
  | _ => exact hop.elim

theorem refines_of_elsewhere {op : Op} (hsound : core.Sound) (hop : op.elsewhere) :
    Refines core op := by
  refine refines_elsewhere hop ?_
  refine (changes_step hsound op).invariant (P := fun core' => core'.world = core.world) ?_ rfl
  exact fun _ _ hchange hsame => (hchange.world hop).trans hsame

/-! ## Channels and sessions -/

theorem refines_registerChannel (channel : ChannelDefinition) :
    Refines core (.registerChannel channel) := by
  apply refines_of_ends
  simp [Op.call, registerChannel, refused]
  intro _ _ hfresh _
  have hworld : WovenCore.world
      { core with channels := core.channels.insert channel.id channel } =
        { core.world with
          channel := fun id =>
            if id = channel.id then some channel else core.world.channel id } := by
    refine World.ext ?_ rfl rfl rfl rfl rfl rfl rfl rfl
    funext id
    exact OrderedMap.getElem?_insert
  rw [hworld]
  exact .registerChannel channel (ExtTreeMap.getElem?_eq_none hfresh)

theorem refines_provisionSession (key : SessionKey) : Refines core (.provisionSession key) := by
  apply refines_of_ends
  simp [Op.call, provisionSession, refused]
  intro _ _ hfresh _
  have hat : ∀ k, WovenCore.sessionAt { core with sessions := core.sessions.insert key {} } k =
      core.sessionAt k := sessionAt_provision hfresh
  have hworld : WovenCore.world { core with sessions := core.sessions.insert key {} } =
      { core.world with session := insert key core.world.session } := by
    unfold world
    simp only [hat]
    refine World.ext rfl ?_ rfl rfl rfl rfl rfl rfl rfl
    ext k
    exact OrderedMap.mem_insert
  rw [hworld]
  exact .provisionSession key hfresh

/-- A space is installed where there was none. -/
theorem world_installSpace {descriptor : SpaceDescriptor} (hkey : key ∈ core.sessions) :
    (core.modifySession key fun session => session.installSpace descriptor).world =
      core.world.setSpace ⟨key, descriptor.id⟩ descriptor := by
  have hat : ∀ k, (core.modifySession key fun session =>
      session.installSpace descriptor).sessionAt k =
        if k = key then (core.sessionAt k).installSpace descriptor else core.sessionAt k := by
    intro k
    rw [sessionAt_modifySession]
    simp only [hkey, and_true]
  refine World.ext rfl ?_ rfl rfl rfl rfl ?_ ?_ ?_
  · ext k
    exact mem_sessions_modifySession
  · funext ⟨k, space⟩
    show (WovenCore.sessionAt _ k).spaces[space]? =
      if (⟨k, space⟩ : SpaceKey) = ⟨key, descriptor.id⟩ then _
      else (core.sessionAt k).spaces[space]?
    rw [hat]
    by_cases hk : k = key
    · subst hk
      rw [if_pos rfl]
      show ((core.sessionAt k).spaces.insert descriptor.id descriptor)[space]? = _
      rw [OrderedMap.getElem?_insert]
      simp
    · rw [if_neg hk, if_neg]
      simp [hk]
  · funext k id
    show (WovenCore.sessionAt _ k).entities[id]? = _
    rw [hat]
    split <;> rfl
  · funext k stateKey
    show (WovenCore.sessionAt _ k).state[stateKey]? = _
    rw [hat]
    split <;> rfl

theorem refines_installSpace (key : SessionKey) (descriptor : SpaceDescriptor) :
    Refines core (.installSpace key descriptor) := by
  apply refines_of_ends
  cases hvalid : descriptor.validate with
  | error error => simp [Op.call, installSpace, refused, hvalid]
  | ok _ =>
    simp [Op.call, installSpace, refused, hvalid, withSession]
    intro _ _ session hsession hfresh _ _ _ _ hparent _ _
    have hkey := OrderedMap.mem_of_getElem? hsession
    obtain rfl := sessionAt_of_some hsession
    rw [world_installSpace hkey]
    refine .installSpace key descriptor hkey (ExtTreeMap.getElem?_eq_none hfresh) ?_
    intro parent hnested
    rw [checkParent, hnested] at hparent
    obtain ⟨hin, record, hrecord, hlocated⟩ := validateParentAnchor_eq_ok.mp hparent
    obtain ⟨found, hfound⟩ := OrderedMap.exists_of_mem hin
    exact ⟨Option.isSome_iff_exists.mpr ⟨found, hfound⟩, record, hrecord, hlocated⟩

/-- The space stands in its new incarnation if the removal has not taken it. -/
theorem stands_advance (h : core.Consistent) (hlawful : core.world.Lawful)
    (hkey : key ∈ core.sessions) {space : SpaceId} {descriptor : SpaceDescriptor}
    {proposed : SpaceEpoch} (hfound : core.world.space ⟨key, space⟩ = some descriptor)
    (hlater : descriptor.epoch < proposed) :
    ((core.world.setSpace ⟨key, space⟩ { descriptor with epoch := proposed }).settle.space
      ⟨key, space⟩).isSome ↔
        space ∉ (core.removalOf key (core.spaceEntities key space)).spaces := by
  have hfalls := (unsupports_setSpace h hlawful hfound hlater).falls_space_iff hlawful
    (Option.isSome_iff_exists.mpr ⟨descriptor, hfound⟩)
  have hdooms : core.Dooms key (core.spaceEntities key space) (.space ⟨key, space⟩) ↔
      space ∈ (core.removalOf key (core.spaceEntities key space)).spaces :=
    ⟨fun hdoomed => (mem_removalOf_spaces h hkey _).mpr hdoomed.2,
      fun hin => ⟨rfl, (mem_removalOf_spaces h hkey _).mp hin⟩⟩
  rw [← hdooms, ← hfalls]
  constructor
  · intro hthere hdown
    obtain ⟨after, hafter⟩ := Option.isSome_iff_exists.mp hthere
    exact (World.standing_space.mp hafter).2 hdown
  · intro hup
    exact World.standing_space_isSome hup

theorem refines_advanceSpaceEpoch (hsound : core.Sound) (hlawful : core.world.Lawful)
    (key : SessionKey) (space : SpaceId) (proposed : SpaceEpoch) :
    Refines core (.advanceSpaceEpoch key space proposed) := by
  apply refines_of_ends
  simp only [Op.call, ends_bind, ends_pure]
  apply advanceSpaceEpoch_ends
  · exact fun _ => refused
  · intro descriptor haccepted
    have hkey := haccepted.provisioned
    have hconsistent := hsound.consistent
    have hstep := @World.Step.advanceSpaceEpoch core.authenticator core.world key space proposed
      descriptor haccepted.found haccepted.later _ rfl
    have hstands := stands_advance hconsistent hlawful hkey haccepted.found haccepted.later
    apply advanceSpaceEpoch_of_accepted haccepted
    · intro summary hkept
      rw [world_advanceEpoch hconsistent hlawful hkey haccepted.found haccepted.later]
      rwa [hstands.mpr hkept] at hstep
    · intro error hdoomed
      rw [world_purgeSpace hconsistent hlawful hkey haccepted.found haccepted.later hdoomed]
      rwa [Bool.eq_false_iff.mpr fun hthere => hstands.mp hthere hdoomed] at hstep

/-! ## Connections, memberships and subscriptions -/

theorem refines_transportConnected (hsound : core.Sound) : Refines core .transportConnected := by
  apply refines_of_ends
  simp only [Op.call, ends_bind, ends_pure]
  apply transportConnected_connects.mono
  · rintro _ _ ⟨rfl, outbound, rfl⟩
    have hfresh : (⟨core.nextConnectionId⟩ : ConnectionId) ∉ core.connections := fun hin =>
      Nat.lt_irrefl _ (hsound.consistent.connectionIds _ hin).2
    rw [world_connect hfresh]
    exact .transportConnected _ hfresh
  · rintro _ _ (rfl | rfl)
    · exact refused
    · exact .refused _

theorem refines_authenticate (credentials : Credentials) :
    Refines core (.authenticate connection credentials) := by
  apply refines_of_ends
  simp only [Op.call, ends_bind, ends_pure]
  apply authenticate_signsIn.mono
  · rintro _ _ ⟨hlive, hfresh, principal, ⟨hvouched, -⟩, rfl⟩
    rw [world_signIn hlive]
    exact .authenticate connection credentials principal hlive hfresh hvouched
  · rintro _ _ rfl
    exact refused

theorem world_principal {principal : AuthenticatedPrincipal}
    (h : core.authenticatedPrincipal connection = .ok principal) :
    core.world.principal connection = some principal := by
  obtain ⟨state, hstate, hprincipal⟩ := authenticatedPrincipal_eq_ok.mp h
  show (core.connectionAt connection).authenticated = some principal
  rw [connectionAt_of_some hstate, hprincipal]

/-- Whoever acts has the right to. -/
theorem acts_of_authenticated {principal : AuthenticatedPrincipal}
    {right : AuthenticatedPrincipal → Prop}
    (h : core.authenticatedPrincipal connection = .ok principal) (hright : right principal) :
    core.world.Acts connection right :=
  ⟨principal, world_principal h, hright⟩

/-- A member that joins once more stays one. -/
theorem joins_again {op : Op} (hlawful : core.world.Lawful) (asked : op.joins connection key)
    (hmember : key ∈ (core.connectionAt connection).memberships) :
    core.world.Step core.authenticator (op, true) core.world := by
  obtain ⟨hkey, hreads⟩ := hlawful.member connection key hmember
  have hsame : insert (connection, key) core.world.member = core.world.member :=
    Set.insert_eq_of_mem hmember
  have hstep := @World.Step.join core.authenticator core.world op connection key asked hkey hreads
  rwa [hsame] at hstep

theorem joinSessionUncheckedAdmission_steps {op : Op} (hlawful : core.world.Lawful)
    (asked : op.joins connection key) :
    Ends (joinSessionUncheckedAdmission connection key) core
      (fun _ core' => core.world.Step core.authenticator (op, true) core'.world)
      fun _ core' => core.world.Step core.authenticator (op, false) core'.world := by
  apply joinSessionUncheckedAdmission_ends
  · exact joins_again hlawful asked
  · intro principal hprincipal hnamespace hsession hkey _
    rw [world_join (mem_connections_of_authenticated hprincipal)]
    exact .join op connection key asked hkey
      (acts_of_authenticated hprincipal ⟨hnamespace, hsession⟩)
  · exact fun _ => refused

theorem refines_joinSession (hlawful : core.world.Lawful) :
    Refines core (.joinSession connection key) := by
  apply refines_of_ends
  simp [Op.call, joinSession, refused]
  exact fun _ => joinSessionUncheckedAdmission_steps hlawful ⟨rfl, rfl⟩

theorem refines_joinSessionWithAdmission (hheld : core.Held) (hlawful : core.world.Lawful)
    (lease : AdmissionLease) : Refines core (.joinSessionWithAdmission connection key lease) := by
  apply refines_of_ends
  simp [Op.call, joinSessionWithAdmission, refused]
  intro _ _ _ principal _ _ _
  cases hbound : core.admissionLeases[(connection, key)]? with
  | some bound =>
    simp [refused]
    rintro rfl
    exact joins_again hlawful ⟨rfl, rfl⟩
      (hheld.seats connection key (OrderedMap.mem_of_getElem? hbound))
  | none =>
    simp [refused]
    intro _ _ _ _ _
    exact joinSessionUncheckedAdmission_steps hlawful ⟨rfl, rfl⟩

theorem refines_subscribe (hsound : core.Sound) (hlawful : core.world.Lawful) :
    Refines core (.subscribe connection spaceKey) := by
  apply refines_of_ends
  apply (subscribe_ends hsound.consistent).mono
  · rintro _ _ ⟨⟨-, -, ⟨principal, hprincipal, hnamespace, hsession, hspace⟩, hmember, hroom⟩, rfl⟩
    have hreads : core.world.Acts connection fun principal => principal.ReadsSpace spaceKey :=
      acts_of_authenticated hprincipal ⟨⟨hnamespace, hsession⟩, hspace⟩
    split
    · rename_i hin
      obtain ⟨-, hthere, -⟩ := hlawful.reads connection spaceKey hin
      have hsame : insert (connection, spaceKey) core.world.reads = core.world.reads :=
        Set.insert_eq_of_mem hin
      have hstep := @World.Step.subscribe core.authenticator core.world connection spaceKey hmember
        hthere hreads
      rwa [hsame] at hstep
    · rename_i hnew
      obtain ⟨descriptor, hfound⟩ := OrderedMap.exists_of_mem (hroom hnew).2
      rw [world_subscribe (mem_connections_of_membership hmember)]
      exact .subscribe connection spaceKey hmember
        (Option.isSome_iff_exists.mpr ⟨descriptor, hfound⟩) hreads
  · rintro _ _ ⟨-, rfl⟩
    exact refused

theorem refines_unsubscribe : Refines core (.unsubscribe connection spaceKey) := by
  apply refines_of_ends
  simp [Op.call, unsubscribe, refused]
  intro _ _ _ _ _ state hstate
  have hlive := OrderedMap.mem_of_getElem? hstate
  have hstep := @World.Step.unsubscribe core.authenticator core.world connection spaceKey
  constructor
  · intro hsubscribed
    rwa [← world_unsubscribe hlive] at hstep
  · intro hnone
    have hblind : (connection, spaceKey) ∉ core.world.reads := by
      show spaceKey ∉ (core.connectionAt connection).subscriptions
      rwa [connectionAt_of_some hstate]
    rwa [Set.sdiff_singleton_eq_self hblind] at hstep

theorem refines_leaveSession (hsound : core.Sound) (hlawful : core.world.Lawful)
    (now : Instant) : Refines core (.leaveSession connection key now) := by
  apply refines_of_ends
  simp only [Op.call, ends_bind, ends_pure]
  apply leaveSession_ends.mono
  · rintro _ _ ⟨hallowed, rfl, -⟩
    rw [world_leave hsound.consistent hlawful hallowed.member]
    exact .leaveSession connection key now hallowed.member
  · rintro _ _ ⟨-, rfl⟩
    exact refused

theorem refines_transportLost (hsound : core.Sound) (hlawful : core.world.Lawful)
    (clock : ReleaseClock) : Refines core (.transportLost connection clock) := by
  apply refines_of_ends
  simp only [Op.call, ends_bind, ends_pure]
  apply transportLost_ends
  · exact fun _ _ => refused
  · intro _ hlive
    rw [world_lose hsound hlawful]
    exact .transportLost connection clock hlive

/-! ## Entities -/

theorem refines_spawnEntity (hsound : core.Sound) (epoch : SpaceEpoch) :
    Refines core (.spawnEntity connection spaceKey epoch) := by
  apply refines_of_ends
  simp [Op.call, spawnEntity, refused, withSession, withConnection, requireNamespaceWrite,
    requireSessionWrite, requireSpaceWrite, requireMembership_eq_ok, requireSubscription_eq_ok]
  intro _ _ _ _ principal hprincipal hnamespace hsession hspace _ _ _ state hstate hreads _ _ _
    session hkey descriptor hdescriptor hepoch _ next hnext
  obtain rfl : next = core.nextEntityId + 1 := by
    simp [checkedSucc] at hnext
    exact hnext.2.symm
  have hlive := OrderedMap.mem_of_getElem? hstate
  obtain rfl := connectionAt_of_some hstate
  refine ⟨fun _ _ => ⟨fun _ _ => ?_, fun hgone => absurd hlive hgone⟩,
    fun hgone => absurd (OrderedMap.mem_of_getElem? hkey) hgone⟩
  have hstep : core.world.Step core.authenticator (.spawnEntity connection spaceKey epoch, true)
      (core.spawn connection spaceKey epoch principal).world := by
    rw [world_spawn (OrderedMap.mem_of_getElem? hkey)]
    refine .spawnEntity connection spaceKey epoch _ principal (world_principal hprincipal)
      ⟨hnamespace, hsession, hspace⟩ hreads ⟨descriptor, ?_, hepoch⟩ fun k => ?_
    · obtain rfl := sessionAt_of_some hkey
      exact hdescriptor
    · exact ExtTreeMap.getElem?_eq_none fun hin =>
        Nat.lt_irrefl _ (hsound.consistent.entityIds k _ hin).2
  exact hstep

theorem refines_updateEntityPosition (id : EntityId) (position : EntityPosition) :
    Refines core (.updateEntityPosition connection key id position) := by
  apply refines_of_ends
  simp [Op.call, updateEntityPosition, refused, withSession, withEntity, requireNamespaceWrite,
    requireSessionWrite, requireSpaceWrite, requireMembership_eq_ok, requireSubscription_eq_ok,
    - Option.bind_eq_none_iff]
  intro _ _ _ _ principal hprincipal hnamespace hsession _ _ _ session hkey record hrecord howner
    hspace state hstate hreads descriptor _
  cases hvalid : position.validateForFrame descriptor.localFrame with
  | error error => simp [refused]
  | ok _ =>
    simp [refused, - Option.bind_eq_none_iff]
    intro cell _ _ _
    rw [mem_entities_modifySession hkey (by rw [SessionState.moveToCell_eq]), hrecord]
    simp only [Option.some.injEq, reduceCtorEq, false_implies, and_true]
    rintro _ rfl
    obtain rfl := sessionAt_of_some hkey
    obtain rfl := connectionAt_of_some hstate
    rw [modifySession_modifySession, world_move (OrderedMap.mem_of_getElem? hkey) hrecord]
    exact .updateEntityPosition connection key id position record hrecord howner hreads
      (acts_of_authenticated hprincipal ⟨hnamespace, hsession, hspace⟩)

theorem refines_removeEntity (hsound : core.Sound) (hlawful : core.world.Lawful) (id : EntityId) :
    Refines core (.removeEntity connection key id) := by
  apply refines_of_ends
  simp only [Op.call, ends_bind, ends_pure]
  apply removeEntity_ends.mono
  · rintro _ _ ⟨⟨-, -, -, -, hmember, record, hrecord, howner⟩, rfl, -⟩
    rw [world_removeEntity hsound.consistent hlawful (hsound.consistent.mem_sessions hmember)]
    exact .removeEntity connection key id record hrecord howner
  · rintro _ _ ⟨-, rfl⟩
    exact refused

/-- A move between spaces is checked to have the right to write where it goes. -/
theorem acts_of_checkTransition {request : EntityTransitionRequest}
    (h : core.checkTransition request = .ok ()) :
    core.world.Acts request.connection fun principal =>
      principal.WritesSpace ⟨request.session, request.destinationSpace⟩ := by
  simp only [checkTransition, Except.bind_eq_ok, requireNamespaceWrite, requireSessionWrite,
    requireSpaceWrite, requireGrant_eq_ok] at h
  obtain ⟨-, -, -, -, -, -, -, -, -, -, -, -, -, -, principal, hprincipal, -, hnamespace, -,
    hsession, -, -, -, hspace, -⟩ := h
  exact acts_of_authenticated hprincipal ⟨hnamespace, hsession, hspace⟩

theorem refines_transitionEntity (hlawful : core.world.Lawful)
    (request : EntityTransitionRequest) : Refines core (.transitionEntity request) := by
  apply refines_of_ends
  simp only [Op.call, ends_bind, ends_pure]
  apply transitionEntity_ends.mono
  · rintro _ _ ⟨hchecked, ⟨hsame, rfl⟩ | ⟨hmoves, rfl⟩⟩
    · exact .transitionWithin request hsame
    · obtain ⟨record, hrecord⟩ := checkTransition_eq_ok hchecked
      rw [world_transition hlawful hrecord hmoves]
      exact .transitionEntity request record hrecord.found hrecord.owner hrecord.space
        hrecord.destination hrecord.subscribed (acts_of_checkTransition hchecked) hmoves
  · rintro _ _ ⟨-, rfl⟩
    exact refused

/-! ## Publications -/

theorem world_limited {limiter : ConnectionRateLimiter} :
    (core.limited connection limiter).world = core.world :=
  world_modifyConnection (fun _ => rfl) (fun _ => rfl) fun _ => rfl

theorem publishes_of_valid {message : AuthorizedMessage} {planned : ExtTreeMap SequenceKey Nat}
    (h : core.Valid connection key message planned) : core.world.Publishes key message := by
  obtain ⟨channel, hfound, hdelivery, hpersistence, hsize⟩ := h.channel
  exact ⟨h.scope, channel, hfound, hdelivery, hpersistence, hsize.trans (Nat.min_le_right _ _)⟩

theorem acts_of_planPublish {request : PublishRequest} {call : Nat} {plan : PublishPlan}
    (h : core.planPublish request call = .ok plan) :
    core.world.Acts request.connection fun principal =>
      principal.WritesSpace ⟨request.session, request.space⟩ ∧
        principal.grants.canWriteChannel ⟨request.session, request.channel⟩ = true := by
  simp only [planPublish, checkPublish, Except.bind_eq_ok, requireNamespaceWrite,
    requireSessionWrite, requireSpaceWrite, requireGrant_eq_ok] at h
  obtain ⟨-, ⟨-, -, principal, hprincipal, -, hnamespace, -, hsession, -, hspace, -, hchannel, -⟩,
    -⟩ := h
  exact acts_of_authenticated hprincipal ⟨⟨hnamespace, hsession, hspace⟩, hchannel⟩

/-- The messages of a plan are what the authority of the channel has decided on. -/
theorem decides_of_planPublish {request : PublishRequest} {call : Nat} {plan : PublishPlan}
    (h : core.planPublish request call = .ok plan) :
    core.world.Decides request call plan.messages := by
  simp only [planPublish, Except.bind_eq_ok, Except.ite_eq_ok, Except.throw_bind,
    Except.throw_ne_ok, Except.pure_eq_ok, and_false, false_or] at h
  obtain ⟨⟨principal, channel⟩, hcheck, authorized, hauthorized, -, -, -, -, -, -, -, rfl⟩ := h
  obtain ⟨hprincipal, -, -, hchannel, -⟩ := checkPublish_eq_ok hcheck
  refine ⟨channel, principal, hchannel, world_principal hprincipal, ?_⟩
  have hcontext : core.world.authorityContext request principal =
      core.authorityContext request principal := by
    unfold World.authorityContext WovenCore.authorityContext
    simp only [entities_bind]
    rfl
  rw [hcontext]
  cases houtcome : channel.authority.evaluate call (core.authorityContext request principal)
      (proposedMessage request) with
  | accept =>
    rw [houtcome] at hauthorized
    obtain rfl := Except.ok.inj hauthorized
    exact .accept
  | reject reason =>
    rw [houtcome] at hauthorized
    cases hauthorized
  | transform transformed =>
    rw [houtcome] at hauthorized
    obtain rfl := Except.ok.inj hauthorized
    exact .transform transformed
  | emit emissions =>
    rw [houtcome, authorizedPlan] at hauthorized
    split at hauthorized
    · cases hauthorized
    · obtain rfl := Except.ok.inj hauthorized
      exact .emit emissions

/-- The fan-out touches nothing but queues. -/
theorem world_fannedOut {op : Op} {expected : ConnectionId → List OutboundMessage} {fan : FanOut}
    {fanned : WovenCore} (h : FannedOut op key core expected fan fanned) :
    fanned.world = core.world := by
  refine world_of_connections ?_ ?_ h.live ?_ ?_ ?_
  · rw [h.tables]
  · rw [h.tables]
  all_goals
    intro c
    rw [h.connections]

/-- Whoever is found slow has been owed a critical message: no queue holds more than it may. -/
theorem owed_of_foundSlow (hsound : core.Sound)
    (hbounded : (core.connectionAt connection).outbound.critical.length ≤
      (core.connectionAt connection).outbound.config.criticalCapacity)
    {messages : List OutboundMessage} {fan : FanOut}
    (hfound : FoundSlow core (fun c => messages.filter (core.owes key c)) fan)
    (hslow : connection ∈ fan.disconnected) :
    ∃ message ∈ messages, message.delivery.isCritical = true ∧
      (connection, ⟨key, message.space⟩) ∈ core.world.reads := by
  have hover := hfound connection hslow
  obtain ⟨message, hmessage⟩ : ∃ message, message ∈ messages.filter (core.owes key connection) := by
    apply List.exists_mem_of_length_pos
    dsimp only at hover
    omega
  obtain ⟨hin, howes⟩ := List.mem_filter.mp hmessage
  simp only [owes, Bool.and_eq_true, ExtTreeSet.contains_iff_mem] at howes
  obtain ⟨hcritical, hsubscribed, -⟩ := howes
  exact ⟨message, hin, hcritical, (hsound.consistent.subscription _ _ _).mp hsubscribed⟩

theorem refines_publishAt (h : Reachable core) (hlawful : core.world.Lawful)
    (request : PublishRequest) (now : Instant) (call : Nat) (clock : ReleaseClock) :
    Refines core (.publishAt request now call clock) := by
  apply refines_of_ends
  simp only [Op.call, publishAt, ends_bind, ends_lift, ends_get, ends_pure]
  refine ⟨fun _ _ => ?_, fun _ _ => refused⟩
  apply admitPublish_ends fun _ => refused
  intro limiter _
  have hlimit : Change (.publishAt request now call clock) core
      (core.limited request.connection limiter) := .limit request now call clock limiter
  have hsound := hlimit.sound h.sound
  refine ⟨fun plan hplan => ?_, fun _ _ => by rw [world_limited]; exact refused⟩
  have hcommit : Change (.publishAt request now call clock)
      (core.limited request.connection limiter)
      ((core.limited request.connection limiter).commitPlan request.session plan) :=
    .commit request now call clock plan hplan
  have hcommitted := hcommit.sound hsound
  have hplanned := planPublish_eq_ok hplan
  have hworld : ((core.limited request.connection limiter).commitPlan request.session
      plan).world = core.world.store request.session plan.messages := by
    rw [world_commitPlan hplanned.session, world_limited]
  have hpublishes : ∀ message ∈ plan.messages, core.world.Publishes request.session message := by
    intro message hmessage
    obtain ⟨_, hvalid⟩ := hplanned.messages message hmessage
    exact world_limited ▸ publishes_of_valid hvalid
  refine (commitPublish_ends (Q := fun _ core' => core.world.Step core.authenticator
    (.publishAt request now call clock, true) core'.world) now hsound hplan ?_).mono
    (fun _ _ => id) fun _ _ => False.elim
  intro fan fanned outcome hfanned hfound _
  have hfannedWorld := (world_fannedOut hfanned).trans hworld
  rw [world_loseAll (hfanned.changes.sound hcommitted)
    (hfannedWorld ▸ hlawful.store hpublishes), hfannedWorld]
  refine .publishAt request now call clock plan.messages _ ?_ ?_ ?_ ?_ hpublishes ?_
  · exact world_limited ▸ hplanned.subscribed
  · exact world_limited ▸ acts_of_planPublish hplan
  · exact world_limited ▸ publishes_of_valid hplanned.proposed
  · exact world_limited ▸ decides_of_planPublish hplan
  · intro c hc
    have hbounded := ((Changes.single hlimit).tail hcommit).critical_le h.sound h.critical_le c
    obtain ⟨message, hmessage, hcritical, hreads⟩ :=
      owed_of_foundSlow hcommitted hbounded hfound (ExtTreeSet.mem_toList.mp hc)
    obtain ⟨authorized, hauthorized, rfl⟩ := List.mem_map.mp hmessage
    refine ⟨authorized, hauthorized, hcritical, ?_⟩
    rw [hworld] at hreads
    exact hreads

/-! ## Every operation -/

theorem refines_step (h : Reachable core) (hlawful : core.world.Lawful) (op : Op) :
    Refines core op := by
  have hsound := h.sound
  cases op with
  | registerChannel channel => exact refines_registerChannel channel
  | provisionSession key => exact refines_provisionSession key
  | installSpace key descriptor => exact refines_installSpace key descriptor
  | advanceSpaceEpoch key space proposed =>
    exact refines_advanceSpaceEpoch hsound hlawful key space proposed
  | transportConnected => exact refines_transportConnected hsound
  | authenticate connection credentials => exact refines_authenticate credentials
  | joinSession connection key => exact refines_joinSession hlawful
  | joinSessionWithAdmission connection key lease =>
    exact refines_joinSessionWithAdmission h.held hlawful lease
  | leaveSession connection key now => exact refines_leaveSession hsound hlawful now
  | subscribe connection spaceKey => exact refines_subscribe hsound hlawful
  | unsubscribe connection spaceKey => exact refines_unsubscribe
  | spawnEntity connection spaceKey epoch => exact refines_spawnEntity hsound epoch
  | updateEntityPosition connection key id position =>
    exact refines_updateEntityPosition id position
  | removeEntity connection key id => exact refines_removeEntity hsound hlawful id
  | transitionEntity request => exact refines_transitionEntity hlawful request
  | publishAt request now call clock => exact refines_publishAt h hlawful request now call clock
  | transportLost connection clock => exact refines_transportLost hsound hlawful clock
  | _ => exact refines_of_elsewhere hsound trivial

end Operations

theorem world_initial {core : WovenCore} (h : Initial core) : core.world = World.empty := by
  obtain ⟨authenticator, config, hnew⟩ := h
  simp only [WovenCore.new, Except.bind_eq_ok, Except.pure_eq_ok] at hnew
  obtain ⟨_, _, rfl⟩ := hnew
  unfold world sessionAt connectionAt World.empty
  simp

theorem authenticator_step {core : WovenCore} (h : core.Sound) (op : Op) :
    (step core op).authenticator = core.authenticator := by
  refine (changes_step h op).invariant (P := fun after => after.authenticator = core.authenticator)
    ?_ rfl
  intro before after hchange hsame
  refine Eq.trans ?_ hsame
  cases hchange with
  | leave connection key reason now asked member =>
    show (before.releaseSessionAdmission connection key reason now).authenticator = _
    rw [releaseSessionAdmission_eq]
  | releasePending connection key now asked =>
    rw [releasePendingAdmission_eq]
  | _ => rfl

/-- Every run of the core, with the success of each operation, is a run of the world, which is
lawful in every state of it. -/
theorem run_refines {core : WovenCore} (h : Initial core) (ops : List Op) :
    Refinement.Run (World.Step core.authenticator) World.empty
        (Refinement.observed step answers core ops) (Transition.run step core ops).world ∧
      (Transition.run step core ops).world.Lawful := by
  have hrun : Refinement.Run (World.Step core.authenticator) core.world
      (Refinement.observed step answers core ops) (Transition.run step core ops).world := by
    refine @Refinement.run_of_simulation _ _ _ _ step answers (World.Step core.authenticator)
      WovenCore.world (fun after => Reachable after ∧ after.world.Lawful ∧
        after.authenticator = core.authenticator) ?_ ?_ core ?_ ops
    · rintro before op ⟨hreachable, hlawful, hsame⟩
      exact ⟨hreachable.next op, (refines_step hreachable hlawful op).lawful hlawful,
        (authenticator_step hreachable.sound op).trans hsame⟩
    · rintro before op ⟨hreachable, hlawful, hsame⟩
      exact hsame ▸ refines_step hreachable hlawful op
    · exact ⟨.start h, world_initial h ▸ World.lawful_empty, rfl⟩
  rw [world_initial h] at hrun
  refine ⟨hrun, hrun.invariant ?_ World.lawful_empty⟩
  exact fun _ _ _ hlawful hstep => hstep.lawful hlawful

namespace Sample

/-- A second connection lives in the space that the entity of the first one anchors, until the
first one leaves. -/
def toppled : List Op :=
  nested ++ [ .transportConnected, .authenticate ⟨2⟩ ⟨"bb"⟩, .joinSession ⟨2⟩ session,
    .subscribe ⟨2⟩ (spaceKey 2), .spawnEntity ⟨2⟩ (spaceKey 2) ⟨1⟩, .leaveSession ⟨1⟩ session 0,
    .removeEntity ⟨2⟩ session ⟨2⟩ ]

end Sample

theorem run_refines_toppled :
    let after := Transition.run step Sample.core Sample.toppled
    (Refinement.observed step answers Sample.core Sample.toppled).map Prod.snd =
        List.replicate 15 true ++ [false] ∧
      after.world.space (Sample.spaceKey 2) = none ∧
        after.world.entity Sample.session ⟨2⟩ = none ∧
          Refinement.Run (World.Step Sample.authenticator) World.empty
            (Refinement.observed step answers Sample.core Sample.toppled) after.world ∧
              after.world.Lawful :=
  ⟨by decide +kernel, by decide +kernel, by decide +kernel,
    (run_refines Sample.initial Sample.toppled).1, (run_refines Sample.initial Sample.toppled).2⟩

end Signalweave
