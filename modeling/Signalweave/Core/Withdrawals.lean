import Signalweave.Core.Identities
import Signalweave.Core.Lawful

/-!
# What the core takes away is what falls

The removal loop of the core starts from some entities of a session. In the world of the core
these are the entities that lose their support, and what the loop collects is what falls with
them: so a removal, a leave, a lost connection and the advance of an epoch all leave the world
settled.
-/

open Std

namespace Signalweave

open WovenCore

/-- The world that a core keeps. -/
def WovenCore.world (core : WovenCore) : World where
  channel id := core.channels[id]?
  session := {key | key ∈ core.sessions}
  online := {connection | connection ∈ core.connections}
  principal connection := (core.connectionAt connection).authenticated
  member := {pair | pair.2 ∈ (core.connectionAt pair.1).memberships}
  reads := {pair | pair.2 ∈ (core.connectionAt pair.1).subscriptions}
  space spaceKey := (core.sessionAt spaceKey.session).spaces[spaceKey.space]?
  entity key id := (core.sessionAt key).entities[id]?
  value key stateKey := (core.sessionAt key).state[stateKey]?

section Withdrawals

variable {core core' : WovenCore} {w : World} {connection c : ConnectionId} {key k : SessionKey}
  {id : EntityId} {initial : ExtTreeSet EntityId} {spaceKey : SpaceKey} {now : Instant}
  {reason : ReleaseReason}

/-! ## Doomed and falling -/

/-- The world differs from that of the core in that entities of a session have lost their
support: those the removal starts from. -/
structure Unsupports (core : WovenCore) (w : World) (key : SessionKey)
    (initial : ExtTreeSet EntityId) : Prop where
  spaces : ∀ spaceKey, (w.space spaceKey).map SpaceDescriptor.parent =
    (core.world.space spaceKey).map SpaceDescriptor.parent
  entities : ∀ key id record, w.entity key id = some record →
    core.world.entity key id = some record
  gone : ∀ k id, (core.world.entity k id).isSome →
    (w.Gone (.entity k id) ↔ k = key ∧ id ∈ initial)

theorem Unsupports.nested' (h : Unsupports core w key initial) {descriptor : SpaceDescriptor}
    {parent : ParentAnchor} (hfound : w.space spaceKey = some descriptor)
    (hnested : descriptor.parent = some parent) :
    ∃ before, core.world.space spaceKey = some before ∧ before.parent = some parent := by
  have hparent := h.spaces spaceKey
  rw [hfound] at hparent
  obtain ⟨before, hbefore, hsame⟩ := Option.map_eq_some_iff.mp hparent.symm
  exact ⟨before, hbefore, hsame.trans hnested⟩

theorem Unsupports.nested (h : Unsupports core w key initial) {parent : ParentAnchor}
    {before : SpaceDescriptor} (hfound : core.world.space spaceKey = some before)
    (hnested : before.parent = some parent) :
    ∃ descriptor, w.space spaceKey = some descriptor ∧ descriptor.parent = some parent := by
  have hparent := h.spaces spaceKey
  rw [hfound] at hparent
  obtain ⟨descriptor, hdescriptor, hsame⟩ := Option.map_eq_some_iff.mp hparent
  exact ⟨descriptor, hdescriptor, hsame.trans hnested⟩

/-- An entity of the world falls when it has lost its support or its space falls. -/
theorem Unsupports.falls_entity (h : Unsupports core w key initial) {record : EntityRecord}
    (hfound : core.world.entity key id = some record)
    (hfalls : w.Falls (.space ⟨key, record.space⟩)) : w.Falls (.entity key id) := by
  cases hafter : w.entity key id with
  | none => exact .of_gone fun after hsome => by cases hafter.symm.trans hsome
  | some after =>
    cases (h.entities key id after hafter).symm.trans hfound
    exact .of_rests (.place hafter) hfalls

/-- A doomed space falls. -/
theorem Unsupports.falls_of_doomed (h : Unsupports core w key initial)
    (hlawful : core.world.Lawful) {space : SpaceId}
    (hdoomed : DoomedSpace (core.sessionAt key) initial space) :
    w.Falls (.space ⟨key, space⟩) := by
  induction hdoomed with
  | @anchor id before parent found nested removed =>
    have hthere := (hlawful.anchored ⟨key, id⟩ before parent found nested).2
    obtain ⟨descriptor, hfound, hnested⟩ := @Unsupports.nested _ _ _ _ ⟨key, id⟩ h _ _ found nested
    exact .of_rests (.anchor hfound hnested) (.of_gone ((h.gone key _ hthere).mpr ⟨rfl, removed⟩))
  | @anchorSpace id before parent record found nested located _ ih =>
    obtain ⟨descriptor, hfound, hnested⟩ := @Unsupports.nested _ _ _ _ ⟨key, id⟩ h _ _ found nested
    exact .of_rests (.anchor hfound hnested) (h.falls_entity located ih)
  | @parentSpace id before parent found nested _ ih =>
    obtain ⟨descriptor, hfound, hnested⟩ := @Unsupports.nested _ _ _ _ ⟨key, id⟩ h _ _ found nested
    exact .of_rests (.parent hfound hnested) ih

/-- The removal loop collects the thing. -/
def WovenCore.Dooms (core : WovenCore) (key : SessionKey) (initial : ExtTreeSet EntityId) :
    Thing → Prop
  | .space spaceKey =>
    spaceKey.session = key ∧ DoomedSpace (core.sessionAt key) initial spaceKey.space
  | .entity k id => k = key ∧ DoomedEntity (core.sessionAt key) initial id

/-- What is there and falls is doomed. -/
theorem Unsupports.doomed_of_falls (h : Unsupports core w key initial)
    (hlawful : core.world.Lawful) {thing : Thing} (hfalls : w.Falls thing)
    (hthere : core.world.Has thing) : core.Dooms key initial thing := by
  refine hfalls.rec_on (P := fun thing => core.world.Has thing → core.Dooms key initial thing)
    ?_ ?_ hthere
  · rintro (spaceKey | ⟨k, id⟩) hgone hthere
    · have hparent := h.spaces spaceKey
      obtain ⟨before, hbefore⟩ := Option.isSome_iff_exists.mp hthere
      rw [show w.space spaceKey = none from hgone, hbefore] at hparent
      cases hparent
    · obtain ⟨rfl, hin⟩ := (h.gone k id hthere).mp hgone
      exact ⟨rfl, .inl hin⟩
  · rintro _ _ (⟨found⟩ | ⟨found, nested⟩ | ⟨found, nested⟩) - ih -
    · have hbefore := h.entities _ _ _ found
      obtain ⟨-, descriptor, hspace, -⟩ := hlawful.supported _ _ _ hbefore
      obtain ⟨rfl, hdoomed⟩ := ih (Option.isSome_iff_exists.mpr ⟨descriptor, hspace⟩)
      exact ⟨rfl, .inr ⟨_, hbefore, hdoomed⟩⟩
    · obtain ⟨before, hbefore, hnested⟩ := h.nested' found nested
      obtain ⟨rfl, hin | ⟨record, hrecord, hdoomed⟩⟩ :=
        ih (hlawful.anchored _ before _ hbefore hnested).2
      · exact ⟨rfl, .anchor hbefore hnested hin⟩
      · exact ⟨rfl, .anchorSpace hbefore hnested hrecord hdoomed⟩
    · obtain ⟨before, hbefore, hnested⟩ := h.nested' found nested
      obtain ⟨rfl, hdoomed⟩ := ih (hlawful.anchored _ before _ hbefore hnested).1
      exact ⟨rfl, .parentSpace hbefore hnested hdoomed⟩

theorem Unsupports.falls_space_iff (h : Unsupports core w key initial)
    (hlawful : core.world.Lawful) (hthere : (core.world.space spaceKey).isSome) :
    w.Falls (.space spaceKey) ↔ core.Dooms key initial (.space spaceKey) := by
  refine ⟨fun hfalls => h.doomed_of_falls hlawful hfalls hthere, ?_⟩
  rintro ⟨rfl, hdoomed⟩
  exact h.falls_of_doomed hlawful hdoomed

theorem Unsupports.falls_entity_iff (h : Unsupports core w key initial)
    (hlawful : core.world.Lawful) (hthere : (core.world.entity k id).isSome) :
    w.Falls (.entity k id) ↔ core.Dooms key initial (.entity k id) := by
  refine ⟨fun hfalls => h.doomed_of_falls hlawful hfalls hthere, ?_⟩
  rintro ⟨rfl, hin | ⟨record, hrecord, hdoomed⟩⟩
  · exact .of_gone ((h.gone k id hthere).mpr ⟨rfl, hin⟩)
  · exact h.falls_entity hrecord (h.falls_of_doomed hlawful hdoomed)

/-! ## What a removal leaves -/

/-- What is doomed has gone from the tables of the sessions, and nothing else has. -/
structure Drops (core core' : WovenCore) (key : SessionKey) (initial : ExtTreeSet EntityId) :
    Prop where
  spaces : ∀ spaceKey descriptor, core'.world.space spaceKey = some descriptor ↔
    core.world.space spaceKey = some descriptor ∧ ¬ core.Dooms key initial (.space spaceKey)
  entities : ∀ k id record, core'.world.entity k id = some record ↔
    core.world.entity k id = some record ∧ ¬ core.Dooms key initial (.entity k id)
  values : ∀ k stateKey record, core'.world.value k stateKey = some record ↔
    core.world.value k stateKey = some record ∧
      ¬ core.Dooms key initial (.space ⟨k, stateKey.space⟩) ∧
        ∀ id, stateKey.entity = some id → ¬ core.Dooms key initial (.entity k id)

theorem drops_dropRemoved (h : core.Consistent) (hkey : key ∈ core.sessions)
    (initial : ExtTreeSet EntityId) :
    Drops core (core.dropRemoved key (core.removalOf key initial)) key initial := by
  have hkeyed := (h.session key).keyed
  rw [removalOf_of_mem hkey]
  refine ⟨?_, ?_, ?_⟩
  · intro spaceKey descriptor
    show ((core.dropRemoved key _).sessionAt spaceKey.session).spaces[spaceKey.space]? = _ ↔
      (core.sessionAt spaceKey.session).spaces[spaceKey.space]? = _ ∧ ¬ (_ ∧ _)
    rw [sessionAt_dropRemoved, ← SessionState.mem_cascade_spaces hkeyed]
    by_cases hk : spaceKey.session = key
    · rw [if_pos ⟨hk, hkey⟩, SessionState.dropRemoved_spaces]
      split <;> simp_all
    · rw [if_neg fun hand => hk hand.1]
      simp [hk]
  · intro k id record
    show ((core.dropRemoved key _).sessionAt k).entities[id]? = _ ↔
      (core.sessionAt k).entities[id]? = _ ∧ ¬ (_ ∧ _)
    rw [sessionAt_dropRemoved, ← SessionState.mem_cascade_entities hkeyed]
    by_cases hk : k = key
    · rw [if_pos ⟨hk, hkey⟩, SessionState.mem_dropRemoved_entities]
      simp [hk]
    · rw [if_neg fun hand => hk hand.1]
      simp [hk]
  · intro k stateKey record
    show ((core.dropRemoved key _).sessionAt k).state[stateKey]? = _ ↔
      (core.sessionAt k).state[stateKey]? = _ ∧ ¬ (_ ∧ _) ∧ ∀ id, _ → ¬ (_ ∧ _)
    rw [sessionAt_dropRemoved, ← SessionState.mem_cascade_spaces hkeyed]
    simp only [← SessionState.mem_cascade_entities hkeyed]
    by_cases hk : k = key
    · rw [if_pos ⟨hk, hkey⟩, SessionState.dropRemoved_state, OrderedMap.getElem?_filter,
        SessionState.keptBy_iff]
      simp [hk]
    · rw [if_neg fun hand => hk hand.1]
      simp [hk]

/-- The tables of connections, sessions and channels are all the world is made of. -/
theorem world_congr (hconnections : core'.connections = core.connections)
    (hsessions : core'.sessions = core.sessions) (hchannels : core'.channels = core.channels) :
    core'.world = core.world := by
  unfold world sessionAt connectionAt
  rw [hconnections, hsessions, hchannels]

theorem world_of_connections (hsessions : core'.sessions = core.sessions)
    (hchannels : core'.channels = core.channels)
    (hlive : ∀ c, c ∈ core'.connections ↔ c ∈ core.connections)
    (hauthenticated : ∀ c, (core'.connectionAt c).authenticated =
      (core.connectionAt c).authenticated)
    (hmemberships : ∀ c, (core'.connectionAt c).memberships = (core.connectionAt c).memberships)
    (hsubscriptions : ∀ c, (core'.connectionAt c).subscriptions =
      (core.connectionAt c).subscriptions) : core'.world = core.world := by
  unfold world sessionAt
  simp only [hsessions, hchannels, hlive, hauthenticated, hmemberships, hsubscriptions]

/-- What the queues hold is not of the world. -/
theorem world_mapConnections {g : ConnectionId → ConnectionState → ConnectionState}
    (hauthenticated : ∀ c state, (g c state).authenticated = state.authenticated)
    (hmemberships : ∀ c state, (g c state).memberships = state.memberships)
    (hsubscriptions : ∀ c state, (g c state).subscriptions = state.subscriptions) :
    (core.mapConnections g).world = core.world := by
  apply world_of_connections
  · rfl
  · rfl
  · exact fun _ => mem_connections_mapConnections
  all_goals
    intro c
    rw [connectionAt_mapConnections]
    split
  · exact hauthenticated c _
  · rfl
  · exact hmemberships c _
  · rfl
  · exact hsubscriptions c _
  · rfl

theorem world_modifyConnection {g : ConnectionState → ConnectionState}
    (hauthenticated : ∀ state, (g state).authenticated = state.authenticated)
    (hmemberships : ∀ state, (g state).memberships = state.memberships)
    (hsubscriptions : ∀ state, (g state).subscriptions = state.subscriptions) :
    (core.modifyConnection connection g).world = core.world := by
  apply world_of_connections
  · rfl
  · rfl
  · exact fun _ => mem_connections_modifyConnection
  all_goals
    intro c
    rw [connectionAt_modifyConnection]
    split
  · exact hauthenticated _
  · rfl
  · exact hmemberships _
  · rfl
  · exact hsubscriptions _
  · rfl

theorem world_purgeOutbound {p : OutboundMessage → Bool} :
    (core.mapConnections fun _ state => state.purgeOutbound p).world = core.world :=
  world_mapConnections (fun _ _ => rfl) (fun _ _ => rfl) fun _ _ => rfl

/-- Who belongs to a session is not among its spaces, its entities and its values. -/
theorem contents_modifySession {f : SessionState → SessionState}
    (hspaces : ∀ session, (f session).spaces = session.spaces)
    (hentities : ∀ session, (f session).entities = session.entities)
    (hstate : ∀ session, (f session).state = session.state) :
    (core.modifySession key f).world.space = core.world.space ∧
      (core.modifySession key f).world.entity = core.world.entity ∧
        (core.modifySession key f).world.value = core.world.value := by
  refine ⟨?_, ?_, ?_⟩
  · funext spaceKey
    show ((core.modifySession key f).sessionAt spaceKey.session).spaces[spaceKey.space]? = _
    rw [sessionAt_modifySession]
    split
    · rw [hspaces]
      rfl
    · rfl
  · funext k id
    show ((core.modifySession key f).sessionAt k).entities[id]? = _
    rw [sessionAt_modifySession]
    split
    · rw [hentities]
      rfl
    · rfl
  · funext k stateKey
    show ((core.modifySession key f).sessionAt k).state[stateKey]? = _
    rw [sessionAt_modifySession]
    split
    · rw [hstate]
      rfl
    · rfl

theorem drops_leave (h : core.Consistent)
    (hmember : key ∈ (core.connectionAt connection).memberships) :
    Drops core (core.leave connection key reason now) key (core.ownedIn connection key) := by
  let released := core.releaseSessionAdmission connection key reason now
  have hworld : released.world = core.world := by
    apply world_congr
    · exact connections_releaseSessionAdmission
    · exact sessions_releaseSessionAdmission
    · show (core.releaseSessionAdmission connection key reason now).channels = _
      rw [releaseSessionAdmission_eq]
  have hkey : key ∈ released.sessions := by
    rw [show released.sessions = core.sessions from sessions_releaseSessionAdmission]
    exact h.mem_sessions hmember
  have hdrops := drops_dropRemoved h.releaseSessionAdmission hkey (released.ownedIn connection key)
  have howned : released.ownedIn connection key = core.ownedIn connection key :=
    ownedIn_releaseSessionAdmission
  have hdooms : ∀ thing, released.Dooms key (released.ownedIn connection key) thing ↔
      core.Dooms key (core.ownedIn connection key) thing := by
    intro thing
    unfold Dooms
    rw [howned, show released.sessionAt key = core.sessionAt key from
      sessionAt_releaseSessionAdmission]
  obtain ⟨hspaces, hentities, hvalues⟩ := @contents_modifySession
    (released.dropRemoved key (released.removalOf key (released.ownedIn connection key))) key
    (fun session => session.leave connection) (fun _ => rfl) (fun _ => rfl) fun _ => rfl
  refine ⟨?_, ?_, ?_⟩
  · intro spaceKey descriptor
    show (core.leave connection key reason now).world.space spaceKey = _ ↔ _
    rw [← hdooms, ← hworld, ← hdrops.spaces, ← hspaces]
    rfl
  · intro k id record
    rw [← hdooms, ← hworld, ← hdrops.entities, ← hentities]
    rfl
  · intro k stateKey record
    simp only [← hdooms, ← hworld]
    rw [← hdrops.values, ← hvalues]
    rfl

/-- A core that has dropped what is doomed keeps the world that settles after the loss of
support. -/
theorem Drops.settles (hdrops : Drops core core' key initial)
    (hunsupports : Unsupports core w key initial) (hlawful : core.world.Lawful)
    (hchannel : core'.world.channel = w.channel) (hsession : core'.world.session = w.session)
    (honline : core'.world.online = w.online) (hprincipal : core'.world.principal = w.principal)
    (hmember : core'.world.member = w.member) (hspace : w.space = core.world.space)
    (hentity : ∀ k id, ¬ w.Gone (.entity k id) → w.entity k id = core.world.entity k id)
    (hreads : ∀ c s, (c, s) ∈ core'.world.reads ↔ (c, s) ∈ w.reads ∧
      (c, s.session) ∈ w.member ∧ (core'.world.space s).isSome)
    (hvalue : w.value = core.world.value) : core'.world = w.settle := by
  have hplace : ∀ {k stateKey record}, core.world.value k stateKey = some record →
      (core'.world.InPlace ⟨k, stateKey.space⟩ stateKey.spaceEpoch stateKey.entity ↔
        ¬ core.Dooms key initial (.space ⟨k, stateKey.space⟩) ∧
          ∀ id, stateKey.entity = some id → ¬ core.Dooms key initial (.entity k id)) := by
    intro k stateKey record hfound
    obtain ⟨⟨⟨descriptor, hspace, hepoch⟩, hplaced⟩, -⟩ := hlawful.value k stateKey record hfound
    constructor
    · rintro ⟨⟨after, hafter, -⟩, hstays⟩
      refine ⟨((hdrops.spaces _ _).mp hafter).2, fun id hid => ?_⟩
      obtain ⟨found, hfound, -⟩ := hstays id hid
      exact ((hdrops.entities _ _ _).mp hfound).2
    · rintro ⟨hstays, hkept⟩
      refine ⟨⟨descriptor, (hdrops.spaces _ _).mpr ⟨hspace, hstays⟩, hepoch⟩, fun id hid => ?_⟩
      obtain ⟨found, hfound, hlocated⟩ := hplaced id hid
      exact ⟨found, (hdrops.entities _ _ _).mpr ⟨hfound, hkept id hid⟩, hlocated⟩
  refine World.eq_settle hchannel hsession honline hprincipal hmember ?_ ?_ hreads ?_
  · intro spaceKey descriptor
    rw [hdrops.spaces, hspace]
    refine and_congr_right fun hfound => not_congr ?_
    exact (hunsupports.falls_space_iff hlawful (Option.isSome_iff_exists.mpr ⟨_, hfound⟩)).symm
  · intro k id record
    rw [hdrops.entities]
    constructor
    · rintro ⟨hfound, hstays⟩
      have hfalls := hunsupports.falls_entity_iff hlawful
        (Option.isSome_iff_exists.mpr ⟨record, hfound⟩)
      have hgone : ¬ w.Gone (.entity k id) := fun hgone => hstays (hfalls.mp (.of_gone hgone))
      exact ⟨(hentity k id hgone).trans hfound, fun h => hstays (hfalls.mp h)⟩
    · rintro ⟨hfound, hstands⟩
      have hbefore := hunsupports.entities k id record hfound
      refine ⟨hbefore, fun hdoomed => hstands ?_⟩
      exact (hunsupports.falls_entity_iff hlawful
        (Option.isSome_iff_exists.mpr ⟨record, hbefore⟩)).mpr hdoomed
  · intro k stateKey record
    rw [hdrops.values, hvalue, and_comm]
    exact and_congr_left fun hfound => (hplace hfound).symm

/-- A space that somebody reads stands where it is not doomed. -/
theorem Drops.stands_iff (hdrops : Drops core core' key initial) (hlawful : core.world.Lawful)
    (hreads : (c, spaceKey) ∈ core.world.reads) :
    (core'.world.space spaceKey).isSome ↔ ¬ core.Dooms key initial (.space spaceKey) := by
  obtain ⟨descriptor, hfound⟩ :=
    Option.isSome_iff_exists.mp (hlawful.reads c spaceKey hreads).2.1
  constructor
  · intro hthere
    obtain ⟨after, hafter⟩ := Option.isSome_iff_exists.mp hthere
    exact ((hdrops.spaces _ _).mp hafter).2
  · exact fun hstays =>
      Option.isSome_iff_exists.mpr ⟨descriptor, (hdrops.spaces _ _).mpr ⟨hfound, hstays⟩⟩

/-! ## A removal, a leave and a lost connection -/

/-- A removal is about no member of the session. -/
theorem people_dropRemoved {removal : Removal} :
    (core.dropRemoved key removal).world.session = core.world.session ∧
      (core.dropRemoved key removal).world.online = core.world.online ∧
        (core.dropRemoved key removal).world.principal = core.world.principal ∧
          (core.dropRemoved key removal).world.member = core.world.member := by
  refine ⟨?_, ?_, ?_, ?_⟩
  · ext k
    exact mem_sessions_dropRemoved
  · ext c
    exact mem_connections_dropRemoved
  · funext c
    exact SameHolders.dropRemoved.authenticated c
  · ext ⟨c, k⟩
    show k ∈ ((core.dropRemoved key removal).connectionAt c).memberships ↔ _
    rw [memberships_dropRemoved]
    rfl

theorem reads_dropRemoved (h : core.Consistent) (hlawful : core.world.Lawful)
    (hkey : key ∈ core.sessions) :
    (c, spaceKey) ∈ (core.dropRemoved key (core.removalOf key initial)).world.reads ↔
      (c, spaceKey) ∈ core.world.reads ∧ (c, spaceKey.session) ∈ core.world.member ∧
        ((core.dropRemoved key (core.removalOf key initial)).world.space spaceKey).isSome := by
  have hdrops := drops_dropRemoved h hkey initial
  refine mem_subscriptions_dropRemoved.trans (and_congr_right fun hreads => ?_)
  rw [hdrops.stands_iff hlawful hreads, mem_removalOf_spaces h hkey]
  exact ⟨fun hstays => ⟨(hlawful.reads c spaceKey hreads).1, fun hdoomed =>
    hstays hdoomed.1 hdoomed.2⟩, fun hstays hk hdoomed => hstays.2 ⟨hk, hdoomed⟩⟩

theorem unsupports_setEntity (hlawful : core.world.Lawful) :
    Unsupports core (core.world.setEntity key id none) key (ExtTreeSet.ofList [id]) := by
  refine ⟨fun _ => rfl, ?_, ?_⟩
  · intro k i record hfound
    unfold World.setEntity at hfound
    dsimp only at hfound
    split at hfound
    · cases hfound
    · exact hfound
  · intro k i hthere
    have hin : i ∈ ExtTreeSet.ofList [id] ↔ i = id := by
      rw [ExtTreeSet.mem_ofList, List.contains_iff_mem, List.mem_singleton]
    rw [hin]
    constructor
    · intro hgone
      by_contra hother
      obtain ⟨record, hrecord⟩ := Option.isSome_iff_exists.mp hthere
      refine hgone record ((if_neg hother).trans hrecord) ?_
      exact hlawful.supported k i record hrecord
    · rintro hsame record hrecord
      cases ((if_pos hsame).symm.trans hrecord : none = some record)

theorem world_removeEntity (h : core.Consistent) (hlawful : core.world.Lawful)
    (hkey : key ∈ core.sessions) (id : EntityId) :
    (core.dropRemoved key (core.removalOf key (ExtTreeSet.ofList [id]))).world =
      (core.world.setEntity key id none).settle := by
  obtain ⟨hsession, honline, hprincipal, hmember⟩ :=
    @people_dropRemoved core key (core.removalOf key (ExtTreeSet.ofList [id]))
  refine (drops_dropRemoved h hkey _).settles (unsupports_setEntity hlawful) hlawful rfl hsession
    honline hprincipal hmember rfl ?_ (fun _ _ => reads_dropRemoved h hlawful hkey) rfl
  intro k i hsupported
  refine if_neg fun hsame => hsupported fun record hrecord => ?_
  cases ((if_pos hsame).symm.trans hrecord : none = some record)

theorem unsupports_expel (h : core.Consistent) (hlawful : core.world.Lawful) :
    Unsupports core (core.world.expel {(connection, key)}) key (core.ownedIn connection key) := by
  refine ⟨fun _ => rfl, fun _ _ _ => id, ?_⟩
  intro k i hthere
  obtain ⟨record, hrecord⟩ := Option.isSome_iff_exists.mp hthere
  obtain ⟨hmember, hinstalled⟩ := hlawful.supported k i record hrecord
  constructor
  · intro hgone
    by_contra hother
    refine hgone record hrecord ⟨⟨hmember, ?_⟩, hinstalled⟩
    rintro ⟨rfl, rfl⟩
    exact hother ⟨rfl, (mem_ownedIn h).mpr ⟨record, hrecord, rfl⟩⟩
  · rintro ⟨rfl, hin⟩ found hfound hsupported
    obtain ⟨owned, howned, rfl⟩ := (mem_ownedIn h).mp hin
    cases hfound.symm.trans howned
    exact hsupported.1.2 rfl

theorem mem_sessions_leave :
    k ∈ (core.leave connection key reason now).sessions ↔ k ∈ core.sessions := by
  obtain ⟨removal, hleave⟩ := leave_eq core connection key reason now
  rw [hleave, dropMembership, sessions_modifyConnection, mem_sessions_modifySession,
    mem_sessions_dropRemoved, sessions_releaseSessionAdmission]

theorem world_leave (h : core.Consistent) (hlawful : core.world.Lawful)
    (hmember : key ∈ (core.connectionAt connection).memberships) :
    (core.leave connection key reason now).world =
      (core.world.expel {(connection, key)}).settle := by
  have hdrops := @drops_leave core connection key now reason h hmember
  refine hdrops.settles (unsupports_expel h hlawful) hlawful ?_ ?_ ?_ ?_ ?_ rfl
    (fun _ _ _ => rfl) ?_ rfl
  · funext id
    show (core.releaseSessionAdmission connection key reason now).channels[id]? = _
    rw [releaseSessionAdmission_eq]
    rfl
  · ext k
    exact mem_sessions_leave
  · ext c
    exact mem_connections_leave
  · funext c
    exact authenticated_leave
  · ext ⟨c, k⟩
    refine memberships_leave.trans (and_congr_right fun _ => ?_)
    rw [Set.mem_singleton_iff, Prod.mk.injEq, not_and]
  · intro c s
    refine (mem_subscriptions_leave h hmember).trans (and_congr_right fun hreads => ?_)
    have hjoined := (hlawful.reads c s hreads).1
    rw [hdrops.stands_iff hlawful hreads]
    constructor
    · intro hstays
      refine ⟨⟨hjoined, ?_⟩, ?_⟩
      · intro heq
        cases heq
        exact (hstays rfl).1 rfl
      · rintro ⟨rfl, hdoomed⟩
        exact (hstays rfl).2 hdoomed
    · rintro ⟨⟨-, hother⟩, hstays⟩ rfl
      refine ⟨?_, fun hdoomed => hstays ⟨rfl, hdoomed⟩⟩
      rintro rfl
      exact hother rfl

/-- The leaves of a list of sessions, one after the other. -/
theorem world_foldl_leave {op : Op} (hop : op.loses connection) (clock : ReleaseClock)
    (keys : List SessionKey) (hnodup : keys.Nodup) {core : WovenCore} (hsound : core.Sound)
    (hlawful : core.world.Lawful)
    (hmember : ∀ k ∈ keys, k ∈ (core.connectionAt connection).memberships) :
    (keys.foldl (fun core key => core.leave connection key .unexpected
      (clock .unexpected connection key)) core).world =
        (core.world.expel {pair | pair.1 = connection ∧ pair.2 ∈ keys}).settle := by
  induction keys generalizing core with
  | nil =>
    have hnobody : core.world.expel {pair | pair.1 = connection ∧ pair.2 ∈ []} = core.world := by
      unfold World.expel
      simp
    rw [List.foldl_nil, hnobody, hlawful.settle_eq]
  | cons key rest ih =>
    obtain ⟨hfresh, hrest⟩ := List.nodup_cons.mp hnodup
    have hin := hmember key List.mem_cons_self
    have hleft := @world_leave core connection key (clock .unexpected connection key) .unexpected
      hsound.consistent hlawful hin
    have hlawfulLeft := hlawful.lawful_settle_expel {(connection, key)}
    have hchange : Change op core (core.leave connection key .unexpected
        (clock .unexpected connection key)) :=
      .leave connection key _ _ (hop.detaches key) hin
    have hsoundLeft := hchange.sound hsound
    rw [List.foldl_cons, ih hrest hsoundLeft (hleft ▸ hlawfulLeft), hleft,
      World.settle_expel_settle, World.expel_expel]
    · congr 2
      ext ⟨c, k⟩
      simp only [Set.mem_union, Set.mem_singleton_iff, Prod.mk.injEq, Set.mem_ofPred_eq,
        List.mem_cons]
      tauto
    · intro k hk
      refine memberships_leave.mpr ⟨hmember k (List.mem_cons_of_mem _ hk), fun _ => ?_⟩
      rintro rfl
      exact hfresh hk

/-- Leases are not of the world. -/
theorem world_releasePendingAdmission :
    (core.releasePendingAdmission connection key now).world = core.world := by
  rw [releasePendingAdmission_eq]
  rfl

theorem world_losePending {clock : ReleaseClock} :
    (core.losePending connection clock).world = core.world := by
  unfold losePending
  generalize core.pendingSessions connection = keys
  induction keys generalizing core with
  | nil => rfl
  | cons key rest ih =>
    rw [List.foldl_cons, ih]
    exact world_releasePendingAdmission

/-- A connection that is no member of anything and reads nothing is forgotten. -/
theorem world_erase (hleft : ∀ k, k ∉ (core.connectionAt connection).memberships)
    (hblind : ∀ s, s ∉ (core.connectionAt connection).subscriptions) :
    WovenCore.world { core with connections := core.connections.erase connection } =
      core.world.offline {connection} := by
  have hat : ∀ c, WovenCore.connectionAt
      { core with connections := core.connections.erase connection } c =
        if c = connection then { outbound := { config := {} } } else core.connectionAt c := by
    intro c
    rw [connectionAt, OrderedMap.getElem?_erase]
    split
    · rfl
    · rfl
  refine World.ext rfl rfl ?_ ?_ ?_ ?_ rfl rfl rfl
  · ext c
    exact OrderedMap.mem_erase.trans and_comm
  · funext c
    by_cases hc : c = connection
    · rw [show (core.world.offline {connection}).principal c = none from if_pos hc]
      show (WovenCore.connectionAt _ c).authenticated = none
      rw [hat, if_pos hc]
    · rw [show (core.world.offline {connection}).principal c = _ from if_neg hc]
      show (WovenCore.connectionAt _ c).authenticated = _
      rw [hat, if_neg hc]
      rfl
  · ext ⟨c, k⟩
    show k ∈ (WovenCore.connectionAt _ c).memberships ↔ k ∈ (core.connectionAt c).memberships
    rw [hat]
    split
    · rename_i hc
      subst hc
      exact iff_of_false (by simp) (hleft k)
    · rfl
  · ext ⟨c, s⟩
    show s ∈ (WovenCore.connectionAt _ c).subscriptions ↔ s ∈ (core.connectionAt c).subscriptions
    rw [hat]
    split
    · rename_i hc
      subst hc
      exact iff_of_false (by simp) (hblind s)
    · rfl

/-- A lost connection is gone, with all that rests on it. -/
theorem world_lose (hsound : core.Sound) (hlawful : core.world.Lawful) (clock : ReleaseClock) :
    (core.lose connection clock).world = (core.world.without {connection}).settle := by
  have hop : (Op.transportLost connection clock).loses connection := rfl
  obtain ⟨hchanges, -, hleft⟩ := leaveAll_changes hop core clock
  obtain ⟨-, hconnections, -⟩ := losePending_changes hop (core.leaveAll connection clock) clock
  have hall : (core.leaveAll connection clock).world =
      (core.world.expel {pair | pair.1 ∈ ({connection} : Set ConnectionId)}).settle := by
    rw [leaveAll, world_foldl_leave hop clock _ ?_ hsound hlawful (by simp)]
    · congr 1
      refine World.ext rfl rfl rfl rfl ?_ rfl rfl rfl rfl
      ext ⟨c, k⟩
      refine and_congr_right fun hmember => not_congr ⟨And.left, ?_⟩
      rintro (rfl : c = connection)
      exact ⟨rfl, ExtTreeSet.mem_toList.mpr hmember⟩
    · exact (core.connectionAt connection).memberships.distinct_toList.imp (by simp)
  have hconsistent := (hchanges.sound hsound).consistent
  rw [World.without, World.settle_offline, ← hall,
    ← @world_losePending (core.leaveAll connection clock) connection clock]
  have hat : ((core.leaveAll connection clock).losePending connection clock).connectionAt
      connection = (core.leaveAll connection clock).connectionAt connection := by
    rw [connectionAt, hconnections, ← connectionAt]
  refine world_erase ?_ ?_
  · rw [hat]
    exact hleft
  · rw [hat]
    exact fun s hin => hleft s.session (hconsistent.subscriptionMember connection s hin)

theorem world_loseAll (hsound : core.Sound) (hlawful : core.world.Lawful) (clock : ReleaseClock)
    (lost : List ConnectionId) :
    (core.loseAll lost clock).world = (core.world.without {c | c ∈ lost}).settle := by
  induction lost generalizing core with
  | nil =>
    have hnobody : core.world.without {c | c ∈ []} = core.world := by
      unfold World.without World.expel World.offline
      simp
    rw [hnobody, hlawful.settle_eq]
    rfl
  | cons connection rest ih =>
    have hop : (Op.transportLost connection clock).loses connection := rfl
    have hlost := @world_lose core connection hsound hlawful clock
    have hlawfulLost := hlawful.lawful_settle_without {connection}
    have hsoundLost := (lose_changes hop core clock).sound hsound
    show ((core.lose connection clock).loseAll rest clock).world = _
    rw [ih hsoundLost (hlost ▸ hlawfulLost), hlost, World.settle_without_settle,
      World.without_without]
    congr 2
    ext c
    simp only [Set.mem_union, Set.mem_singleton_iff, Set.mem_ofPred_eq, List.mem_cons]

/-! ## The advance of an epoch -/

section Advance

variable {space : SpaceId} {proposed : SpaceEpoch} {descriptor : SpaceDescriptor}

theorem unsupports_setSpace (h : core.Consistent) (hlawful : core.world.Lawful)
    (hfound : core.world.space ⟨key, space⟩ = some descriptor)
    (hlater : descriptor.epoch < proposed) :
    Unsupports core (core.world.setSpace ⟨key, space⟩ { descriptor with epoch := proposed }) key
      (core.spaceEntities key space) := by
  refine ⟨?_, fun _ _ _ => id, ?_⟩
  · intro s
    unfold World.setSpace
    dsimp only
    split
    · rename_i hs
      rw [hs, hfound]
      rfl
    · rfl
  · intro k i hthere
    obtain ⟨record, hrecord⟩ := Option.isSome_iff_exists.mp hthere
    obtain ⟨hmember, found, hspace, hepoch⟩ := hlawful.supported k i record hrecord
    have hin : i ∈ core.spaceEntities key space ↔
        ∃ record, (core.sessionAt key).entities[i]? = some record ∧ record.space = space := by
      unfold spaceEntities
      rw [mem_entitiesWhere (h.session key).keyed]
      simp
    rw [hin]
    constructor
    · intro hgone
      by_contra hother
      refine hgone record hrecord ⟨hmember, found, (if_neg ?_).trans hspace, hepoch⟩
      intro hs
      cases hs
      exact hother ⟨rfl, record, hrecord, rfl⟩
    · rintro ⟨rfl, placed, hplaced, rfl⟩ other hother ⟨-, after, hafter, hcurrent⟩
      cases hother.symm.trans hplaced
      cases hrecord.symm.trans hplaced
      cases hspace.symm.trans hfound
      cases (if_pos rfl).symm.trans hafter
      -- The entity is in the incarnation that has just ended.
      rw [show descriptor.epoch = proposed from hepoch.trans hcurrent.symm] at hlater
      exact Nat.lt_irrefl _ hlater

/-- What the advance of an epoch leaves, whether the space itself has stood or not. -/
theorem world_advance (h : core.Consistent) (hlawful : core.world.Lawful)
    (hkey : key ∈ core.sessions) (hfound : core.world.space ⟨key, space⟩ = some descriptor)
    (hlater : descriptor.epoch < proposed) {mid : WovenCore}
    (hmid : mid = core.dropRemoved key (core.removalOf key (core.spaceEntities key space)))
    (hchannels : core'.channels = mid.channels)
    (hsession : core'.world.session = mid.world.session)
    (honline : core'.world.online = mid.world.online)
    (hprincipal : core'.world.principal = mid.world.principal)
    (hmember : core'.world.member = mid.world.member)
    (hreads : core'.world.reads = mid.world.reads)
    (hspaces : ∀ s, core'.world.space s = (mid.world.space s).map fun descriptor =>
      if s = ⟨key, space⟩ then { descriptor with epoch := proposed } else descriptor)
    (hentities : core'.world.entity = mid.world.entity)
    (hvalues : ∀ k stateKey record, core'.world.value k stateKey = some record ↔
      mid.world.value k stateKey = some record ∧ ¬ (k = key ∧ stateKey.space = space)) :
    core'.world =
      (core.world.setSpace ⟨key, space⟩ { descriptor with epoch := proposed }).settle := by
  have hdrops := drops_dropRemoved h hkey (core.spaceEntities key space)
  have hunsupports := unsupports_setSpace h hlawful hfound hlater
  obtain ⟨hsessionMid, honlineMid, hprincipalMid, hmemberMid⟩ :=
    @people_dropRemoved core key (core.removalOf key (core.spaceEntities key space))
  rw [← hmid] at hdrops hsessionMid honlineMid hprincipalMid hmemberMid
  refine World.eq_settle ?_ (hsession.trans hsessionMid) (honline.trans honlineMid)
    (hprincipal.trans hprincipalMid) (hmember.trans hmemberMid) ?_ ?_ ?_ ?_
  · subst hmid
    unfold world
    rw [hchannels]
    rfl
  · intro s after
    rw [hspaces, Option.map_eq_some_iff]
    show _ ↔ (if s = ⟨key, space⟩ then _ else core.world.space s) = _ ∧ _
    constructor
    · rintro ⟨before, hbefore, rfl⟩
      obtain ⟨hthere, hstays⟩ := (hdrops.spaces s before).mp hbefore
      have hfalls := hunsupports.falls_space_iff hlawful (Option.isSome_iff_exists.mpr ⟨_, hthere⟩)
      refine ⟨?_, fun h => hstays (hfalls.mp h)⟩
      split
      · rename_i hs
        subst hs
        cases hfound.symm.trans hthere
        rfl
      · exact hthere
    · rintro ⟨hafter, hstands⟩
      have hbefore : ∃ before, core.world.space s = some before ∧
          (if s = ⟨key, space⟩ then { before with epoch := proposed } else before) = after := by
        split at hafter
        · rename_i hs
          cases hafter
          exact ⟨descriptor, hs ▸ hfound, if_pos hs⟩
        · rename_i hs
          exact ⟨after, hafter, if_neg hs⟩
      obtain ⟨before, hthere, hsame⟩ := hbefore
      have hfalls := hunsupports.falls_space_iff hlawful (Option.isSome_iff_exists.mpr ⟨_, hthere⟩)
      exact ⟨before, (hdrops.spaces s before).mpr ⟨hthere, fun h => hstands (hfalls.mpr h)⟩, hsame⟩
  · intro k i record
    rw [hentities, hdrops.entities]
    refine and_congr_right fun hthere => not_congr ?_
    exact (hunsupports.falls_entity_iff hlawful (Option.isSome_iff_exists.mpr ⟨_, hthere⟩)).symm
  · intro c s
    rw [hreads, hspaces, Option.isSome_map, hmid]
    exact reads_dropRemoved h hlawful hkey
  · intro k stateKey record
    rw [hvalues, hdrops.values]
    constructor
    · rintro ⟨⟨hvalue, hstays, hkept⟩, hother⟩
      obtain ⟨⟨⟨before, hthere, hepoch⟩, hplaced⟩, -⟩ := hlawful.value k stateKey record hvalue
      refine ⟨⟨⟨before, ?_, hepoch⟩, fun id hid => ?_⟩, hvalue⟩
      · rw [hspaces, (hdrops.spaces _ _).mpr ⟨hthere, hstays⟩, Option.map_some, if_neg]
        intro hs
        cases hs
        exact hother ⟨rfl, rfl⟩
      · obtain ⟨found, hrecord, hlocated⟩ := hplaced id hid
        rw [hentities]
        exact ⟨found, (hdrops.entities _ _ _).mpr ⟨hrecord, hkept id hid⟩, hlocated⟩
    · rintro ⟨⟨⟨after, hafter, hcurrent⟩, hplaced⟩, hvalue⟩
      obtain ⟨⟨⟨before, hthere, hepoch⟩, -⟩, -⟩ := hlawful.value k stateKey record hvalue
      rw [hspaces, Option.map_eq_some_iff] at hafter
      obtain ⟨kept, hmidSpace, rfl⟩ := hafter
      obtain ⟨hsame, hstays⟩ := (hdrops.spaces _ _).mp hmidSpace
      cases hthere.symm.trans hsame
      refine ⟨⟨hvalue, hstays, fun id hid => ?_⟩, ?_⟩
      · obtain ⟨found, hrecord, -⟩ := hplaced id hid
        rw [hentities] at hrecord
        exact ((hdrops.entities _ _ _).mp hrecord).2
      · rintro ⟨rfl, rfl⟩
        cases hthere.symm.trans hfound
        -- The value belongs to the incarnation that has just ended.
        rw [if_pos rfl] at hcurrent
        rw [show descriptor.epoch = proposed from hepoch.trans hcurrent.symm] at hlater
        exact Nat.lt_irrefl _ hlater

theorem world_advanceEpoch (h : core.Consistent) (hlawful : core.world.Lawful)
    (hkey : key ∈ core.sessions) (hfound : core.world.space ⟨key, space⟩ = some descriptor)
    (hlater : descriptor.epoch < proposed) :
    ((core.dropRemoved key (core.removalOf key (core.spaceEntities key space))).advanceEpoch key
      space proposed).world =
        (core.world.setSpace ⟨key, space⟩ { descriptor with epoch := proposed }).settle := by
  generalize hmid : core.dropRemoved key (core.removalOf key (core.spaceEntities key space)) = mid
  have hprovisioned : key ∈ mid.sessions := hmid ▸ mem_sessions_dropRemoved.mpr hkey
  have hpurged : (mid.purgeSpace ⟨key, space⟩).world = mid.world := world_purgeOutbound
  have hat : ∀ k, (mid.advanceEpoch key space proposed).sessionAt k =
      if k = key then (mid.sessionAt k).advanceEpoch space proposed else mid.sessionAt k := by
    intro k
    unfold advanceEpoch purgeSpace
    rw [sessionAt_modifySession, sessionAt_mapConnections]
    simp only [sessions_mapConnections, hprovisioned, and_true]
  refine world_advance h hlawful hkey hfound hlater hmid.symm rfl ?_ ?_ ?_ ?_ ?_ ?_ ?_ ?_
  · ext k
    exact mem_sessions_modifySession
  · show (mid.purgeSpace ⟨key, space⟩).world.online = _
    rw [hpurged]
  · show (mid.purgeSpace ⟨key, space⟩).world.principal = _
    rw [hpurged]
  · show (mid.purgeSpace ⟨key, space⟩).world.member = _
    rw [hpurged]
  · show (mid.purgeSpace ⟨key, space⟩).world.reads = _
    rw [hpurged]
  · intro s
    show ((mid.advanceEpoch key space proposed).sessionAt s.session).spaces[s.space]? = _
    rw [hat]
    rcases s with ⟨k, other⟩
    show (if k = key then _ else mid.sessionAt k).spaces[other]? =
      Option.map _ ((mid.sessionAt k).spaces[other]?)
    by_cases hsame : k = key ∧ other = space
    · obtain ⟨rfl, rfl⟩ := hsame
      rw [if_pos rfl]
      show ((mid.sessionAt k).spaces.modify other _)[other]? = _
      rw [OrderedMap.getElem?_modify, if_pos rfl]
      simp
    · have hne : (⟨k, other⟩ : SpaceKey) ≠ ⟨key, space⟩ := by
        simpa using hsame
      simp only [if_neg hne, Option.map_id']
      split
      · rename_i hk
        show ((mid.sessionAt k).spaces.modify space _)[other]? = _
        rw [OrderedMap.getElem?_modify, if_neg fun hs => hsame ⟨hk, hs⟩]
      · rfl
  · funext k i
    show ((mid.advanceEpoch key space proposed).sessionAt k).entities[i]? = _
    rw [hat]
    split <;> rfl
  · intro k stateKey record
    show ((mid.advanceEpoch key space proposed).sessionAt k).state[stateKey]? = _ ↔ _
    rw [hat]
    split
    · rename_i hk
      show ((mid.sessionAt k).state.filter _)[stateKey]? = _ ↔ _
      rw [OrderedMap.getElem?_filter, decide_eq_true_eq]
      exact and_congr_right fun _ => ⟨fun hne hsame => hne hsame.2, fun hne hs => hne ⟨hk, hs⟩⟩
    · rename_i hk
      exact (and_iff_left fun hsame => hk hsame.1).symm

/-- Where the space is doomed there is nothing left to advance. -/
theorem world_purgeSpace (h : core.Consistent) (hlawful : core.world.Lawful)
    (hkey : key ∈ core.sessions) (hfound : core.world.space ⟨key, space⟩ = some descriptor)
    (hlater : descriptor.epoch < proposed)
    (hdoomed : space ∈ (core.removalOf key (core.spaceEntities key space)).spaces) :
    ((core.dropRemoved key (core.removalOf key (core.spaceEntities key space))).purgeSpace
      ⟨key, space⟩).world =
        (core.world.setSpace ⟨key, space⟩ { descriptor with epoch := proposed }).settle := by
  have hdrops := drops_dropRemoved h hkey (core.spaceEntities key space)
  have hdooms : core.Dooms key (core.spaceEntities key space) (.space ⟨key, space⟩) :=
    ⟨rfl, (mem_removalOf_spaces h hkey _).mp hdoomed⟩
  generalize hmid : core.dropRemoved key (core.removalOf key (core.spaceEntities key space)) = mid
    at hdrops ⊢
  have hpurged : (mid.purgeSpace ⟨key, space⟩).world = mid.world := world_purgeOutbound
  refine world_advance h hlawful hkey hfound hlater hmid.symm rfl ?_ ?_ ?_ ?_ ?_ ?_ ?_ ?_
  · rw [hpurged]
  · rw [hpurged]
  · rw [hpurged]
  · rw [hpurged]
  · rw [hpurged]
  · intro s
    rw [hpurged]
    cases hspace : mid.world.space s with
    | none => rfl
    | some found =>
      rw [Option.map_some, if_neg]
      rintro rfl
      exact ((hdrops.spaces _ _).mp hspace).2 hdooms
  · rw [hpurged]
  · intro k stateKey record
    rw [hpurged]
    refine ⟨fun hvalue => ⟨hvalue, ?_⟩, And.left⟩
    rintro ⟨rfl, rfl⟩
    exact ((hdrops.values _ _ _).mp hvalue).2.1 hdooms

end Advance

end Withdrawals

end Signalweave
