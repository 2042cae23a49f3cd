import Signalweave.Core.Outbound

/-!
# Snapshots of a session (`core.rs`)

A snapshot shows a member the spaces it subscribes to and may read, with what is in them. It is a
function of that view alone: two cores that agree on it answer alike.
-/

open Std

namespace Signalweave

open WovenCore

/-- A space as its readers see it. -/
structure SpaceSnapshot where
  descriptor : SpaceDescriptor
  deriving DecidableEq

/-- An entity as its readers see it: without its position. -/
structure EntitySnapshot where
  id : EntityId
  ownerConnection : ConnectionId
  ownerPrincipal : PrincipalId
  space : SpaceId
  spaceEpoch : SpaceEpoch
  deriving DecidableEq

/-- A stored value as its readers see it. -/
structure StateSnapshot where
  space : SpaceId
  spaceEpoch : SpaceEpoch
  entity : Option EntityId
  channel : ChannelId
  component : Nat
  sequence : Nat
  payload : List UInt8
  deriving DecidableEq

/-- A session as one of its members sees it. -/
structure SessionSnapshot where
  key : SessionKey
  memberCount : Nat
  subscriptionCount : Nat
  stateBytes : Nat
  spaces : List SpaceSnapshot
  entities : List EntitySnapshot
  state : List StateSnapshot
  deriving DecidableEq

/-- What a snapshot shows of an entity: everything but its position. -/
def EntityRecord.snapshot (entity : EntityRecord) : EntitySnapshot :=
  { id := entity.id
    ownerConnection := entity.ownerConnection
    ownerPrincipal := entity.ownerPrincipal
    space := entity.space
    spaceEpoch := entity.spaceEpoch }

/-- A stored value with what it is the state of. -/
def StateRecord.snapshot (key : StateKey) (record : StateRecord) : StateSnapshot :=
  { space := key.space
    spaceEpoch := key.spaceEpoch
    entity := key.entity
    channel := key.channel
    component := key.component
    sequence := record.sequence
    payload := record.payload }

/-- A descriptor without its parent, unless the parent is to be seen. -/
def SpaceDescriptor.hideParent (descriptor : SpaceDescriptor) (seen : SpaceId → Bool) :
    SpaceDescriptor :=
  { descriptor with parent := descriptor.parent.filter fun parent => seen parent.parentSpace }

/-- The spaces of a session that a subscriber sees: installed ones that its principal may read. -/
def visibleSpaces (key : SessionKey) (principal : AuthenticatedPrincipal)
    (subscriptions : ExtTreeSet SpaceKey) (session : SessionState) : ExtTreeSet SpaceId :=
  .ofList ((subscriptions.toList.filter fun spaceKey =>
    spaceKey.session == key && principal.grants.canReadSpace spaceKey &&
      session.spaces.contains spaceKey.space).map SpaceKey.space)

/-- What `snapshot` builds once its checks have passed. -/
def takeSnapshot (key : SessionKey) (principal : AuthenticatedPrincipal)
    (subscriptions : ExtTreeSet SpaceKey) (session : SessionState) : SessionSnapshot :=
  let visible := visibleSpaces key principal subscriptions session
  let state := (session.state.toList.filter fun entry =>
    visible.contains entry.1.space &&
      principal.grants.canReadChannel ⟨key, entry.1.channel⟩).map fun entry =>
        entry.2.snapshot entry.1
  { key
    memberCount := session.members.size
    subscriptionCount :=
      ((visible.toList.filterMap fun space => session.subscribers[space]?).map
        ExtTreeSet.size).sum
    stateBytes := (state.map fun record => record.payload.length).sum
    spaces := (visible.toList.filterMap fun space => session.spaces[space]?).map fun descriptor =>
      { descriptor := descriptor.hideParent visible.contains }
    entities := (session.entities.toList.filter fun entry =>
      visible.contains entry.2.space).map fun entry => entry.2.snapshot
    state }

/-- `snapshot`. -/
def snapshot (core : WovenCore) (connection : ConnectionId) (key : SessionKey) :
    Except CoreError SessionSnapshot := do
  validateConnectionId connection
  validateSessionKey key
  let principal ← core.authenticatedPrincipal connection
  requireNamespaceRead principal key.namespaceId
  requireSessionRead principal key
  core.requireMembership connection key
  let state ← (core.connections[connection]?).okOr (.unknownConnection connection)
  let session ← (core.sessions[key]?).okOr (.sessionNotFound key)
  return takeSnapshot key principal state.subscriptions session

/-! ## The view of a member -/

/-- The connection subscribes to the space and its principal may read it. -/
def WovenCore.readsSpace (core : WovenCore) (connection : ConnectionId) (spaceKey : SpaceKey) :
    Bool :=
  (core.connectionAt connection).subscriptions.contains spaceKey &&
    (core.connectionAt connection).authenticated.any fun principal =>
      principal.grants.canReadSpace spaceKey

/-- The principal of the connection may read the channel. -/
def WovenCore.readsChannel (core : WovenCore) (connection : ConnectionId) (scope : ChannelScope) :
    Bool :=
  (core.connectionAt connection).authenticated.any fun principal =>
    principal.grants.canReadChannel scope

/-- Two cores agree on what a connection may see of a session. Of a parent space that the
connection does not read they need not agree. -/
structure SameView (core core' : WovenCore) (connection : ConnectionId) (key : SessionKey) :
    Prop where
  principal : (core'.connections[connection]?).map ConnectionState.authenticated =
    (core.connections[connection]?).map ConnectionState.authenticated
  membership : key ∈ (core'.connectionAt connection).memberships ↔
    key ∈ (core.connectionAt connection).memberships
  subscriptions : ∀ space, ⟨key, space⟩ ∈ (core'.connectionAt connection).subscriptions ↔
    ⟨key, space⟩ ∈ (core.connectionAt connection).subscriptions
  memberCount : (core'.sessions[key]?).map (fun session => session.members.size) =
    (core.sessions[key]?).map fun session => session.members.size
  descriptor : ∀ space, core.readsSpace connection ⟨key, space⟩ = true →
    ((core'.sessionAt key).spaces[space]?).map
        (·.hideParent fun parent => core.readsSpace connection ⟨key, parent⟩) =
      ((core.sessionAt key).spaces[space]?).map
        (·.hideParent fun parent => core.readsSpace connection ⟨key, parent⟩)
  entities : ∀ space, core.readsSpace connection ⟨key, space⟩ = true → ∀ id : EntityId,
    (((core'.sessionAt key).entities[id]?).filter (·.space = space)).map EntityRecord.snapshot =
      (((core.sessionAt key).entities[id]?).filter (·.space = space)).map EntityRecord.snapshot
  subscriberCount : ∀ space, core.readsSpace connection ⟨key, space⟩ = true →
    ((core'.sessionAt key).subscribers[space]?).map ExtTreeSet.size =
      ((core.sessionAt key).subscribers[space]?).map ExtTreeSet.size
  state : ∀ k : StateKey, core.readsSpace connection ⟨key, k.space⟩ = true →
    core.readsChannel connection ⟨key, k.channel⟩ = true →
    (core'.sessionAt key).state[k]? = (core.sessionAt key).state[k]?

variable {core core' : WovenCore} {connection : ConnectionId} {key : SessionKey}
  {principal : AuthenticatedPrincipal} {subscriptions subscriptions' : ExtTreeSet SpaceKey}
  {session session' : SessionState}

theorem mem_visibleSpaces {space : SpaceId} :
    space ∈ visibleSpaces key principal subscriptions session ↔
      ⟨key, space⟩ ∈ subscriptions ∧ principal.grants.canReadSpace ⟨key, space⟩ = true ∧
        space ∈ session.spaces := by
  unfold visibleSpaces
  rw [ExtTreeSet.mem_ofList, List.contains_iff_mem, List.mem_map]
  constructor
  · rintro ⟨spaceKey, hmem, rfl⟩
    obtain ⟨hsubscribed, hreads⟩ := List.mem_filter.mp hmem
    simp only [Bool.and_eq_true, beq_iff_eq] at hreads
    obtain ⟨⟨rfl, hgrant⟩, hinstalled⟩ := hreads
    exact ⟨ExtTreeSet.mem_toList.mp hsubscribed, hgrant, hinstalled⟩
  · rintro ⟨hsubscribed, hgrant, hinstalled⟩
    refine ⟨⟨key, space⟩, List.mem_filter.mpr ⟨ExtTreeSet.mem_toList.mpr hsubscribed, ?_⟩, rfl⟩
    simp only [Bool.and_eq_true, beq_iff_eq]
    exact ⟨⟨trivial, hgrant⟩, hinstalled⟩

theorem SpaceDescriptor.hideParent_hideParent {descriptor : SpaceDescriptor}
    {seen reads : SpaceId → Bool} (h : ∀ space, seen space = true → reads space = true) :
    (descriptor.hideParent reads).hideParent seen = descriptor.hideParent seen := by
  unfold hideParent
  congr 1
  cases descriptor.parent with
  | none => rfl
  | some parent =>
    cases hseen : seen parent.parentSpace with
    | true => simp [Option.filter, hseen, h _ hseen]
    | false => cases hreads : reads parent.parentSpace <;> simp [Option.filter, hseen, hreads]

/-- What is shown of a record that lies in one of the seen places depends on what is shown of it
place by place. -/
theorem map_filter_congr {α β γ : Type} [DecidableEq β] {o o' : Option α} {place : α → β}
    {shown : α → γ} {seen : β → Bool}
    (h : ∀ b, seen b = true → (o'.filter (place · = b)).map shown =
      (o.filter (place · = b)).map shown) :
    (o'.filter fun a => seen (place a)).map shown =
      (o.filter fun a => seen (place a)).map shown := by
  have hplace : ∀ (x : Option α) (c : γ), (x.filter fun a => seen (place a)).map shown = some c ↔
      ∃ b, seen b = true ∧ (x.filter (place · = b)).map shown = some c := by
    intro x c
    simp only [Option.map_eq_some_iff, Option.filter_eq_some_iff, decide_eq_true_eq]
    constructor
    · rintro ⟨a, ⟨hx, hseen⟩, hshow⟩
      exact ⟨place a, hseen, a, ⟨hx, rfl⟩, hshow⟩
    · rintro ⟨b, hseen, a, ⟨hx, rfl⟩, hshow⟩
      exact ⟨a, ⟨hx, hseen⟩, hshow⟩
  apply Option.ext
  intro c
  rw [hplace, hplace]
  constructor
  · rintro ⟨b, hseen, hshown⟩
    exact ⟨b, hseen, (h b hseen) ▸ hshown⟩
  · rintro ⟨b, hseen, hshown⟩
    exact ⟨b, hseen, (h b hseen).symm ▸ hshown⟩

namespace SameView

theorem readsSpace_iff (hauthenticated : (core.connectionAt connection).authenticated =
    some principal) {spaceKey : SpaceKey} :
    core.readsSpace connection spaceKey = true ↔
      spaceKey ∈ (core.connectionAt connection).subscriptions ∧
        principal.grants.canReadSpace spaceKey = true := by
  rw [readsSpace, hauthenticated, Bool.and_eq_true, Option.any_some,
    ExtTreeSet.contains_iff_mem]

theorem readsSpace_of_visible (hauthenticated : (core.connectionAt connection).authenticated =
    some principal) {space : SpaceId}
    (h : space ∈ visibleSpaces key principal (core.connectionAt connection).subscriptions session) :
    core.readsSpace connection ⟨key, space⟩ = true := by
  obtain ⟨hsubscribed, hgrant, -⟩ := mem_visibleSpaces.mp h
  exact (readsSpace_iff hauthenticated).mpr ⟨hsubscribed, hgrant⟩

theorem visibleSpaces_eq (h : SameView core core' connection key)
    (hauthenticated : (core.connectionAt connection).authenticated = some principal) :
    visibleSpaces key principal (core'.connectionAt connection).subscriptions
        (core'.sessionAt key) =
      visibleSpaces key principal (core.connectionAt connection).subscriptions
        (core.sessionAt key) := by
  apply ExtTreeSet.ext_mem
  intro space
  rw [mem_visibleSpaces, mem_visibleSpaces, h.subscriptions space]
  apply and_congr_right
  intro hsubscribed
  apply and_congr_right
  intro hgrant
  have hdescriptor := h.descriptor space ((readsSpace_iff hauthenticated).mpr
    ⟨hsubscribed, hgrant⟩)
  have hsome := congrArg Option.isSome hdescriptor
  rw [Option.isSome_map, Option.isSome_map] at hsome
  rw [ExtTreeMap.mem_iff_isSome_getElem?, ExtTreeMap.mem_iff_isSome_getElem?, hsome]

theorem takeSnapshot_eq (h : SameView core core' connection key)
    (hauthenticated : (core.connectionAt connection).authenticated = some principal)
    (hmembers : (core'.sessionAt key).members.size = (core.sessionAt key).members.size) :
    takeSnapshot key principal (core'.connectionAt connection).subscriptions
        (core'.sessionAt key) =
      takeSnapshot key principal (core.connectionAt connection).subscriptions
        (core.sessionAt key) := by
  have hreads : ∀ space, space ∈ visibleSpaces key principal
      (core.connectionAt connection).subscriptions (core.sessionAt key) →
        core.readsSpace connection ⟨key, space⟩ = true :=
    fun _ hspace => readsSpace_of_visible hauthenticated hspace
  unfold takeSnapshot
  rw [h.visibleSpaces_eq hauthenticated]
  generalize visibleSpaces key principal (core.connectionAt connection).subscriptions
    (core.sessionAt key) = visible at hreads
  have hstate : ((core'.sessionAt key).state.toList.filter fun entry =>
      visible.contains entry.1.space && principal.grants.canReadChannel ⟨key, entry.1.channel⟩).map
        (fun entry => entry.2.snapshot entry.1) =
      ((core.sessionAt key).state.toList.filter fun entry =>
        visible.contains entry.1.space && principal.grants.canReadChannel
          ⟨key, entry.1.channel⟩).map fun entry => entry.2.snapshot entry.1 := by
    apply OrderedMap.map_filter_toList_congr
    intro k
    by_cases hseen : (visible.contains k.space &&
        principal.grants.canReadChannel ⟨key, k.channel⟩) = true
    · have hboth := hseen
      rw [Bool.and_eq_true, ExtTreeSet.contains_iff_mem] at hboth
      rw [h.state k (hreads _ hboth.1) (by rw [readsChannel, hauthenticated]; exact hboth.2)]
    · simp [hseen]
  have hsubscribers : ((visible.toList.filterMap fun space =>
      (core'.sessionAt key).subscribers[space]?).map ExtTreeSet.size) =
      (visible.toList.filterMap fun space =>
        (core.sessionAt key).subscribers[space]?).map ExtTreeSet.size := by
    rw [List.map_filterMap, List.map_filterMap]
    apply List.filterMap_congr
    exact fun space hspace =>
      h.subscriberCount space (hreads space (ExtTreeSet.mem_toList.mp hspace))
  have hspaces : (visible.toList.filterMap fun space => (core'.sessionAt key).spaces[space]?).map
      (fun descriptor => (⟨descriptor.hideParent visible.contains⟩ : SpaceSnapshot)) =
      (visible.toList.filterMap fun space => (core.sessionAt key).spaces[space]?).map
        fun descriptor => ⟨descriptor.hideParent visible.contains⟩ := by
    rw [List.map_filterMap, List.map_filterMap]
    apply List.filterMap_congr
    intro space hspace
    have hdescriptor := h.descriptor space (hreads space (ExtTreeSet.mem_toList.mp hspace))
    have hshown := congrArg (Option.map fun descriptor =>
      (⟨descriptor.hideParent visible.contains⟩ : SpaceSnapshot)) hdescriptor
    have hhidden : ∀ descriptor : SpaceDescriptor, (descriptor.hideParent fun parent =>
        core.readsSpace connection ⟨key, parent⟩).hideParent visible.contains =
          descriptor.hideParent visible.contains := fun descriptor =>
      SpaceDescriptor.hideParent_hideParent fun parent hseen =>
        hreads parent (ExtTreeSet.contains_iff_mem.mp hseen)
    simpa only [Option.map_map, Function.comp_def, hhidden] using hshown
  have hentities : ((core'.sessionAt key).entities.toList.filter fun entry =>
      visible.contains entry.2.space).map (fun entry => entry.2.snapshot) =
      ((core.sessionAt key).entities.toList.filter fun entry =>
        visible.contains entry.2.space).map fun entry => entry.2.snapshot := by
    apply OrderedMap.map_filter_toList_congr
    intro id
    apply map_filter_congr
    exact fun space hseen =>
      h.entities space (hreads space (ExtTreeSet.contains_iff_mem.mp hseen)) id
  simp only [hstate, hsubscribers, hspaces, hentities, hmembers]

/-- The checks of a snapshot pass in both cores or fail alike. -/
theorem checks_eq (h : SameView core core' connection key) :
    core'.authenticatedPrincipal connection = core.authenticatedPrincipal connection ∧
      core'.requireMembership connection key = core.requireMembership connection key := by
  have hprincipal := h.principal
  have hmembership := h.membership
  unfold connectionAt at hmembership
  unfold authenticatedPrincipal requireMembership
  cases hfound : core.connections[connection]? with
  | none =>
    rw [hfound, Option.map_none, Option.map_eq_none_iff] at hprincipal
    rw [hprincipal]
    exact ⟨rfl, rfl⟩
  | some state =>
    rw [hfound, Option.map_some, Option.map_eq_some_iff] at hprincipal
    obtain ⟨state', hfound', hauthenticated⟩ := hprincipal
    rw [hfound, hfound', Option.getD_some, Option.getD_some] at hmembership
    rw [hfound']
    simp only [Option.okOr_some, bind, Except.bind, hauthenticated, hmembership]
    exact ⟨trivial, trivial⟩

end SameView

theorem SameView.snapshot_eq (h : SameView core core' connection key) :
    snapshot core' connection key = snapshot core connection key := by
  obtain ⟨hprincipal, hmembership⟩ := h.checks_eq
  unfold snapshot
  rw [hprincipal, hmembership]
  cases hok : core.authenticatedPrincipal connection with
  | error e => rfl
  | ok principal =>
    obtain ⟨state, hfound, hauthenticated⟩ := authenticatedPrincipal_eq_ok.mp hok
    obtain ⟨state', hfound', -⟩ := authenticatedPrincipal_eq_ok.mp (hprincipal.trans hok)
    rw [hfound, hfound']
    have hcount := h.memberCount
    cases hsession : core.sessions[key]? with
    | none =>
      rw [hsession, Option.map_none, Option.map_eq_none_iff] at hcount
      rw [hcount]
      rfl
    | some session =>
      rw [hsession, Option.map_some, Option.map_eq_some_iff] at hcount
      obtain ⟨session', hsession', hsize⟩ := hcount
      have hview := @SameView.takeSnapshot_eq core core' connection key principal h
      rw [connectionAt_of_some hfound, connectionAt_of_some hfound', sessionAt_of_some hsession,
        sessionAt_of_some hsession'] at hview
      rw [hsession', Option.okOr_some, Option.okOr_some, Option.okOr_some, Option.okOr_some]
      simp only [bind, Except.bind, hview hauthenticated hsize]

/-- What `snapshot` asks for. -/
structure SnapshotAllowed (core : WovenCore) (connection : ConnectionId) (key : SessionKey)
    (principal : AuthenticatedPrincipal) : Prop where
  id : connection.get ≠ 0
  session : validateSessionKey key = .ok ()
  authenticated : core.authenticatedPrincipal connection = .ok principal
  readsNamespace : principal.grants.canReadNamespace key.namespaceId = true
  readsSession : principal.grants.canReadSession key = true
  member : key ∈ (core.connectionAt connection).memberships
  found : key ∈ core.sessions

theorem snapshot_eq_ok_iff {shown : SessionSnapshot} :
    snapshot core connection key = .ok shown ↔
      ∃ principal, SnapshotAllowed core connection key principal ∧
        shown = takeSnapshot key principal (core.connectionAt connection).subscriptions
          (core.sessionAt key) := by
  constructor
  · intro h
    simp only [snapshot, Except.bind_eq_ok, validateConnectionId_eq_ok, requireNamespaceRead,
      requireSessionRead, requireGrant_eq_ok, requireMembership_eq_ok, Option.okOr_eq_ok,
      Except.pure_eq_ok] at h
    obtain ⟨-, hid, ⟨⟩, hsession, principal, hprincipal, -, hnamespace, -, hreads, -,
      ⟨state, hstate, hmember⟩, state', hstate', session, hfound, rfl⟩ := h
    obtain rfl := Option.some.inj (hstate.symm.trans hstate')
    rw [← connectionAt_of_some hstate] at hmember ⊢
    rw [← sessionAt_of_some hfound]
    exact ⟨principal, ⟨hid, hsession, hprincipal, hnamespace, hreads, hmember,
      OrderedMap.mem_of_getElem? hfound⟩, rfl⟩
  · rintro ⟨principal, h, rfl⟩
    have hlive := mem_connections_of_membership h.member
    simp only [snapshot, Except.bind_eq_ok, validateConnectionId_eq_ok, requireNamespaceRead,
      requireSessionRead, requireGrant_eq_ok, requireMembership_eq_ok, Option.okOr_eq_ok,
      Except.pure_eq_ok]
    exact ⟨(), h.id, (), h.session, principal, h.authenticated, (), h.readsNamespace, (),
      h.readsSession, (), ⟨_, connections_getElem? hlive, h.member⟩, _,
      connections_getElem? hlive, _, sessions_getElem? h.found, rfl⟩

/-- What a snapshot has been taken of. -/
theorem snapshot_eq_ok {answer : SessionSnapshot} (h : snapshot core connection key = .ok answer) :
    ∃ principal, (core.connectionAt connection).authenticated = some principal ∧
      answer = takeSnapshot key principal (core.connectionAt connection).subscriptions
        (core.sessionAt key) := by
  obtain ⟨principal, hallowed, hanswer⟩ := snapshot_eq_ok_iff.mp h
  obtain ⟨state, hfound, hauthenticated⟩ :=
    authenticatedPrincipal_eq_ok.mp hallowed.authenticated
  rw [← connectionAt_of_some hfound] at hauthenticated
  exact ⟨principal, hauthenticated, hanswer⟩

/-- A parent space that a snapshot names is one that its connection sees. -/
theorem parent_seen {answer : SessionSnapshot} (h : snapshot core connection key = .ok answer)
    {space : SpaceSnapshot} (hspace : space ∈ answer.spaces) {parent : ParentAnchor}
    (hparent : space.descriptor.parent = some parent) :
    core.readsSpace connection ⟨key, parent.parentSpace⟩ = true ∧
      parent.parentSpace ∈ (core.sessionAt key).spaces := by
  obtain ⟨principal, hauthenticated, rfl⟩ := snapshot_eq_ok h
  obtain ⟨descriptor, -, rfl⟩ := List.mem_map.mp hspace
  obtain ⟨-, hseen⟩ := Option.filter_eq_some_iff.mp hparent
  have hvisible := ExtTreeSet.contains_iff_mem.mp hseen
  exact ⟨SameView.readsSpace_of_visible hauthenticated hvisible,
    (mem_visibleSpaces.mp hvisible).2.2⟩

/-- A snapshot is a function of what its connection sees: cores that agree on that answer alike,
and a parent space that the answer names is one that the connection subscribes to, may read and
finds installed. -/
theorem snapshot_noninterference (h : SameView core core' connection key) :
    snapshot core' connection key = snapshot core connection key ∧
      ∀ answer, snapshot core connection key = .ok answer → ∀ space ∈ answer.spaces,
        ∀ parent, space.descriptor.parent = some parent →
          core.readsSpace connection ⟨key, parent.parentSpace⟩ = true ∧
            parent.parentSpace ∈ (core.sessionAt key).spaces :=
  ⟨h.snapshot_eq, fun _ hanswer _ hspace _ hparent => parent_seen hanswer hspace hparent⟩

namespace Sample

/-- A third space, to which nobody subscribes. -/
def hidden (core : WovenCore) : WovenCore :=
  { core.modifySession Sample.session fun session => session.installSpace (space 3) with
    channels := ∅ }

theorem sessionAt_hidden (h : Sample.session ∈ core.sessions) :
    (hidden core).sessionAt Sample.session =
      (core.sessionAt Sample.session).installSpace (space 3) :=
  sessionAt_modifySession.trans (if_pos ⟨rfl, h⟩)

theorem sameView_hidden (h : Sample.session ∈ core.sessions)
    (hunread : core.readsSpace connection (spaceKey 3) = false) :
    SameView core (hidden core) connection Sample.session := by
  have hsession := sessionAt_hidden h
  have hother : ∀ space, core.readsSpace connection ⟨Sample.session, space⟩ = true →
      space ≠ ⟨3⟩ := by
    rintro space hreads rfl
    rw [spaceKey] at hunread
    rw [hunread] at hreads
    cases hreads
  refine ⟨rfl, Iff.rfl, fun _ => Iff.rfl, ?_, ?_, ?_, ?_, ?_⟩
  · have hkey : Sample.session ∈ (hidden core).sessions := mem_sessions_modifySession.mpr h
    rw [sessions_getElem? h, sessions_getElem? hkey, hsession]
    rfl
  · intro space hreads
    rw [hsession]
    show Option.map _ ((core.sessionAt Sample.session).spaces.insert ⟨3⟩ (Sample.space 3))[space]? =
      _
    rw [OrderedMap.getElem?_insert, if_neg (hother space hreads)]
  · intro space _ id
    rw [hsession]
    rfl
  · intro space hreads
    rw [hsession]
    show Option.map _ ((core.sessionAt Sample.session).subscribers.insert ⟨3⟩ ∅)[space]? = _
    rw [OrderedMap.getElem?_insert, if_neg (hother space hreads)]
  · intro k _ _
    rw [hsession]
    rfl

end Sample

theorem snapshot_noninterference_hidden :
    let core := Transition.run step Sample.core Sample.published
    (Sample.hidden core).channels.size ≠ core.channels.size ∧
      snapshot (Sample.hidden core) ⟨1⟩ Sample.session = snapshot core ⟨1⟩ Sample.session := by
  intro core
  have hkey : Sample.session ∈ core.sessions := by decide +kernel
  have hunread : core.readsSpace ⟨1⟩ (Sample.spaceKey 3) = false := by decide +kernel
  exact ⟨by decide +kernel, (snapshot_noninterference (Sample.sameView_hidden hkey hunread)).1⟩

end Signalweave
