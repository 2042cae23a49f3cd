import Signalweave.Core.Outbound
import Signalweave.Core.SessionChanges

/-!
# The configured bounds

Each table is checked against its bound where it grows, most of them by an equality. No table
grows by more than one entry between two checks, except by a publication, whose check covers its
whole batch.
-/

open Std

namespace Signalweave

open Stateful WovenCore

/-- The tables of a session are within their bounds. -/
structure SessionState.Limited (config : CoreConfig) (session : SessionState) : Prop where
  entities : session.entities.size ≤ config.maxEntitiesPerSession
  spaces : session.spaces.size ≤ config.maxSpacesPerSession
  history : session.spaces.size + session.spaceEpochTombstones.size ≤
    config.maxSpaceEpochTombstonesPerSession
  state : session.state.size ≤ config.maxStateEntriesPerSession
  stateBytes : session.stateBytes ≤ config.maxStateBytesPerSession
  sequences : session.sequences.size ≤ config.maxSequenceKeysPerSession

namespace SessionState

variable {config : CoreConfig} {session session' : SessionState}

theorem limited_empty : ({} : SessionState).Limited config := by
  constructor <;> simp

/-- Tables that have not grown stay within their bounds. -/
theorem Limited.of_le (h : session.Limited config)
    (hentities : session'.entities.size ≤ session.entities.size)
    (hspaces : session'.spaces.size ≤ session.spaces.size)
    (hhistory : session'.spaces.size + session'.spaceEpochTombstones.size ≤
      session.spaces.size + session.spaceEpochTombstones.size)
    (hstate : session'.state.size ≤ session.state.size)
    (hbytes : session'.stateBytes ≤ session.stateBytes)
    (hsequences : session'.sequences.size ≤ session.sequences.size) : session'.Limited config where
  entities := hentities.trans h.entities
  spaces := hspaces.trans h.spaces
  history := hhistory.trans h.history
  state := hstate.trans h.state
  stateBytes := hbytes.trans h.stateBytes
  sequences := hsequences.trans h.sequences

/-! ## Spaces -/

theorem size_removeSpace (session : SessionState) (space : SpaceId) :
    (session.removeSpace space).spaces.size ≤ session.spaces.size ∧
      (session.removeSpace space).spaces.size +
          (session.removeSpace space).spaceEpochTombstones.size ≤
        session.spaces.size + session.spaceEpochTombstones.size := by
  rw [removeSpace_spaces]
  cases hspace : session.spaces[space]? with
  | none =>
    rw [removeSpace_tombstones_of_none hspace]
    have hsize : (session.spaces.erase space).size ≤ session.spaces.size :=
      ExtTreeMap.size_erase_le
    exact ⟨hsize, Nat.add_le_add_right hsize _⟩
  | some descriptor =>
    have hin := OrderedMap.mem_of_getElem? hspace
    have hpositive : 0 < session.spaces.size := by
      rw [Nat.pos_iff_ne_zero]
      intro hzero
      rw [ExtTreeMap.eq_empty_iff_size_eq_zero.mpr hzero] at hin
      simp at hin
    have hspaces : (session.spaces.erase space).size = session.spaces.size - 1 := by
      rw [ExtTreeMap.size_erase, if_pos (by simpa using hin)]
    have htombstones := @ExtTreeMap.size_insert_le _ _ _ session.spaceEpochTombstones _
      descriptor.id descriptor.epoch
    rw [removeSpace_tombstones hspace]
    omega

theorem size_foldl_removeSpace (list : List SpaceId) (session : SessionState) :
    (list.foldl removeSpace session).spaces.size ≤ session.spaces.size ∧
      (list.foldl removeSpace session).spaces.size +
          (list.foldl removeSpace session).spaceEpochTombstones.size ≤
        session.spaces.size + session.spaceEpochTombstones.size := by
  induction list generalizing session with
  | nil => exact ⟨Nat.le_refl _, Nat.le_refl _⟩
  | cons space rest ih =>
    obtain ⟨hspaces, hhistory⟩ := size_removeSpace session space
    obtain ⟨hspaces', hhistory'⟩ := ih (session.removeSpace space)
    exact ⟨hspaces'.trans hspaces, hhistory'.trans hhistory⟩

/-- A filter of the state takes its bytes with it. -/
theorem storedBytes_filter (session : SessionState) (p : StateKey → StateRecord → Bool) :
    OrderedMap.total (fun _ record => record.payload.length) (session.state.filter p) ≤
      session.storedBytes := by
  have hsplit : OrderedMap.total (fun _ record => record.payload.length) (session.state.filter p) +
      OrderedMap.total (fun _ record => record.payload.length)
        (session.state.filter fun key record => !p key record) = session.storedBytes :=
    OrderedMap.total_filter_add
  omega

theorem Limited.dropRemoved {removal : Removal} (h : session.Limited config)
    (hbytes : session.stateBytes = session.storedBytes) :
    (session.dropRemoved removal).Limited config := by
  have hspaces := size_foldl_removeSpace removal.spaces.toList (session.dropEntities removal)
  have hframe : (session.dropEntities removal).spaces = session.spaces ∧
      (session.dropEntities removal).spaceEpochTombstones = session.spaceEpochTombstones := by
    rw [dropEntities_eq]
    exact ⟨rfl, rfl⟩
  rw [hframe.1, hframe.2] at hspaces
  apply h.of_le
  · rw [dropRemoved_entities]
    exact ExtTreeMap.size_filter_le_size
  · exact hspaces.1
  · exact hspaces.2
  · rw [dropRemoved_state]
    exact ExtTreeMap.size_filter_le_size
  · rw [dropRemoved_stateBytes, hbytes, storedBytes, dropRemoved_state]
    exact storedBytes_filter session _
  · rw [dropRemoved_sequences]
    exact ExtTreeMap.size_filter_le_size

theorem Limited.installSpace {descriptor : SpaceDescriptor} (h : session.Limited config)
    (hfresh : descriptor.id ∉ session.spaces)
    (hroom : session.spaces.size ≠ config.maxSpacesPerSession)
    (hhistory : checkSpaceHistory config session descriptor = .ok ()) :
    (session.installSpace descriptor).Limited config := by
  have hspaces : (session.installSpace descriptor).spaces.size = session.spaces.size + 1 := by
    show (session.spaces.insert descriptor.id descriptor).size = _
    rw [ExtTreeMap.size_insert, if_neg (by simpa using hfresh)]
  refine ⟨h.entities, ?_, ?_, h.state, h.stateBytes, h.sequences⟩
  · have hbound := h.spaces
    omega
  · have hbound := h.history
    rw [hspaces]
    show session.spaces.size + 1 + (session.spaceEpochTombstones.erase descriptor.id).size ≤ _
    unfold checkSpaceHistory at hhistory
    cases htombstone : session.spaceEpochTombstones[descriptor.id]? with
    | some previous =>
      -- The tombstone gives its place to the space.
      have hin := OrderedMap.mem_of_getElem? htombstone
      have hpositive : 0 < session.spaceEpochTombstones.size := by
        rw [Nat.pos_iff_ne_zero]
        intro hzero
        rw [ExtTreeMap.eq_empty_iff_size_eq_zero.mpr hzero] at hin
        simp at hin
      rw [ExtTreeMap.size_erase, if_pos (by simpa using hin)]
      omega
    | none =>
      rw [htombstone] at hhistory
      dsimp only at hhistory
      split at hhistory
      · cases hhistory
      · have hsize : (session.spaceEpochTombstones.erase descriptor.id).size ≤
            session.spaceEpochTombstones.size := ExtTreeMap.size_erase_le
        omega

theorem Limited.advanceEpoch {space : SpaceId} {proposed : SpaceEpoch} (h : session.Limited config)
    (hbytes : session.stateBytes = session.storedBytes) :
    (session.advanceEpoch space proposed).Limited config := by
  have hspaces : (session.advanceEpoch space proposed).spaces.size = session.spaces.size :=
    ExtTreeMap.size_modify
  apply h.of_le
  · exact Nat.le_refl _
  · exact Nat.le_of_eq hspaces
  · rw [hspaces]
    exact Nat.le_refl _
  · exact ExtTreeMap.size_filter_le_size
  · rw [hbytes]
    exact storedBytes_filter session _
  · exact ExtTreeMap.size_filter_le_size

/-! ## Publications -/

/-- The running totals of `validate_state_capacity` are those of the table that the messages walked
over would leave. -/
structure Projects (start : SessionState) (projection : StateProjection) (session : SessionState) :
    Prop where
  lengths : ∀ key : StateKey, (session.state[key]?).map (fun record => record.payload.length) =
    (projection.projected[key]?).or
      ((start.state[key]?).map fun record => record.payload.length)
  entries : projection.entries = session.state.size
  bytes : projection.bytes = session.stateBytes

theorem Projects.store {start : SessionState} {projection : StateProjection}
    (h : Projects start projection session) {message : AuthorizedMessage}
    (hstateful : message.persistence = .stateful) :
    Projects start (WovenCore.projectState start projection message)
      (session.storeState message) := by
  unfold WovenCore.projectState storeState
  rw [if_pos hstateful]
  dsimp only
  rw [← h.lengths]
  refine ⟨?_, ?_, ?_⟩
  · intro key
    rw [OrderedMap.getElem?_insert, OrderedMap.getElem?_insert]
    split
    · rfl
    · exact h.lengths key
  · rw [ExtTreeMap.size_insert]
    cases hstored : session.state[stateKey message]? with
    | none =>
      have hout : stateKey message ∉ session.state := by
        rw [ExtTreeMap.mem_iff_isSome_getElem?, hstored]
        simp
      rw [if_neg (by simpa using hout)]
      simp [h.entries]
    | some record =>
      have hin := OrderedMap.mem_of_getElem? hstored
      rw [if_pos (by simpa using hin)]
      simp [h.entries]
  · cases session.state[stateKey message]? with
    | none => simp [h.bytes]
    | some record => simp [h.bytes]

theorem Projects.foldl {start : SessionState} {projection : StateProjection}
    (h : Projects start projection session) (messages : List AuthorizedMessage) :
    Projects start
      ((messages.filter fun message => message.persistence == .stateful).foldl
        (WovenCore.projectState start) projection)
      (messages.foldl storeState session) := by
  induction messages generalizing projection session with
  | nil => exact h
  | cons message rest ih =>
    rw [List.foldl_cons, List.filter_cons]
    by_cases hstateful : message.persistence = .stateful
    · rw [if_pos (by simpa using hstateful), List.foldl_cons]
      exact ih (h.store hstateful)
    · rw [if_neg (by simpa using hstateful), storeState, if_neg hstateful]
      exact ih h

/-- A plan is made only where the tables have room for its whole batch. -/
theorem Limited.commit {core : WovenCore} {key : SessionKey} {plan : PublishPlan}
    (h : (core.sessionAt key).Limited core.config) (hkey : key ∈ core.sessions)
    (hsequences : core.validateSequenceCapacity key plan.sequences = .ok ())
    (hstate : core.validateStateCapacity key plan.messages = .ok ()) :
    ((core.sessionAt key).commit plan).Limited core.config := by
  have hfound := sessions_getElem? hkey
  simp only [validateSequenceCapacity, hfound, Option.okOr_some, Except.bind_eq_ok,
    Except.ite_eq_ok, Except.throw_ne_ok, and_false, false_or, Except.pure_eq_ok] at hsequences
  simp only [validateStateCapacity, hfound, Option.okOr_some, Except.bind_eq_ok,
    Except.ite_eq_ok, Except.throw_ne_ok, Except.throw_bind, and_false, false_or,
    Except.pure_eq_ok] at hstate
  obtain ⟨_, ⟨⟩, hroom, -⟩ := hsequences
  obtain ⟨_, ⟨⟩, hentries, hbytes, -⟩ := hstate
  have hstart : Projects (core.sessionAt key)
      { entries := (core.sessionAt key).state.size, bytes := (core.sessionAt key).stateBytes }
      { core.sessionAt key with
        sequences := plan.sequences.toList.foldl
          (fun sequences entry => sequences.insert entry.1 entry.2)
          (core.sessionAt key).sequences } := by
    refine ⟨fun k => ?_, rfl, rfl⟩
    simp
  have hafter : Projects (core.sessionAt key) _ ((core.sessionAt key).commit plan) :=
    hstart.foldl plan.messages
  refine ⟨?_, ?_, ?_, ?_, ?_, ?_⟩
  · rw [commit_eq]
    exact h.entities
  · rw [commit_eq]
    exact h.spaces
  · rw [commit_eq]
    exact h.history
  · rw [← hafter.entries]
    exact Nat.le_of_not_lt hentries
  · rw [← hafter.bytes]
    exact Nat.le_of_not_lt hbytes
  · have hcover : ∀ k, k ∈ ((core.sessionAt key).commit plan).sequences →
        k ∈ (core.sessionAt key).sequences ∨ k ∈ plan.sequences.keys.filter
          fun k : SequenceKey => k ∉ (core.sessionAt key).sequences := by
      intro k hk
      rw [SessionState.commit, foldl_storeState_eq] at hk
      rw [mem_foldl_insert, ExtTreeMap.map_fst_toList_eq_keys] at hk
      by_cases hstored : k ∈ (core.sessionAt key).sequences
      · exact .inl hstored
      · exact .inr (List.mem_filter.mpr ⟨hk.resolve_right hstored, decide_eq_true hstored⟩)
    exact (OrderedMap.size_le_of_cover _ hcover).trans (Nat.le_of_not_lt hroom)

end SessionState

variable {core core' : WovenCore} {key : SessionKey} {op : Op}

/-- Every change keeps a session within its bounds. -/
theorem SessionChange.limited {session : SessionState} (h : SessionChange core key op session)
    (hconsistent : core.Consistent) (hlimited : (core.sessionAt key).Limited core.config) :
    session.Limited core.config := by
  have hbytes := (hconsistent.session key).bytes
  cases h with
  | same => exact hlimited
  | join connection asked =>
    exact ⟨hlimited.entities, hlimited.spaces, hlimited.history, hlimited.state,
      hlimited.stateBytes, hlimited.sequences⟩
  | installSpace descriptor fresh room history parent =>
    exact hlimited.installSpace fresh room history
  | remove initial asked => exact hlimited.dropRemoved hbytes
  | advanceEpoch space proposed descriptor found later empty => exact hlimited.advanceEpoch hbytes
  | leave connection initial asked =>
    have hdropped : ((core.sessionAt key).dropRemoved
        ((core.sessionAt key).cascade initial)).Limited core.config := hlimited.dropRemoved hbytes
    exact hdropped.of_le (Nat.le_refl _) (Nat.le_refl _) (Nat.le_refl _) (Nat.le_refl _)
      (Nat.le_refl _) ExtTreeMap.size_filter_le_size
  | subscribers space f asked =>
    exact ⟨hlimited.entities, hlimited.spaces, hlimited.history, hlimited.state,
      hlimited.stateBytes, hlimited.sequences⟩
  | spawn connection space epoch principal installed room =>
    refine ⟨?_, hlimited.spaces, hlimited.history, hlimited.state, hlimited.stateBytes,
      hlimited.sequences⟩
    have hbound := hlimited.entities
    refine Nat.le_trans ExtTreeMap.size_insert_le ?_
    omega
  | move connection entity position cell record descriptor entityFound spaceFound valid indexed =>
    rw [SessionState.moveToCell_eq]
    exact hlimited.of_le (Nat.le_of_eq ExtTreeMap.size_modify) (Nat.le_refl _) (Nat.le_refl _)
      (Nat.le_refl _) (Nat.le_refl _) (Nat.le_refl _)
  | transition request addressed record checked moves =>
    rw [SessionState.transition_eq]
    apply hlimited.of_le
    · exact Nat.le_of_eq ExtTreeMap.size_modify
    · exact Nat.le_refl _
    · exact Nat.le_refl _
    · exact ExtTreeMap.size_filter_le_size
    · rw [hbytes]
      show ((core.sessionAt key).transition request).storedBytes ≤ _
      rw [SessionState.storedBytes, SessionState.transition_eq]
      exact SessionState.storedBytes_filter _ _
    · exact ExtTreeMap.size_filter_le_size
  | commit request addressed now call clock plan planned =>
    subst addressed
    have hplanned := planPublish_eq_ok planned
    exact hlimited.commit hplanned.session hplanned.sequenceRoom hplanned.stateRoom

/-! ## Connections -/

/-- What a connection holds is within its bounds. -/
structure ConnectionState.Limited (config : CoreConfig) (state : ConnectionState) : Prop where
  memberships : state.memberships.size ≤ config.maxMembershipsPerConnection
  subscriptions : state.subscriptions.size ≤ config.maxSubscriptionsPerConnection
  ownedEntities : state.ownedEntities ≤ config.maxOwnedEntitiesPerConnection

namespace ConnectionState

variable {config : CoreConfig} {state : ConnectionState}

theorem limited_start {outbound : OutboundQueue} :
    ({ outbound } : ConnectionState).Limited config := by
  constructor <;> simp

theorem Limited.dropRemoved {removal : Removal} {owned : Nat} (h : state.Limited config) :
    (state.dropRemoved key removal owned).Limited config where
  memberships := h.memberships
  subscriptions := ExtTreeSet.size_filter_le_size.trans h.subscriptions
  ownedEntities := (Nat.sub_le _ _).trans h.ownedEntities

theorem Limited.leave (h : state.Limited config) : (state.leave key).Limited config where
  memberships := ExtTreeSet.size_erase_le.trans h.memberships
  subscriptions := ExtTreeSet.size_filter_le_size.trans h.subscriptions
  ownedEntities := h.ownedEntities

/-- A queue and an authentication have no bound here. -/
theorem Limited.purgeOutbound {p : OutboundMessage → Bool} (h : state.Limited config) :
    (state.purgeOutbound p).Limited config :=
  ⟨h.memberships, h.subscriptions, h.ownedEntities⟩

end ConnectionState

namespace WovenCore

variable {config : CoreConfig} {connection : ConnectionId}

theorem limited_modifyConnection {g : ConnectionState → ConnectionState}
    (h : ∀ c, (core.connectionAt c).Limited config)
    (hg : (g (core.connectionAt connection)).Limited config) (c : ConnectionId) :
    ((core.modifyConnection connection g).connectionAt c).Limited config := by
  rw [connectionAt_modifyConnection]
  split
  · rename_i hc
    rw [hc.1]
    exact hg
  · exact h c

theorem limited_mapConnections {g : ConnectionId → ConnectionState → ConnectionState}
    (h : ∀ c, (core.connectionAt c).Limited config)
    (hg : ∀ c state, state.Limited config → (g c state).Limited config) (c : ConnectionId) :
    ((core.mapConnections g).connectionAt c).Limited config := by
  rw [connectionAt_mapConnections]
  split
  · exact hg c _ (h c)
  · exact h c

theorem connectionAt_releaseSessionAdmission {k : SessionKey} {reason : ReleaseReason}
    {now : Instant} (c : ConnectionId) :
    (core.releaseSessionAdmission connection k reason now).connectionAt c =
      core.connectionAt c := by
  rw [releaseSessionAdmission_eq]
  rfl

theorem limited_leave {k : SessionKey} {reason : ReleaseReason} {now : Instant}
    (h : ∀ c, (core.connectionAt c).Limited config) (c : ConnectionId) :
    ((core.leave connection k reason now).connectionAt c).Limited config := by
  have hreleased : ∀ c, ((core.releaseSessionAdmission connection k reason now).connectionAt
      c).Limited config := by
    intro c
    rw [connectionAt_releaseSessionAdmission]
    exact h c
  have hdropped : ∀ removal c, (((core.releaseSessionAdmission connection k reason now).dropRemoved
      k removal).connectionAt c).Limited config :=
    fun removal => limited_mapConnections hreleased fun _ _ h => h.dropRemoved
  exact limited_modifyConnection (hdropped _) (hdropped _ connection).leave c

end WovenCore

/-- The connection side of a change keeps to the bounds. -/
theorem Change.connection_limited (h : Change op core core')
    (hlimited : ∀ c, (core.connectionAt c).Limited core.config) (c : ConnectionId) :
    (core'.connectionAt c).Limited core.config := by
  cases h with
  | join connection k asked principal authenticated readsNamespace readsSession provisioned bound
      room =>
    refine limited_modifyConnection hlimited ⟨?_, (hlimited connection).subscriptions,
      (hlimited connection).ownedEntities⟩ c
    have hbound := (hlimited connection).memberships
    refine Nat.le_trans ExtTreeSet.size_insert_le ?_
    omega
  | removeEntities k initial asked =>
    exact limited_mapConnections hlimited (fun _ _ h => h.dropRemoved) c
  | purgeSpace k space proposed gone =>
    exact limited_mapConnections hlimited (fun _ _ h => h.purgeOutbound) c
  | advanceEpoch k space proposed descriptor found later empty =>
    exact limited_mapConnections hlimited (fun _ _ h => h.purgeOutbound) c
  | connect outbound queue room =>
    unfold connectionAt
    rw [OrderedMap.getElem?_insert]
    split
    · exact ConnectionState.limited_start
    · exact hlimited c
  | authenticate connection credentials state principal found fresh =>
    exact limited_modifyConnection hlimited ⟨(hlimited connection).memberships,
      (hlimited connection).subscriptions, (hlimited connection).ownedEntities⟩ c
  | leave connection k reason now asked member => exact limited_leave hlimited c
  | subscribe connection spaceKey member installed room =>
    refine limited_modifyConnection hlimited ⟨(hlimited connection).memberships, ?_,
      (hlimited connection).ownedEntities⟩ c
    have hbound := (hlimited connection).subscriptions
    refine Nat.le_trans ExtTreeSet.size_insert_le ?_
    omega
  | unsubscribe connection spaceKey subscribed =>
    refine limited_modifyConnection hlimited ⟨(hlimited connection).memberships, ?_,
      (hlimited connection).ownedEntities⟩ c
    exact ExtTreeSet.size_erase_le.trans (hlimited connection).subscriptions
  | spawn connection spaceKey epoch principal member provisioned installed roomOwned room =>
    refine limited_modifyConnection hlimited ⟨(hlimited connection).memberships,
      (hlimited connection).subscriptions, ?_⟩ c
    have hbound := (hlimited connection).ownedEntities
    show (core.connectionAt connection).ownedEntities + 1 ≤ _
    omega
  | transition request checked moves =>
    exact limited_mapConnections hlimited (fun _ _ h => h.purgeOutbound) c
  | limit request now call clock limiter =>
    exact limited_modifyConnection hlimited ⟨(hlimited _).memberships,
      (hlimited _).subscriptions, (hlimited _).ownedEntities⟩ c
  | deliver request now call clock message recipient principal result queue subscribed
      authenticated allowed scope pushed =>
    exact limited_modifyConnection hlimited ⟨(hlimited _).memberships,
      (hlimited _).subscriptions, (hlimited _).ownedEntities⟩ c
  | drain connection =>
    exact limited_modifyConnection hlimited ⟨(hlimited _).memberships,
      (hlimited _).subscriptions, (hlimited _).ownedEntities⟩ c
  | releasePending connection k now asked =>
    rw [releasePendingAdmission_eq]
    exact hlimited c
  | disconnect connection asked left unbound =>
    unfold connectionAt
    rw [OrderedMap.getElem?_erase]
    split
    · exact ConnectionState.limited_start
    · exact hlimited c
  | _ => exact hlimited c

/-! ## The whole core -/

/-- Every table of the core is within its bound. -/
structure WovenCore.Limited (core : WovenCore) : Prop where
  connections : core.connections.size ≤ core.config.maxConnections
  sessions : core.sessions.size ≤ core.config.maxSessions
  channels : core.channels.size ≤ core.config.maxChannels
  session : ∀ key, (core.sessionAt key).Limited core.config
  connection : ∀ c, (core.connectionAt c).Limited core.config

namespace WovenCore

theorem size_leave {connection : ConnectionId} {k : SessionKey} {reason : ReleaseReason}
    {now : Instant} :
    (core.leave connection k reason now).connections.size = core.connections.size ∧
      (core.leave connection k reason now).sessions.size = core.sessions.size ∧
      (core.leave connection k reason now).channels = core.channels := by
  unfold leave
  rw [releaseSessionAdmission_eq]
  refine ⟨?_, ?_, rfl⟩
  · exact ExtTreeMap.size_modify.trans ExtTreeMap.size_map
  · exact ExtTreeMap.size_modify.trans ExtTreeMap.size_modify

end WovenCore

/-- The three tables of the core itself. -/
theorem Change.size_le (h : Change op core core') (hlimited : core.Limited) :
    core'.connections.size ≤ core.config.maxConnections ∧
      core'.sessions.size ≤ core.config.maxSessions ∧
      core'.channels.size ≤ core.config.maxChannels := by
  obtain ⟨hconnections, hsessions, hchannels, -, -⟩ := hlimited
  cases h with
  | registerChannel channel fresh room =>
    refine ⟨hconnections, hsessions, Nat.le_trans ExtTreeMap.size_insert_le ?_⟩
    omega
  | provisionSession k fresh room =>
    refine ⟨hconnections, Nat.le_trans ExtTreeMap.size_insert_le ?_, hchannels⟩
    omega
  | connect outbound queue room =>
    refine ⟨Nat.le_trans ExtTreeMap.size_insert_le ?_, hsessions, hchannels⟩
    omega
  | disconnect connection asked left unbound =>
    exact ⟨ExtTreeMap.size_erase_le.trans hconnections, hsessions, hchannels⟩
  | leave connection k reason now asked member =>
    obtain ⟨hc, hs, hch⟩ := @size_leave core connection k reason now
    rw [hc, hs, hch]
    exact ⟨hconnections, hsessions, hchannels⟩
  | releasePending connection k now asked =>
    rw [releasePendingAdmission_eq]
    exact ⟨hconnections, hsessions, hchannels⟩
  | _ =>
    -- The other changes modify entries in place.
    refine ⟨?_, ?_, hchannels⟩
    · first
        | exact hconnections
        | exact (Nat.le_of_eq ExtTreeMap.size_modify).trans hconnections
        | exact (Nat.le_of_eq ExtTreeMap.size_map).trans hconnections
    · first
        | exact hsessions
        | exact (Nat.le_of_eq ExtTreeMap.size_modify).trans hsessions

theorem Change.limited (h : Change op core core') (hsound : core.Sound)
    (hlimited : core.Limited) : core'.Limited := by
  obtain ⟨hconnections, hsessions, hchannels⟩ := h.size_le hlimited
  have hconfig := h.config
  refine ⟨?_, ?_, ?_, ?_, ?_⟩
  · rwa [hconfig]
  · rwa [hconfig]
  · rwa [hconfig]
  · intro key
    rw [hconfig]
    exact (h.session key).limited hsound.consistent (hlimited.session key)
  · intro c
    rw [hconfig]
    exact h.connection_limited hlimited.connection c

theorem Initial.limited (h : Initial core) : core.Limited := by
  have hempty := h.empty
  refine ⟨?_, ?_, ?_, ?_, ?_⟩
  · rw [hempty.connections]
    exact Nat.zero_le _
  · rw [hempty.sessions]
    exact Nat.zero_le _
  · obtain ⟨authenticator, config, hnew⟩ := h
    simp only [WovenCore.new, Except.bind_eq_ok, Except.pure_eq_ok] at hnew
    obtain ⟨_, _, rfl⟩ := hnew
    exact Nat.zero_le _
  · intro key
    rw [hempty.sessionAt]
    exact SessionState.limited_empty
  · intro c
    rw [hempty.connectionAt]
    exact ConnectionState.limited_start

theorem Reachable.limited (h : Reachable core) : core.Limited := by
  have hboth : core.Sound ∧ core.Limited := by
    refine Transition.Reachable.invariant (P := fun core => core.Sound ∧ core.Limited) ?_ ?_ h
    · exact fun core hinit => ⟨hinit.empty.sound, hinit.limited⟩
    · rintro core op ⟨hsound, hlimited⟩
      refine (changes_step hsound op).invariant (P := fun core => core.Sound ∧ core.Limited) ?_
        ⟨hsound, hlimited⟩
      rintro before after hchange ⟨hbefore, hwithin⟩
      exact ⟨hchange.sound hbefore, hchange.limited hbefore hwithin⟩
  exact hboth.2

/-- The configured bounds, table by table. -/
structure WithinBounds (core : WovenCore) : Prop where
  connections : core.connections.size ≤ core.config.maxConnections
  sessions : core.sessions.size ≤ core.config.maxSessions
  channels : core.channels.size ≤ core.config.maxChannels
  connection : ∀ (c : ConnectionId) (state : ConnectionState), core.connections[c]? = some state →
    state.memberships.size ≤ core.config.maxMembershipsPerConnection ∧
    state.subscriptions.size ≤ core.config.maxSubscriptionsPerConnection ∧
    state.ownedEntities ≤ core.config.maxOwnedEntitiesPerConnection ∧
    core.ownedCount c ≤ core.config.maxOwnedEntitiesPerConnection
  session : ∀ (key : SessionKey) (session : SessionState), core.sessions[key]? = some session →
    session.entities.size ≤ core.config.maxEntitiesPerSession ∧
    session.spaces.size ≤ core.config.maxSpacesPerSession ∧
    session.state.size ≤ core.config.maxStateEntriesPerSession ∧
    session.stateBytes ≤ core.config.maxStateBytesPerSession ∧
    session.storedBytes ≤ core.config.maxStateBytesPerSession ∧
    session.sequences.size ≤ core.config.maxSequenceKeysPerSession

/-- Every configured bound holds in every reachable state of a core with any valid
configuration, which is the one the core was built with. -/
theorem within_bounds {start : WovenCore} (h : Initial start) (ops : List Op) :
    let core := Transition.run step start ops
    core.config = start.config ∧ WithinBounds core := by
  intro core
  have hreachable : Reachable core := ⟨start, ops, h, rfl⟩
  obtain ⟨hconnections, hsessions, hchannels, hsession, hconnection⟩ := hreachable.limited
  have hconsistent := hreachable.sound.consistent
  refine ⟨config_run h.empty.sound ops, hconnections, hsessions, hchannels, ?_, ?_⟩
  · intro c state hstate
    obtain ⟨hmemberships, hsubscriptions, howned⟩ := hconnection c
    have hcounted := hconsistent.owned c
    rw [connectionAt_of_some hstate] at hmemberships hsubscriptions howned hcounted
    exact ⟨hmemberships, hsubscriptions, howned, hcounted ▸ howned⟩
  · intro key session hfound
    obtain ⟨hentities, hspaces, -, hstate, hbytes, hsequences⟩ := hsession key
    have hstored := (hconsistent.session key).bytes
    rw [sessionAt_of_some hfound] at hentities hspaces hstate hbytes hsequences hstored
    exact ⟨hentities, hspaces, hstate, hbytes, hstored ▸ hbytes, hsequences⟩

theorem within_bounds_published :
    let core := Transition.run step Sample.core Sample.published
    core.connections.size = 1 ∧ (core.sessionAt Sample.session).entities.size = 1 ∧
      WithinBounds core :=
  ⟨by decide +kernel, by decide +kernel, (within_bounds Sample.initial Sample.published).2⟩

end Signalweave
