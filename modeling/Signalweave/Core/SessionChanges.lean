import Signalweave.Core.Soundness

/-!
# What a change does to one session

Most changes leave all sessions alone, and none touches two. What a change can do to a session is
listed once, so that an invariant of a session is proved once for each entry of the list.
-/

open Std

namespace Signalweave

open Stateful WovenCore

/-- The operation lets a connection read a space, or stop reading it. -/
def Op.subscribes : Op → SessionKey → Prop
  | .subscribe _ spaceKey, key | .unsubscribe _ spaceKey, key => spaceKey.session = key
  | _, _ => False

/-- What a change of an operation can make of the session under a key. -/
inductive SessionChange (core : WovenCore) (key : SessionKey) : Op → SessionState → Prop
  | same {op : Op} : SessionChange core key op (core.sessionAt key)
  | join {op : Op} (connection : ConnectionId) (asked : op.joins connection key) :
      SessionChange core key op { core.sessionAt key with
        members := (core.sessionAt key).members.insert connection }
  | installSpace (descriptor : SpaceDescriptor)
      (fresh : descriptor.id ∉ (core.sessionAt key).spaces)
      (room : (core.sessionAt key).spaces.size ≠ core.config.maxSpacesPerSession)
      (history : checkSpaceHistory core.config (core.sessionAt key) descriptor = .ok ())
      (parent : checkParent (core.sessionAt key) descriptor = .ok ()) :
      SessionChange core key (.installSpace key descriptor)
        ((core.sessionAt key).installSpace descriptor)
  | remove {op : Op} (initial : ExtTreeSet EntityId) (asked : op.removes key) :
      SessionChange core key op
        ((core.sessionAt key).dropRemoved ((core.sessionAt key).cascade initial))
  | advanceEpoch (space : SpaceId) (proposed : SpaceEpoch) (descriptor : SpaceDescriptor)
      (found : (core.sessionAt key).spaces[space]? = some descriptor)
      (later : descriptor.epoch < proposed)
      (empty : ∀ (id : EntityId) (record : EntityRecord),
        (core.sessionAt key).entities[id]? = some record → record.space ≠ space) :
      SessionChange core key (.advanceSpaceEpoch key space proposed)
        ((core.sessionAt key).advanceEpoch space proposed)
  | leave {op : Op} (connection : ConnectionId) (initial : ExtTreeSet EntityId)
      (asked : op.detaches connection key) :
      SessionChange core key op (((core.sessionAt key).dropRemoved
        ((core.sessionAt key).cascade initial)).leave connection)
  | subscribers {op : Op} (space : SpaceId)
      (f : ExtTreeSet ConnectionId → ExtTreeSet ConnectionId) (asked : op.subscribes key) :
      SessionChange core key op { core.sessionAt key with
        subscribers := (core.sessionAt key).subscribers.modify space f }
  | spawn (connection : ConnectionId) (space : SpaceId) (epoch : SpaceEpoch)
      (principal : PrincipalId) (installed : (core.sessionAt key).Installed space epoch)
      (room : (core.sessionAt key).entities.size ≠ core.config.maxEntitiesPerSession) :
      SessionChange core key (.spawnEntity connection ⟨key, space⟩ epoch)
        { core.sessionAt key with
          entities := (core.sessionAt key).entities.insert ⟨core.nextEntityId⟩
            { id := ⟨core.nextEntityId⟩, ownerConnection := connection,
              ownerPrincipal := principal, space, spaceEpoch := epoch, position := none } }
  | move (connection : ConnectionId) (entity : EntityId) (position : EntityPosition)
      (cell : Option SpatialCellKey) (record : EntityRecord) (descriptor : SpaceDescriptor)
      (entityFound : (core.sessionAt key).entities[entity]? = some record)
      (spaceFound : (core.sessionAt key).spaces[record.space]? = some descriptor)
      (valid : position.validateForFrame descriptor.localFrame = .ok ())
      (indexed : spatialCellFor position descriptor record.spaceEpoch = .ok cell) :
      SessionChange core key (.updateEntityPosition connection key entity position)
        (((core.sessionAt key).moveToCell entity cell).modifyEntity entity fun record =>
          { record with position := some position })
  | transition (request : EntityTransitionRequest) (addressed : request.session = key)
      (record : EntityRecord) (checked : core.TransitionChecked request record)
      (moves : request.sourceSpace ≠ request.destinationSpace) :
      SessionChange core key (.transitionEntity request)
        ((core.sessionAt key).transition request)
  | commit (request : PublishRequest) (addressed : request.session = key) (now : Instant)
      (call : Nat) (clock : ReleaseClock) (plan : PublishPlan)
      (planned : core.planPublish request call = .ok plan) :
      SessionChange core key (.publishAt request now call clock)
        ((core.sessionAt key).commit plan)

variable {core core' : WovenCore} {key : SessionKey} {op : Op}

theorem SessionChange.of_eq (h : core'.sessionAt key = core.sessionAt key) :
    SessionChange core key op (core'.sessionAt key) := by
  rw [h]
  exact .same

/-- A change of the session under one key, seen from any key. -/
theorem SessionChange.of_modify {k : SessionKey} {f : SessionState → SessionState}
    (hsessions : core'.sessionAt key =
      if key = k ∧ k ∈ core.sessions then f (core.sessionAt key) else core.sessionAt key)
    (hchange : k = key → key ∈ core.sessions →
      SessionChange core key op (f (core.sessionAt key))) :
    SessionChange core key op (core'.sessionAt key) := by
  rw [hsessions]
  split
  · rename_i hk
    exact hchange hk.1.symm (hk.1 ▸ hk.2)
  · exact .same

theorem sessionAt_leave (core : WovenCore) (connection : ConnectionId) (k key : SessionKey)
    (reason : ReleaseReason) (now : Instant) :
    ∃ initial, (core.leave connection k reason now).sessionAt key =
      if key = k ∧ k ∈ core.sessions then
        ((core.sessionAt key).dropRemoved ((core.sessionAt key).cascade initial)).leave connection
      else core.sessionAt key := by
  unfold WovenCore.leave
  rw [releaseSessionAdmission_eq]
  generalize hreleased : { core with
    admissions := (core.releaseSessionAdmission connection k reason now).admissions
    admissionLeases :=
      (core.releaseSessionAdmission connection k reason now).admissionLeases } = released
  have hs : released.sessions = core.sessions := by
    rw [← hreleased]
  have hat : ∀ k, released.sessionAt k = core.sessionAt k := by
    intro k
    rw [sessionAt, sessionAt, hs]
  refine ⟨released.entitiesWhere k fun record => record.ownerConnection == connection, ?_⟩
  show ((released.dropRemoved k (released.removalOf k _)).dropMembership connection k).sessionAt
    key = _
  rw [dropMembership, sessionAt_modifyConnection, sessionAt_modifySession, sessionAt_dropRemoved]
  by_cases hk : key = k ∧ k ∈ core.sessions
  · have hin : k ∈ released.sessions := hs ▸ hk.2
    rw [if_pos ⟨hk.1, mem_sessions_dropRemoved.mpr hin⟩, if_pos ⟨hk.1, hin⟩, if_pos hk,
      removalOf_of_mem hin, hat, hat, hk.1]
  · have hout : ¬ (key = k ∧ k ∈ released.sessions) := hs ▸ hk
    rw [if_neg fun hin => hout ⟨hin.1, mem_sessions_dropRemoved.mp hin.2⟩, if_neg hout, if_neg hk,
      hat]

theorem Change.session (h : Change op core core') (key : SessionKey) :
    SessionChange core key op (core'.sessionAt key) := by
  cases h with
  | provisionSession k fresh room => exact .of_eq (sessionAt_provision fresh key)
  | join connection k asked principal authenticated readsNamespace readsSession provisioned bound
      room =>
    apply SessionChange.of_modify (k := k) sessionAt_modifySession
    rintro rfl -
    exact .join connection asked
  | installSpace k descriptor session found valid fresh room history parent =>
    apply SessionChange.of_modify (k := k) sessionAt_modifySession
    rintro rfl -
    obtain rfl := sessionAt_of_some found
    exact .installSpace descriptor fresh room history parent
  | removeEntities k initial asked =>
    apply SessionChange.of_modify (k := k) (f := fun session =>
      session.dropRemoved (core.removalOf k initial)) sessionAt_dropRemoved
    rintro rfl hkey
    rw [removalOf_of_mem hkey]
    exact .remove initial asked
  | advanceEpoch k space proposed descriptor found later empty =>
    apply SessionChange.of_modify (k := k) sessionAt_modifySession
    rintro rfl -
    exact .advanceEpoch space proposed descriptor found later empty
  | leave connection k reason now asked member =>
    obtain ⟨initial, hafter⟩ := sessionAt_leave core connection k key reason now
    apply SessionChange.of_modify (k := k) (f := fun session =>
      (session.dropRemoved (session.cascade initial)).leave connection) hafter
    rintro rfl -
    exact .leave connection initial asked
  | subscribe connection spaceKey member installed room =>
    apply SessionChange.of_modify (k := spaceKey.session) sessionAt_modifySession
    rintro rfl -
    exact .subscribers spaceKey.space _ rfl
  | unsubscribe connection spaceKey subscribed =>
    apply SessionChange.of_modify (k := spaceKey.session) sessionAt_modifySession
    rintro rfl -
    exact .subscribers spaceKey.space _ rfl
  | spawn connection spaceKey epoch principal member provisioned installed roomOwned room =>
    apply SessionChange.of_modify (k := spaceKey.session) sessionAt_modifySession
    rintro rfl -
    exact .spawn connection spaceKey.space epoch principal.principalId installed room
  | move connection k entity position cell session record descriptor found entityFound spaceFound
      valid indexed =>
    apply SessionChange.of_modify (k := k) sessionAt_modifySession
    rintro rfl -
    obtain rfl := sessionAt_of_some found
    exact .move connection entity position cell record descriptor entityFound spaceFound valid
      indexed
  | transition request checked moves =>
    obtain ⟨record, hrecord⟩ := checkTransition_eq_ok checked
    apply SessionChange.of_modify (k := request.session) sessionAt_modifySession
    rintro rfl -
    exact .transition request rfl record hrecord moves
  | commit request now call clock plan planned =>
    apply SessionChange.of_modify (k := request.session) sessionAt_modifySession
    rintro rfl -
    exact .commit request rfl now call clock plan planned
  | releasePending connection k now asked =>
    rw [releasePendingAdmission_eq]
    exact .same
  | _ => exact .same

end Signalweave
