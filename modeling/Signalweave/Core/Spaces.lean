import Signalweave.Core.Sessions

/-!
# Installing a space and advancing its epoch (`core.rs`)
-/

open Std

namespace Signalweave

/-- What an installed space adds to its session. -/
def SessionState.installSpace (session : SessionState) (descriptor : SpaceDescriptor) :
    SessionState :=
  { session with
    spaceEpochTombstones := session.spaceEpochTombstones.erase descriptor.id
    subscribers := session.subscribers.insert descriptor.id ∅
    spaces := session.spaces.insert descriptor.id descriptor }

/-- The tombstone check of `install_space`: a former id needs a later epoch, and a new id needs
room in the history. -/
def checkSpaceHistory (config : CoreConfig) (session : SessionState)
    (descriptor : SpaceDescriptor) : Except CoreError Unit :=
  match session.spaceEpochTombstones[descriptor.id]? with
  | some previous =>
    if descriptor.epoch ≤ previous then .error (.epochDidNotAdvance previous descriptor.epoch)
    else .ok ()
  | none =>
    if session.spaces.size + session.spaceEpochTombstones.size =
        config.maxSpaceEpochTombstonesPerSession then .error .spaceIdHistoryLimitReached
    else .ok ()

/-- The parent check of `install_space`. -/
def checkParent (session : SessionState) (descriptor : SpaceDescriptor) : Except CoreError Unit :=
  match descriptor.parent with
  | none => .ok ()
  | some parent => validateParentAnchor session parent

/-- `install_space`. -/
def installSpace (key : SessionKey) (descriptor : SpaceDescriptor) : CoreM Unit := do
  validateSessionKey key
  match descriptor.validate with
  | .error error => throw (CoreError.invalidSpace error)
  | .ok _ => pure ()
  let core ← get
  let session ← (core.sessions[key]?).okOr (CoreError.sessionNotFound key)
  if descriptor.id ∈ session.spaces then
    throw (CoreError.spaceAlreadyExists ⟨key, descriptor.id⟩)
  if session.spaces.size = core.config.maxSpacesPerSession then
    throw CoreError.spaceLimitReached
  checkSpaceHistory core.config session descriptor
  checkParent session descriptor
  withSession key fun session => session.installSpace descriptor

/-- What `advance_space_epoch` does to the session once the old incarnation is removed. -/
def SessionState.advanceEpoch (session : SessionState) (space : SpaceId) (proposed : SpaceEpoch) :
    SessionState :=
  let session := { session with
    spaces := session.spaces.modify space fun descriptor => { descriptor with epoch := proposed }
    state := session.state.filter fun key _ => key.space ≠ space }
  let session := session.recomputeStateBytes
  { session with sequences := session.sequences.filter fun key _ => key.space ≠ space }

/-- The entities that an epoch advance removes first. -/
def WovenCore.spaceEntities (core : WovenCore) (key : SessionKey) (space : SpaceId) :
    ExtTreeSet EntityId :=
  core.entitiesWhere key fun entity => entity.space == space

/-- The space is looked up again after the removal cascade has run: this second lookup can fail
with the removal already made. -/
def advanceSpaceEpoch (key : SessionKey) (space : SpaceId) (proposed : SpaceEpoch) :
    CoreM CleanupSummary := do
  validateSessionKey key
  requireNonzero space.get .space
  requireNonzero proposed.get .spaceEpoch
  let core ← get
  let session ← (core.sessions[key]?).okOr (CoreError.sessionNotFound key)
  let descriptor ← (session.spaces[space]?).okOr (CoreError.spaceNotFound ⟨key, space⟩)
  if proposed ≤ descriptor.epoch then
    throw (CoreError.epochDidNotAdvance descriptor.epoch proposed)
  let (summary, core) :=
    core.removeEntitiesAndAnchoredSpaces key (core.spaceEntities key space)
  let discarded := core.purgedMessages fun message => message.inSpace ⟨key, space⟩
  let core := core.mapConnections fun _ state =>
    state.purgeOutbound fun message => message.inSpace ⟨key, space⟩
  set core
  let session ← (core.sessions[key]?).okOr (CoreError.sessionNotFound key)
  let _ ← (session.spaces[space]?).okOr (CoreError.spaceNotFound ⟨key, space⟩)
  set (core.modifySession key fun session => session.advanceEpoch space proposed)
  return { summary with
    queuedMessagesDiscarded := summary.queuedMessagesDiscarded + discarded }

end Signalweave
