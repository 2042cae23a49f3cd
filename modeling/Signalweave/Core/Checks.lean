import Signalweave.Core.State

/-!
# Checks and keys (`core.rs`)

The free functions and the `&self` methods that read the state and write nothing.
-/

open Std

namespace Signalweave

/-- Zero is reserved among the numbers of every kind. -/
def requireNonzero (value : Nat) (kind : IdKind) : Except CoreError Unit :=
  if value = 0 then .error (.reservedZeroId kind) else .ok ()

/-- Neither part of the key is zero. -/
def validateSessionKey (key : SessionKey) : Except CoreError Unit := do
  requireNonzero key.namespaceId.get .namespaceId
  requireNonzero key.session.get .session

/-- No part of the key is zero. -/
def validateSpaceKey (key : SpaceKey) : Except CoreError Unit := do
  validateSessionKey key.session
  requireNonzero key.space.get .space

/-- The number of a connection is not zero. -/
def validateConnectionId (connection : ConnectionId) : Except CoreError Unit :=
  requireNonzero connection.get .connection

/-- The entity of a request or a message, where it names one. -/
def requireEntityNonzero : Option EntityId → Except CoreError Unit
  | none => .ok ()
  | some entity => requireNonzero entity.get .entity

/-- The identifiers inside a coalesce key, where there is one. -/
def requireCoalesceKeyNonzero : Option CoalesceKey → Except CoreError Unit
  | none => .ok ()
  | some key => do
    requireNonzero key.channel.get .channel
    requireEntityNonzero key.entity

/-- Nothing that a request names is zero. -/
def validatePublishRequestIds (request : PublishRequest) : Except CoreError Unit := do
  validateSessionKey request.session
  requireNonzero request.space.get .space
  requireNonzero request.spaceEpoch.get .spaceEpoch
  requireNonzero request.channel.get .channel
  requireEntityNonzero request.entity
  requireCoalesceKeyNonzero request.coalesceKey

/-- Nothing that a message names is zero. -/
def validateAuthorizedMessageIds (message : AuthorizedMessage) : Except CoreError Unit := do
  requireNonzero message.space.get .space
  requireNonzero message.spaceEpoch.get .spaceEpoch
  requireNonzero message.channel.get .channel
  requireEntityNonzero message.entity
  requireCoalesceKeyNonzero message.coalesceKey

/-- What each `require_*` function does with the answer of its grant. -/
def requireGrant (allowed : Bool) (denied : CoreError) : Except CoreError Unit :=
  if allowed then .ok () else .error denied

/-- The principal may read the namespace. -/
def requireNamespaceRead (principal : AuthenticatedPrincipal) (id : NamespaceId) :
    Except CoreError Unit :=
  requireGrant (principal.grants.canReadNamespace id) (.namespaceReadAccessDenied id)

/-- The principal may write the namespace. -/
def requireNamespaceWrite (principal : AuthenticatedPrincipal) (id : NamespaceId) :
    Except CoreError Unit :=
  requireGrant (principal.grants.canWriteNamespace id) (.namespaceWriteAccessDenied id)

/-- The principal may read the session. -/
def requireSessionRead (principal : AuthenticatedPrincipal) (session : SessionKey) :
    Except CoreError Unit :=
  requireGrant (principal.grants.canReadSession session) (.sessionReadAccessDenied session)

/-- The principal may write the session. -/
def requireSessionWrite (principal : AuthenticatedPrincipal) (session : SessionKey) :
    Except CoreError Unit :=
  requireGrant (principal.grants.canWriteSession session) (.sessionWriteAccessDenied session)

/-- The principal may read the space. -/
def requireSpaceRead (principal : AuthenticatedPrincipal) (space : SpaceKey) :
    Except CoreError Unit :=
  requireGrant (principal.grants.canReadSpace space) (.spaceReadAccessDenied space)

/-- The principal may write the space. -/
def requireSpaceWrite (principal : AuthenticatedPrincipal) (space : SpaceKey) :
    Except CoreError Unit :=
  requireGrant (principal.grants.canWriteSpace space) (.spaceWriteAccessDenied space)

/-- The principal may read all that a message goes through: namespace, session, space, channel. -/
def canReceive (principal : AuthenticatedPrincipal) (session : SessionKey) (space : SpaceId)
    (channel : ChannelId) : Bool :=
  principal.grants.canReadNamespace session.namespaceId &&
    principal.grants.canReadSession session &&
    principal.grants.canReadSpace ⟨session, space⟩ &&
    principal.grants.canReadChannel ⟨session, channel⟩

/-- A message has the delivery, the persistence and the size that its channel allows. -/
def validateChannelPolicy (channel : ChannelDefinition) (delivery : DeliveryClass)
    (persistence : PersistenceClass) : Except CoreError Unit :=
  if channel.delivery = delivery ∧ channel.persistence = persistence then .ok ()
  else .error (.channelPolicyMismatch channel.id channel.delivery delivery channel.persistence
    persistence)

/-- A coalesce key is required of a replaceable message, and must name its channel and entity. -/
def validateCoalesceKey (message : AuthorizedMessage) : Except CoreError Unit :=
  match message.coalesceKey with
  | none => if message.delivery.isReplaceable then .error .missingCoalesceKey else .ok ()
  | some key =>
    if key.channel ≠ message.channel ∨ key.entity ≠ message.entity then .error .invalidCoalesceKey
    else .ok ()

/-- The component of a coalesce key, zero where there is none. -/
def coalesceComponent (key : Option CoalesceKey) : Nat := key.elim 0 (·.component)

/-- `sequence_key`: the component is that of the coalesce key, zero where there is none. -/
def sequenceKey (connection : ConnectionId) (message : AuthorizedMessage) : SequenceKey :=
  { connection
    space := message.space
    spaceEpoch := message.spaceEpoch
    entity := message.entity
    channel := message.channel
    component := coalesceComponent message.coalesceKey }

/-- `state_key`: the component is that of the coalesce key, zero where there is none. -/
def stateKey (message : AuthorizedMessage) : StateKey :=
  { space := message.space
    spaceEpoch := message.spaceEpoch
    entity := message.entity
    channel := message.channel
    component := coalesceComponent message.coalesceKey }

/-- `validate_parent_anchor`: the parent space and the anchor entity in it are there. -/
def validateParentAnchor (session : SessionState) (parent : ParentAnchor) :
    Except CoreError Unit := do
  if parent.parentSpace ∉ session.spaces then
    throw (.parentSpaceNotFound parent.parentSpace)
  let anchor ← (session.entities[parent.anchorEntity]?).okOr
    (.parentAnchorNotFound parent.anchorEntity)
  if anchor.space ≠ parent.parentSpace then
    throw (.parentAnchorInWrongSpace parent.anchorEntity parent.parentSpace)

namespace WovenCore

/-- The principal that a connection shows. -/
def authenticatedPrincipal (core : WovenCore) (connection : ConnectionId) :
    Except CoreError AuthenticatedPrincipal := do
  let state ← (core.connections[connection]?).okOr (.unknownConnection connection)
  state.authenticated.okOr .authenticationRequired

/-- The connection is in the session. -/
def requireMembership (core : WovenCore) (connection : ConnectionId) (session : SessionKey) :
    Except CoreError Unit := do
  let state ← (core.connections[connection]?).okOr (.unknownConnection connection)
  if session ∉ state.memberships then throw (.sessionMembershipRequired session)

/-- The connection is subscribed to the space. -/
def requireSubscription (core : WovenCore) (connection : ConnectionId) (space : SpaceKey) :
    Except CoreError Unit := do
  let state ← (core.connections[connection]?).okOr (.unknownConnection connection)
  if space ∉ state.subscriptions then throw (.subscriptionRequired space)

end WovenCore

/-! ## What a passed check says -/

@[simp] theorem requireNonzero_eq_ok {value : Nat} {kind : IdKind} {u : Unit} :
    requireNonzero value kind = .ok u ↔ value ≠ 0 := by
  unfold requireNonzero
  split <;> simp_all

@[simp] theorem requireGrant_eq_ok {allowed : Bool} {denied : CoreError} {u : Unit} :
    requireGrant allowed denied = .ok u ↔ allowed = true := by
  cases allowed <;> simp [requireGrant]

@[simp] theorem validateConnectionId_eq_ok {connection : ConnectionId} {u : Unit} :
    validateConnectionId connection = .ok u ↔ connection.get ≠ 0 :=
  requireNonzero_eq_ok

theorem validateParentAnchor_eq_ok {session : SessionState} {parent : ParentAnchor} {u : Unit} :
    validateParentAnchor session parent = .ok u ↔
      parent.parentSpace ∈ session.spaces ∧
        ∃ anchor, session.entities[parent.anchorEntity]? = some anchor ∧
          anchor.space = parent.parentSpace := by
  unfold validateParentAnchor
  by_cases hspace : parent.parentSpace ∈ session.spaces
  · cases hanchor : session.entities[parent.anchorEntity]? with
    | none => simp [hspace]
    | some anchor =>
      by_cases heq : anchor.space = parent.parentSpace <;> simp [hspace, heq]
  · simp [hspace]

theorem authenticatedPrincipal_eq_ok {core : WovenCore} {connection : ConnectionId}
    {principal : AuthenticatedPrincipal} :
    core.authenticatedPrincipal connection = .ok principal ↔
      ∃ state, core.connections[connection]? = some state ∧
        state.authenticated = some principal := by
  simp [WovenCore.authenticatedPrincipal]

theorem requireMembership_eq_ok {core : WovenCore} {connection : ConnectionId}
    {session : SessionKey} {u : Unit} :
    core.requireMembership connection session = .ok u ↔
      ∃ state, core.connections[connection]? = some state ∧ session ∈ state.memberships := by
  unfold WovenCore.requireMembership
  cases core.connections[connection]? with
  | none => simp
  | some state => by_cases h : session ∈ state.memberships <;> simp [h]

theorem requireSubscription_eq_ok {core : WovenCore} {connection : ConnectionId}
    {space : SpaceKey} {u : Unit} :
    core.requireSubscription connection space = .ok u ↔
      ∃ state, core.connections[connection]? = some state ∧ space ∈ state.subscriptions := by
  unfold WovenCore.requireSubscription
  cases core.connections[connection]? with
  | none => simp
  | some state => by_cases h : space ∈ state.subscriptions <;> simp [h]

end Signalweave
