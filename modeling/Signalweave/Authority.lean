import Signalweave.Model

/-!
# Channel authority (`authority.rs`)

A policy is application code behind a trait object. `evaluate` takes `&self`, so an
implementation may keep state of its own; the number of the call stands for whatever that state
is when the policy is asked, and two calls on one context may answer differently.
-/

namespace Signalweave

/-- What an authority is told of the connection that publishes. -/
structure AuthorityContext where
  connection : ConnectionId
  principal : PrincipalId
  isSessionMember : Bool
  isSpaceSubscriber : Bool
  entityOwner : Option ConnectionId
  deriving DecidableEq

/-- What an authority is told of the message. -/
structure ProposedMessage where
  space : SpaceId
  spaceEpoch : SpaceEpoch
  entity : Option EntityId
  channel : ChannelId
  sequence : Nat
  delivery : DeliveryClass
  persistence : PersistenceClass
  coalesceKey : Option CoalesceKey
  payload : List UInt8
  deriving DecidableEq

/-- What takes the place of the component and the payload of a message. -/
structure AuthorityTransform where
  coalesceKey : Option CoalesceKey
  payload : List UInt8
  deriving DecidableEq

/-- A message that an authority has sent instead. -/
structure AuthorityEmission where
  space : SpaceId
  spaceEpoch : SpaceEpoch
  entity : Option EntityId
  channel : ChannelId
  sequence : Nat
  delivery : DeliveryClass
  persistence : PersistenceClass
  coalesceKey : Option CoalesceKey
  payload : List UInt8
  deriving DecidableEq

/-- Why an authority rejects a message. -/
inductive AuthorityRejection where
  | authenticationRequired
  | sessionMembershipRequired
  | spaceSubscriptionRequired
  | entityRequired
  | entityNotOwned
  | policyDenied
  deriving DecidableEq

/-- What an authority decides on a message. -/
inductive AuthorityOutcome where
  | accept
  | reject (reason : AuthorityRejection)
  | transform (transformed : AuthorityTransform)
  | emit (emissions : List AuthorityEmission)
  deriving DecidableEq

/-- The `AuthorityPolicy` trait. -/
structure AuthorityPolicy where
  evaluate : (call : Nat) → AuthorityContext → ProposedMessage → AuthorityOutcome

/-- `RelayOwned`, the default policy. -/
def relayOwned : AuthorityPolicy where
  evaluate _ context proposed :=
    if !context.isSessionMember then .reject .sessionMembershipRequired
    else if !context.isSpaceSubscriber then .reject .spaceSubscriptionRequired
    else if proposed.entity.isNone then .reject .entityRequired
    else if context.entityOwner ≠ some context.connection then .reject .entityNotOwned
    else .accept

/-- A channel: how and for how long its messages live, how long they may be, and the authority
over them. -/
structure ChannelDefinition where
  id : ChannelId
  delivery : DeliveryClass
  persistence : PersistenceClass
  maxPayloadBytes : Nat
  authority : AuthorityPolicy

/-- `ChannelDefinition::relay_owned`. -/
def ChannelDefinition.relayOwned (id : ChannelId) (delivery : DeliveryClass)
    (persistence : PersistenceClass) (maxPayloadBytes : Nat) : ChannelDefinition :=
  { id, delivery, persistence, maxPayloadBytes, authority := Signalweave.relayOwned }

end Signalweave
