import Signalweave.Ids

/-!
# Principals and their grants (`auth.rs`)
-/

open Std

namespace Signalweave

/-- What a client shows to authenticate. -/
structure Credentials where
  token : String
  deriving DecidableEq

/-- What may be done with something: read it, write it, or both. -/
inductive AccessGrant where
  | read
  | write
  | readWrite
  deriving DecidableEq

/-- `Read | ReadWrite`. -/
def AccessGrant.permitsRead : AccessGrant → Bool
  | .read | .readWrite => true
  | .write => false

/-- `Write | ReadWrite`. -/
def AccessGrant.permitsWrite : AccessGrant → Bool
  | .write | .readWrite => true
  | .read => false

/-- A channel in a session. -/
structure ChannelScope where
  session : SessionKey
  channel : ChannelId
  deriving DecidableEq

/-- First by session, then by channel. -/
def ChannelScope.cmp : ChannelScope → ChannelScope → Ordering :=
  compareLex (compareOn ChannelScope.session) (compareOn ChannelScope.channel)

instance : Ord ChannelScope := ⟨ChannelScope.cmp⟩
instance : TransOrd ChannelScope := inferInstanceAs (TransCmp (compareLex _ _))
instance : LawfulEqOrd ChannelScope := LawfulEqCmp.lex (by
  rintro ⟨s, c⟩ ⟨s', c'⟩ hs hc
  simp_all [compareOn])

/-- `get(&key).is_some_and(permits)`: what each `can_*` method asks of its own table. -/
def granted {κ : Type} [Ord κ] [TransOrd κ] (table : ExtTreeMap κ AccessGrant)
    (permits : AccessGrant → Bool) (key : κ) : Bool :=
  (table[key]?).any permits

/-- What a principal may do, by namespace, session, space and channel. -/
structure AuthorizationGrants where
  namespaces : ExtTreeMap NamespaceId AccessGrant := ∅
  sessions : ExtTreeMap SessionKey AccessGrant := ∅
  spaces : ExtTreeMap SpaceKey AccessGrant := ∅
  channels : ExtTreeMap ChannelScope AccessGrant := ∅

namespace AuthorizationGrants

/-- The grants for the namespace permit reading. -/
def canReadNamespace (grants : AuthorizationGrants) : NamespaceId → Bool :=
  granted grants.namespaces AccessGrant.permitsRead

/-- The grants for the namespace permit writing. -/
def canWriteNamespace (grants : AuthorizationGrants) : NamespaceId → Bool :=
  granted grants.namespaces AccessGrant.permitsWrite

/-- The grants for the session permit reading. -/
def canReadSession (grants : AuthorizationGrants) : SessionKey → Bool :=
  granted grants.sessions AccessGrant.permitsRead

/-- The grants for the session permit writing. -/
def canWriteSession (grants : AuthorizationGrants) : SessionKey → Bool :=
  granted grants.sessions AccessGrant.permitsWrite

/-- The grants for the space permit reading. -/
def canReadSpace (grants : AuthorizationGrants) : SpaceKey → Bool :=
  granted grants.spaces AccessGrant.permitsRead

/-- The grants for the space permit writing. -/
def canWriteSpace (grants : AuthorizationGrants) : SpaceKey → Bool :=
  granted grants.spaces AccessGrant.permitsWrite

/-- The grants for the channel permit reading. -/
def canReadChannel (grants : AuthorizationGrants) : ChannelScope → Bool :=
  granted grants.channels AccessGrant.permitsRead

/-- The grants for the channel permit writing. -/
def canWriteChannel (grants : AuthorizationGrants) : ChannelScope → Bool :=
  granted grants.channels AccessGrant.permitsWrite

end AuthorizationGrants

/-- Who has been authenticated, with the grants. -/
structure AuthenticatedPrincipal where
  principalId : PrincipalId
  grants : AuthorizationGrants

/-- Why credentials are refused. -/
inductive AuthError where
  | invalidCredentials
  deriving DecidableEq

/-- The `Authenticator` trait. -/
structure Authenticator where
  authenticate : Credentials → Except AuthError AuthenticatedPrincipal

end Signalweave
