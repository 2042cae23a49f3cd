import Signalweave.Library.OrderedMap

/-!
# Typed identifiers

`define_id!` (`ids.rs`) makes one newtype over `u64` for each kind of identifier. Here the kind
is a parameter, so that the order and the equality test of all of them are given once.
-/

open Std

namespace Signalweave

/-- The newtypes of `ids.rs`. -/
inductive IdTag where
  | namespaceId
  | session
  | space
  | entity
  | connection
  | principal
  | channel
  | spaceEpoch
  | node

/-- An identifier of one kind. -/
structure TypedId (tag : IdTag) where
  get : Nat
  deriving DecidableEq

namespace TypedId

variable {tag : IdTag}

theorem get_injective : Function.Injective (get : TypedId tag → Nat) := by
  rintro ⟨a⟩ ⟨b⟩ h
  exact congrArg mk h

instance : Ord (TypedId tag) := ⟨compareOn get⟩
instance : TransOrd (TypedId tag) := inferInstanceAs (TransCmp (compareOn get))
instance : LawfulEqOrd (TypedId tag) := LawfulEqCmp.on get_injective

instance : LE (TypedId tag) := ⟨fun a b => a.get ≤ b.get⟩
instance : LT (TypedId tag) := ⟨fun a b => a.get < b.get⟩
instance : DecidableRel (LE.le : TypedId tag → TypedId tag → Prop) :=
  fun a b => Nat.decLe a.get b.get
instance : DecidableRel (LT.lt : TypedId tag → TypedId tag → Prop) :=
  fun a b => Nat.decLt a.get b.get

end TypedId

/-- A namespace of sessions. -/
abbrev NamespaceId := TypedId .namespaceId

/-- A session within its namespace. -/
abbrev SessionId := TypedId .session

/-- A space within its session. -/
abbrev SpaceId := TypedId .space

/-- An entity, numbered by the core over all sessions. -/
abbrev EntityId := TypedId .entity

/-- A connection, numbered by the core. -/
abbrev ConnectionId := TypedId .connection

/-- Whoever has authenticated. -/
abbrev PrincipalId := TypedId .principal

/-- A channel, the same in all sessions. -/
abbrev ChannelId := TypedId .channel

/-- The number of an incarnation of a space. -/
abbrev SpaceEpoch := TypedId .spaceEpoch

/-- A server process that reports usage. -/
abbrev NodeId := TypedId .node

/-- `SessionKey` (`ids.rs`), ordered by namespace and then by session. -/
structure SessionKey where
  namespaceId : NamespaceId
  session : SessionId
  deriving DecidableEq

/-- First by namespace, then by session. -/
def SessionKey.cmp : SessionKey → SessionKey → Ordering :=
  compareLex (compareOn SessionKey.namespaceId) (compareOn SessionKey.session)

instance : Ord SessionKey := ⟨SessionKey.cmp⟩
instance : TransOrd SessionKey := inferInstanceAs (TransCmp (compareLex _ _))
instance : LawfulEqOrd SessionKey := LawfulEqCmp.lex (by
  rintro ⟨n, s⟩ ⟨n', s'⟩ hn hs
  simp_all [compareOn])

/-- `SpaceKey` (`ids.rs`), ordered by session and then by space. -/
structure SpaceKey where
  session : SessionKey
  space : SpaceId
  deriving DecidableEq

/-- First by session, then by space. -/
def SpaceKey.cmp : SpaceKey → SpaceKey → Ordering :=
  compareLex (compareOn SpaceKey.session) (compareOn SpaceKey.space)

instance : Ord SpaceKey := ⟨SpaceKey.cmp⟩
instance : TransOrd SpaceKey := inferInstanceAs (TransCmp (compareLex _ _))
instance : LawfulEqOrd SpaceKey := LawfulEqCmp.lex (by
  rintro ⟨k, s⟩ ⟨k', s'⟩ hk hs
  simp_all [compareOn])

end Signalweave
