import Signalweave.Core.Change
import Signalweave.Library.Refinement
import Signalweave.Library.Support

/-!
# The world that the core keeps

What the core is for, without its indexes, counters, queues and limits: people who are online,
the sessions they are members of, the spaces they read, the spaces and the entities of a session
and the values published there. An entity is in the world as long as its owner is a member of the
session and its space stands in the incarnation the entity was put into; a nested space stands as
long as its parent space and its anchor do. Whatever an operation does away with, the world
settles afterwards: what has lost its support falls, and with it who read it and what was
published there.
-/

namespace Signalweave

/-- Who is there, who reads what, and which spaces, entities and values there are. -/
@[ext] structure World where
  channel : ChannelId → Option ChannelDefinition
  session : Set SessionKey
  online : Set ConnectionId
  principal : ConnectionId → Option AuthenticatedPrincipal
  member : Set (ConnectionId × SessionKey)
  reads : Set (ConnectionId × SpaceKey)
  space : SpaceKey → Option SpaceDescriptor
  entity : SessionKey → EntityId → Option EntityRecord
  value : SessionKey → StateKey → Option StateRecord

namespace AuthenticatedPrincipal

/-- The grants let the principal read the session. -/
def ReadsSession (principal : AuthenticatedPrincipal) (key : SessionKey) : Prop :=
  principal.grants.canReadNamespace key.namespaceId = true ∧
    principal.grants.canReadSession key = true

/-- The grants let the principal read the space. -/
def ReadsSpace (principal : AuthenticatedPrincipal) (spaceKey : SpaceKey) : Prop :=
  principal.ReadsSession spaceKey.session ∧ principal.grants.canReadSpace spaceKey = true

/-- The grants let the principal write the space. -/
def WritesSpace (principal : AuthenticatedPrincipal) (spaceKey : SpaceKey) : Prop :=
  principal.grants.canWriteNamespace spaceKey.session.namespaceId = true ∧
    principal.grants.canWriteSession spaceKey.session = true ∧
      principal.grants.canWriteSpace spaceKey = true

end AuthenticatedPrincipal

/-- What can fall. -/
inductive Thing where
  | space (spaceKey : SpaceKey)
  | entity (key : SessionKey) (id : EntityId)

namespace World

/-- The world before anything has happened. -/
def empty : World where
  channel _ := none
  session := ∅
  online := ∅
  principal _ := none
  member := ∅
  reads := ∅
  space _ := none
  entity _ _ := none
  value _ _ := none

/-- The connection acts for a principal with the right. -/
def Acts (w : World) (connection : ConnectionId) (right : AuthenticatedPrincipal → Prop) : Prop :=
  ∃ principal, w.principal connection = some principal ∧ right principal

/-- The space is there, in this incarnation. -/
def Installed (w : World) (spaceKey : SpaceKey) (epoch : SpaceEpoch) : Prop :=
  ∃ descriptor, w.space spaceKey = some descriptor ∧ descriptor.epoch = epoch

/-- The space is there in this incarnation, and the entity, where one is named, is in it. -/
def InPlace (w : World) (spaceKey : SpaceKey) (epoch : SpaceEpoch) (entity : Option EntityId) :
    Prop :=
  w.Installed spaceKey epoch ∧ ∀ id, entity = some id →
    ∃ record, w.entity spaceKey.session id = some record ∧ record.space = spaceKey.space

/-! ## What rests on what -/

/-- An entity rests on its space, a nested space on its anchor and on its parent space. -/
inductive Rests (w : World) : Thing → Thing → Prop
  | place {key : SessionKey} {id : EntityId} {record : EntityRecord}
      (found : w.entity key id = some record) :
      Rests w (.entity key id) (.space ⟨key, record.space⟩)
  | anchor {spaceKey : SpaceKey} {descriptor : SpaceDescriptor} {parent : ParentAnchor}
      (found : w.space spaceKey = some descriptor) (nested : descriptor.parent = some parent) :
      Rests w (.space spaceKey) (.entity spaceKey.session parent.anchorEntity)
  | parent {spaceKey : SpaceKey} {descriptor : SpaceDescriptor} {parent : ParentAnchor}
      (found : w.space spaceKey = some descriptor) (nested : descriptor.parent = some parent) :
      Rests w (.space spaceKey) (.space ⟨spaceKey.session, parent.parentSpace⟩)

/-- An entity is supported by itself where its owner is a member and its space is there. -/
def Supported (w : World) (key : SessionKey) (record : EntityRecord) : Prop :=
  (record.ownerConnection, key) ∈ w.member ∧ w.Installed ⟨key, record.space⟩ record.spaceEpoch

/-- What is not there, and what has lost its own support. -/
def Gone (w : World) : Thing → Prop
  | .space spaceKey => w.space spaceKey = none
  | .entity key id => ∀ record, w.entity key id = some record → ¬ w.Supported key record

/-- What falls in the world: what is gone, or rests on what falls. -/
def Falls (w : World) : Thing → Prop := Support.Falls w.Rests w.Gone

open Classical in
/-- The spaces and the entities that stand. -/
noncomputable def standing (w : World) : World :=
  { w with
    space := fun spaceKey => if w.Falls (.space spaceKey) then none else w.space spaceKey
    entity := fun key id => if w.Falls (.entity key id) then none else w.entity key id }

open Classical in
/-- The world once everything has fallen that has lost its support: nobody reads a space that is
not there or of a session it is no member of, and no value outlasts its place. -/
noncomputable def settle (w : World) : World :=
  { w.standing with
    reads := {pair | pair ∈ w.reads ∧ (pair.1, pair.2.session) ∈ w.member ∧
      (w.standing.space pair.2).isSome}
    value := fun key stateKey =>
      if w.standing.InPlace ⟨key, stateKey.space⟩ stateKey.spaceEpoch stateKey.entity
      then w.value key stateKey else none }

/-! ## What an operation does before the world settles -/

/-- Connections are no longer members of sessions. -/
def expel (w : World) (pairs : Set (ConnectionId × SessionKey)) : World :=
  { w with member := w.member \ pairs }

open Classical in
/-- Connections are gone, but not what they have left behind. -/
noncomputable def offline (w : World) (lost : Set ConnectionId) : World :=
  { w with
    online := w.online \ lost
    principal := fun connection => if connection ∈ lost then none else w.principal connection }

/-- Connections are gone. -/
noncomputable def without (w : World) (lost : Set ConnectionId) : World :=
  (w.expel {pair | pair.1 ∈ lost}).offline lost

/-- Put an entity into the world or take it out. -/
def setEntity (w : World) (key : SessionKey) (id : EntityId) (record : Option EntityRecord) :
    World :=
  { w with entity := fun k i => if k = key ∧ i = id then record else w.entity k i }

/-- Put a space into the world. -/
def setSpace (w : World) (spaceKey : SpaceKey) (descriptor : SpaceDescriptor) : World :=
  { w with space := fun s => if s = spaceKey then some descriptor else w.space s }

/-- The value table of a session after one message. -/
def storeOne (value : StateKey → Option StateRecord) (message : AuthorizedMessage) :
    StateKey → Option StateRecord := fun k =>
  if message.persistence = .stateful ∧ k = stateKey message
  then some { sequence := message.sequence, payload := message.payload } else value k

/-- The messages of a publication are stored, each on those before it. -/
def store (w : World) (key : SessionKey) (messages : List AuthorizedMessage) : World :=
  { w with value := fun k => if k = key then messages.foldl storeOne (w.value k) else w.value k }

/-- The message has its place, and its channel takes it. -/
structure Publishes (w : World) (key : SessionKey) (message : AuthorizedMessage) : Prop where
  inPlace : w.InPlace ⟨key, message.space⟩ message.spaceEpoch message.entity
  channel : ∃ channel, w.channel message.channel = some channel ∧
    channel.delivery = message.delivery ∧ channel.persistence = message.persistence ∧
      message.payload.length ≤ channel.maxPayloadBytes

/-- What the authority of a channel is told of a publication. -/
def authorityContext (w : World) (request : PublishRequest) (principal : AuthenticatedPrincipal) :
    AuthorityContext where
  connection := request.connection
  principal := principal.principalId
  isSessionMember := true
  isSpaceSubscriber := true
  entityOwner := (request.entity.bind fun id => w.entity request.session id).map
    EntityRecord.ownerConnection

/-- What the answer of an authority makes of a request. -/
inductive Makes (request : PublishRequest) : AuthorityOutcome → List AuthorizedMessage → Prop
  | accept : Makes request .accept [.fromRequest request]
  | transform (transformed : AuthorityTransform) : Makes request (.transform transformed)
      [{ AuthorizedMessage.fromRequest request with
        coalesceKey := transformed.coalesceKey
        payload := transformed.payload }]
  | emit (emissions : List AuthorityEmission) :
      Makes request (.emit emissions) (emissions.map AuthorizedMessage.fromEmission)

/-- The authority of the channel decides on the messages of a publication. -/
def Decides (w : World) (request : PublishRequest) (call : Nat)
    (messages : List AuthorizedMessage) : Prop :=
  ∃ channel principal, w.channel request.channel = some channel ∧
    w.principal request.connection = some principal ∧
      Makes request (channel.authority.evaluate call (w.authorityContext request principal)
        (WovenCore.proposedMessage request)) messages

end World

/-- The operation is about admissions, queues or the journal alone. -/
def Op.elsewhere : Op → Prop
  | .configureSessionAdmission .. | .applySessionCapacityAt .. | .requestSessionAdmissionAt ..
  | .drainOutbound .. | .popJournalRecord => True
  | _ => False

open World

/-- What an operation does to the world, with its success. Whoever acts has the right to, and a
refused operation does nothing; only the advance of a space that stands on one of its own entities
takes the space away and fails. -/
inductive World.Step (authenticator : Authenticator) (w : World) : Op × Bool → World → Prop
  | refused (op : Op) : Step authenticator w (op, false) w
  | elsewhere (op : Op) (h : op.elsewhere) : Step authenticator w (op, true) w
  | registerChannel (channel : ChannelDefinition) (fresh : w.channel channel.id = none) :
      Step authenticator w (.registerChannel channel, true)
        { w with channel := fun id => if id = channel.id then some channel else w.channel id }
  | provisionSession (key : SessionKey) (fresh : key ∉ w.session) :
      Step authenticator w (.provisionSession key, true) { w with session := insert key w.session }
  | installSpace (key : SessionKey) (descriptor : SpaceDescriptor) (provisioned : key ∈ w.session)
      (fresh : w.space ⟨key, descriptor.id⟩ = none)
      (nested : ∀ parent, descriptor.parent = some parent →
        (w.space ⟨key, parent.parentSpace⟩).isSome ∧
          ∃ record, w.entity key parent.anchorEntity = some record ∧
            record.space = parent.parentSpace) :
      Step authenticator w (.installSpace key descriptor, true)
        (w.setSpace ⟨key, descriptor.id⟩ descriptor)
  | advanceSpaceEpoch (key : SessionKey) (space : SpaceId) (proposed : SpaceEpoch)
      (descriptor : SpaceDescriptor) (found : w.space ⟨key, space⟩ = some descriptor)
      (later : descriptor.epoch < proposed) (w' : World)
      (settled : w' = (w.setSpace ⟨key, space⟩ { descriptor with epoch := proposed }).settle) :
      Step authenticator w
        (.advanceSpaceEpoch key space proposed, (w'.space ⟨key, space⟩).isSome) w'
  | transportConnected (connection : ConnectionId) (fresh : connection ∉ w.online) :
      Step authenticator w (.transportConnected, true)
        { w with online := insert connection w.online }
  | authenticate (connection : ConnectionId) (credentials : Credentials)
      (principal : AuthenticatedPrincipal) (online : connection ∈ w.online)
      (fresh : w.principal connection = none)
      (vouched : authenticator.authenticate credentials = .ok principal) :
      Step authenticator w (.authenticate connection credentials, true)
        { w with principal := fun c =>
            if c = connection then some principal else w.principal c }
  | join (op : Op) (connection : ConnectionId) (key : SessionKey) (asked : op.joins connection key)
      (provisioned : key ∈ w.session)
      (reads : w.Acts connection fun principal => principal.ReadsSession key) :
      Step authenticator w (op, true) { w with member := insert (connection, key) w.member }
  | leaveSession (connection : ConnectionId) (key : SessionKey) (now : Instant)
      (member : (connection, key) ∈ w.member) :
      Step authenticator w (.leaveSession connection key now, true)
        (w.expel {(connection, key)}).settle
  | subscribe (connection : ConnectionId) (spaceKey : SpaceKey)
      (member : (connection, spaceKey.session) ∈ w.member) (installed : (w.space spaceKey).isSome)
      (reads : w.Acts connection fun principal => principal.ReadsSpace spaceKey) :
      Step authenticator w (.subscribe connection spaceKey, true)
        { w with reads := insert (connection, spaceKey) w.reads }
  | unsubscribe (connection : ConnectionId) (spaceKey : SpaceKey) :
      Step authenticator w (.unsubscribe connection spaceKey, true)
        { w with reads := w.reads \ {(connection, spaceKey)} }
  | spawnEntity (connection : ConnectionId) (spaceKey : SpaceKey) (epoch : SpaceEpoch)
      (id : EntityId) (principal : AuthenticatedPrincipal)
      (authenticated : w.principal connection = some principal)
      (writes : principal.WritesSpace spaceKey) (reads : (connection, spaceKey) ∈ w.reads)
      (installed : w.Installed spaceKey epoch) (fresh : ∀ key, w.entity key id = none) :
      Step authenticator w (.spawnEntity connection spaceKey epoch, true)
        (w.setEntity spaceKey.session id (some
          { id, ownerConnection := connection, ownerPrincipal := principal.principalId,
            space := spaceKey.space, spaceEpoch := epoch, position := none }))
  | updateEntityPosition (connection : ConnectionId) (key : SessionKey) (id : EntityId)
      (position : EntityPosition) (record : EntityRecord)
      (found : w.entity key id = some record) (own : record.ownerConnection = connection)
      (reads : (connection, ⟨key, record.space⟩) ∈ w.reads)
      (writes : w.Acts connection fun principal => principal.WritesSpace ⟨key, record.space⟩) :
      Step authenticator w (.updateEntityPosition connection key id position, true)
        (w.setEntity key id (some { record with position := some position }))
  | removeEntity (connection : ConnectionId) (key : SessionKey) (id : EntityId)
      (record : EntityRecord) (found : w.entity key id = some record)
      (own : record.ownerConnection = connection) :
      Step authenticator w (.removeEntity connection key id, true) (w.setEntity key id none).settle
  | transitionEntity (request : EntityTransitionRequest) (record : EntityRecord)
      (found : w.entity request.session request.entity = some record)
      (own : record.ownerConnection = request.connection)
      (source : record.space = request.sourceSpace)
      (destination : w.Installed ⟨request.session, request.destinationSpace⟩
        request.destinationEpoch)
      (reads : (request.connection, ⟨request.session, request.destinationSpace⟩) ∈ w.reads)
      (writes : w.Acts request.connection fun principal =>
        principal.WritesSpace ⟨request.session, request.destinationSpace⟩)
      (moves : request.sourceSpace ≠ request.destinationSpace) :
      Step authenticator w (.transitionEntity request, true)
        (w.setEntity request.session request.entity (some (request.place record))).settle
  | transitionWithin (request : EntityTransitionRequest)
      (same : request.sourceSpace = request.destinationSpace) :
      Step authenticator w (.transitionEntity request, true) w
  | publishAt (request : PublishRequest) (now : Instant) (call : Nat) (clock : ReleaseClock)
      (messages : List AuthorizedMessage) (slow : Set ConnectionId)
      (reads : (request.connection, ⟨request.session, request.space⟩) ∈ w.reads)
      (writes : w.Acts request.connection fun principal =>
        principal.WritesSpace ⟨request.session, request.space⟩ ∧
          principal.grants.canWriteChannel ⟨request.session, request.channel⟩ = true)
      (proposes : w.Publishes request.session (.fromRequest request))
      (decided : w.Decides request call messages)
      (publishes : ∀ message ∈ messages, w.Publishes request.session message)
      (concerned : ∀ connection ∈ slow, ∃ message ∈ messages,
        message.delivery.isCritical = true ∧
          (connection, ⟨request.session, message.space⟩) ∈ w.reads) :
      Step authenticator w (.publishAt request now call clock, true)
        ((w.store request.session messages).without slow).settle
  | transportLost (connection : ConnectionId) (clock : ReleaseClock)
      (online : connection ∈ w.online) :
      Step authenticator w (.transportLost connection clock, true) (w.without {connection}).settle

end Signalweave
