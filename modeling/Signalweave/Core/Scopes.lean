import Signalweave.Core.Acceptance
import Signalweave.Core.SessionChanges

/-!
# Scopes and what is stored under them

A stored sequence number or state record lives as long as its scope: the incarnation of its space,
the presence of its entity there and, for a sequence number, the membership of its connection. An
operation other than a publication stores nothing, and drops exactly what has lost its scope.
-/

open Std

namespace Signalweave

open Stateful WovenCore

namespace SessionState

variable {session session' session'' : SessionState} {space : SpaceId} {epoch : SpaceEpoch}
  {entity : Option EntityId}

/-- The space is in this incarnation, and the entity, if there is one, in the space. -/
def hasScope (session : SessionState) (space : SpaceId) (epoch : SpaceEpoch)
    (entity : Option EntityId) : Bool :=
  ((session.spaces[space]?).any fun descriptor => descriptor.epoch = epoch) &&
    entity.all fun id => (session.entities[id]?).any fun record => record.space = space

theorem hasScope_iff : session.hasScope space epoch entity = true ↔
    session.InScope space epoch entity := by
  unfold hasScope InScope Installed
  cases entity with
  | none => simp [Option.any_eq_true]
  | some id => simp [Option.any_eq_true]

/-- The scope of a stored state record. -/
def holdsState (session : SessionState) (key : StateKey) : Bool :=
  session.hasScope key.space key.spaceEpoch key.entity

/-- The scope of a stored sequence number. -/
def holdsSequence (session : SessionState) (key : SequenceKey) : Bool :=
  session.members.contains key.connection &&
    session.hasScope key.space key.spaceEpoch key.entity

theorem holdsState_iff {key : StateKey} : session.holdsState key = true ↔
    session.InScope key.space key.spaceEpoch key.entity := hasScope_iff

theorem holdsSequence_iff {key : SequenceKey} : session.holdsSequence key = true ↔
    key.connection ∈ session.members ∧
      session.InScope key.space key.spaceEpoch key.entity := by
  rw [holdsSequence, Bool.and_eq_true, hasScope_iff, ExtTreeSet.contains_iff_mem]

/-- The tables lose what has lost its scope, and nothing else happens to them. -/
structure Sheds (session session' : SessionState) : Prop where
  sequences : ∀ (key : SequenceKey) (last : Nat), session'.sequences[key]? = some last ↔
    session.sequences[key]? = some last ∧ session'.holdsSequence key = true
  state : ∀ (key : StateKey) (record : StateRecord), session'.state[key]? = some record ↔
    session.state[key]? = some record ∧ session'.holdsState key = true

/-- Scopes of the first state that are there in the last one were there in between. -/
structure Between (session session' session'' : SessionState) : Prop where
  members : ∀ connection, connection ∈ session.members → connection ∈ session''.members →
    connection ∈ session'.members
  scopes : ∀ space epoch entity, session.InScope space epoch entity →
    session''.InScope space epoch entity → session'.InScope space epoch entity

theorem Between.holdsSequence (h : Between session session' session'') {key : SequenceKey}
    (hbefore : session.holdsSequence key = true) (hafter : session''.holdsSequence key = true) :
    session'.holdsSequence key = true := by
  rw [holdsSequence_iff] at *
  exact ⟨h.members _ hbefore.1 hafter.1, h.scopes _ _ _ hbefore.2 hafter.2⟩

theorem Consistent.holdsSequence (h : session.Consistent) {key : SequenceKey} {last : Nat}
    (hkey : session.sequences[key]? = some last) : session.holdsSequence key = true :=
  holdsSequence_iff.mpr ⟨h.sequenceOwners key (OrderedMap.mem_of_getElem? hkey),
    h.sequenceKeys key (OrderedMap.mem_of_getElem? hkey)⟩

theorem Consistent.holdsState (h : session.Consistent) {key : StateKey} {record : StateRecord}
    (hkey : session.state[key]? = some record) : session.holdsState key = true :=
  holdsState_iff.mpr (h.stateKeys key (OrderedMap.mem_of_getElem? hkey))

theorem Sheds.trans (h : Sheds session session') (h' : Sheds session' session'')
    (hconsistent : session.Consistent) (hbetween : Between session session' session'') :
    Sheds session session'' := by
  constructor
  · intro key last
    rw [h'.sequences, h.sequences]
    constructor
    · rintro ⟨⟨hkey, -⟩, hafter⟩
      exact ⟨hkey, hafter⟩
    · rintro ⟨hkey, hafter⟩
      exact ⟨⟨hkey, hbetween.holdsSequence (hconsistent.holdsSequence hkey) hafter⟩, hafter⟩
  · intro key record
    rw [h'.state, h.state]
    constructor
    · rintro ⟨⟨hkey, -⟩, hafter⟩
      exact ⟨hkey, hafter⟩
    · rintro ⟨hkey, hafter⟩
      have hbefore := holdsState_iff.mp (hconsistent.holdsState hkey)
      exact ⟨⟨hkey, holdsState_iff.mpr
        (hbetween.scopes _ _ _ hbefore (holdsState_iff.mp hafter))⟩, hafter⟩

/-! ## Scopes that only begin, or only end -/

/-- No scope ends. -/
structure Grows (session session' : SessionState) : Prop where
  members : ∀ connection, connection ∈ session.members → connection ∈ session'.members
  scopes : ∀ space epoch entity, session.InScope space epoch entity →
    session'.InScope space epoch entity

theorem Grows.refl : Grows session session := ⟨fun _ h => h, fun _ _ _ h => h⟩

theorem Grows.trans (h : Grows session session') (h' : Grows session' session'') :
    Grows session session'' :=
  ⟨fun c hc => h'.members c (h.members c hc),
    fun space epoch entity hs => h'.scopes _ _ _ (h.scopes space epoch entity hs)⟩

theorem Grows.between (h : Grows session session') : Between session session' session'' :=
  ⟨fun c hc _ => h.members c hc, fun space epoch entity hs _ => h.scopes space epoch entity hs⟩

/-- A scope of the later state was one of the earlier state: read backwards, nothing ends. -/
theorem Between.of_shrinks (h : Grows session'' session') : Between session session' session'' :=
  ⟨fun c _ hc => h.members c hc, fun space epoch entity _ hs => h.scopes space epoch entity hs⟩

/-- Where no scope ends, nothing is shed. -/
theorem Sheds.of_grows (hconsistent : session.Consistent) (hgrows : Grows session session')
    (hsequences : session'.sequences = session.sequences)
    (hstate : session'.state = session.state) : Sheds session session' := by
  constructor
  · intro key last
    rw [hsequences]
    refine ⟨fun hkey => ⟨hkey, ?_⟩, And.left⟩
    obtain ⟨hmember, hscope⟩ := holdsSequence_iff.mp (hconsistent.holdsSequence hkey)
    exact holdsSequence_iff.mpr ⟨hgrows.members _ hmember, hgrows.scopes _ _ _ hscope⟩
  · intro key record
    rw [hstate]
    refine ⟨fun hkey => ⟨hkey, ?_⟩, And.left⟩
    exact holdsState_iff.mpr (hgrows.scopes _ _ _ (holdsState_iff.mp (hconsistent.holdsState hkey)))

theorem Sheds.refl (hconsistent : session.Consistent) : Sheds session session :=
  .of_grows hconsistent .refl rfl rfl

/-- A purge that keeps exactly the keys whose scopes survive. -/
theorem Sheds.of_filter (hconsistent : session.Consistent)
    {keep : SpaceId → SpaceEpoch → Option EntityId → Bool}
    (hmembers : session'.members = session.members)
    (hkept : ∀ space epoch entity, session.InScope space epoch entity →
      (session'.InScope space epoch entity ↔ keep space epoch entity = true))
    (hsequences : session'.sequences = session.sequences.filter fun key _ =>
      keep key.space key.spaceEpoch key.entity)
    (hstate : session'.state = session.state.filter fun key _ =>
      keep key.space key.spaceEpoch key.entity) : Sheds session session' := by
  constructor
  · intro key last
    rw [hsequences, OrderedMap.getElem?_filter]
    refine and_congr_right fun hkey => ?_
    obtain ⟨hmember, hscope⟩ := holdsSequence_iff.mp (hconsistent.holdsSequence hkey)
    rw [holdsSequence_iff, hmembers, hkept _ _ _ hscope]
    exact (and_iff_right hmember).symm
  · intro key record
    rw [hstate, OrderedMap.getElem?_filter]
    refine and_congr_right fun hkey => ?_
    rw [holdsState_iff, hkept _ _ _ (holdsState_iff.mp (hconsistent.holdsState hkey))]

/-- Scopes depend on the places of the entities only. -/
theorem InScope.of_places {session' : SessionState} (h : session.InScope space epoch entity)
    (hspaces : session'.spaces = session.spaces)
    (hplaces : ∀ id : EntityId, (session'.entities[id]?).map EntityRecord.space =
      (session.entities[id]?).map EntityRecord.space) : session'.InScope space epoch entity := by
  apply h.of_entities hspaces
  intro id record hrecord
  have hplace := hplaces id
  rw [hrecord] at hplace
  exact Option.map_eq_some_iff.mp hplace

theorem places_modifyEntity {id other : EntityId} {f : EntityRecord → EntityRecord}
    (hf : ∀ record, (f record).space = record.space) :
    ((session.modifyEntity id f).entities[other]?).map EntityRecord.space =
      (session.entities[other]?).map EntityRecord.space := by
  rw [modifyEntity, OrderedMap.getElem?_modify]
  split
  · rw [Option.map_map]
    congr 1
    funext record
    exact hf record
  · rfl

/-- What a movement keeps of every record is its place. -/
theorem places_move {id other : EntityId} {position : EntityPosition}
    {cell : Option SpatialCellKey} :
    ((((session.moveToCell id cell).modifyEntity id fun record =>
      { record with position := some position }).entities[other]?).map EntityRecord.space) =
        (session.entities[other]?).map EntityRecord.space := by
  refine (places_modifyEntity ?_).trans ?_
  · exact fun _ => rfl
  · rw [moveToCell_eq]

theorem sheds_dropRemoved {initial : ExtTreeSet EntityId} (hconsistent : session.Consistent) :
    Sheds session (session.dropRemoved (session.cascade initial)) := by
  apply @Sheds.of_filter _ _ hconsistent fun space _ entity =>
    keptBy (session.cascade initial) space entity
  · rw [dropRemoved_eq]
  · intro space epoch entity hscope
    constructor
    · intro hafter
      by_contra hkept
      exact not_inScope_dropRemoved (Bool.eq_false_iff.mpr hkept) hafter
    · exact hscope.dropRemoved
  · rw [dropRemoved_eq]
  · rw [dropRemoved_eq]

/-- What is removed ends; nothing else changes its scope. -/
theorem shrinks_dropRemoved (removal : Removal) :
    Grows (session.dropRemoved removal) session := by
  constructor
  · intro connection hmember
    rwa [dropRemoved_eq] at hmember
  · rintro space epoch entity ⟨⟨descriptor, hdescriptor, hepoch⟩, hentity⟩
    rw [dropRemoved_spaces] at hdescriptor
    split at hdescriptor
    · cases hdescriptor
    · refine ⟨⟨descriptor, hdescriptor, hepoch⟩, fun id hid => ?_⟩
      obtain ⟨record, hrecord, hspace⟩ := hentity id hid
      exact ⟨record, (mem_dropRemoved_entities.mp hrecord).1, hspace⟩

theorem sheds_leave {connection : ConnectionId} (hconsistent : session.Consistent) :
    Sheds session (session.leave connection) := by
  constructor
  · intro key last
    show (session.sequences.filter _)[key]? = some last ↔ _
    rw [OrderedMap.getElem?_filter]
    refine and_congr_right fun hkey => ?_
    obtain ⟨hmember, hscope⟩ := holdsSequence_iff.mp (hconsistent.holdsSequence hkey)
    rw [holdsSequence_iff, and_iff_left (show (session.leave connection).InScope _ _ _ from hscope)]
    show _ ↔ key.connection ∈ session.members.erase connection
    rw [OrderedSet.mem_erase, and_iff_left hmember, decide_eq_true_iff]
  · intro key record
    exact ⟨fun hkey => ⟨hkey, hconsistent.holdsState hkey⟩, And.left⟩

theorem shrinks_leave {connection : ConnectionId} : Grows (session.leave connection) session := by
  constructor
  · intro other hmember
    exact (OrderedSet.mem_erase.mp hmember).2
  · exact fun _ _ _ hscope => hscope

end SessionState

/-! ## One change -/

/-- The operation begins scopes and ends none. -/
def Op.grows : Op → Prop
  | .installSpace _ _ | .joinSession _ _ | .joinSessionWithAdmission _ _ _ | .spawnEntity _ _ _ =>
    True
  | _ => False

/-- The operation begins one scope in place of another. -/
def Op.renews : Op → Prop
  | .advanceSpaceEpoch _ _ _ | .transitionEntity _ => True
  | _ => False

variable {core core' : WovenCore} {key : SessionKey} {op : Op} {session : SessionState}

open SessionState

theorem SessionChange.shrinks (h : SessionChange core key op session) (hgrows : ¬ op.grows)
    (hrenews : ¬ op.renews) : Grows session (core.sessionAt key) := by
  cases h with
  | same => exact .refl
  | join connection asked => cases op <;> first | exact asked.elim | exact absurd trivial hgrows
  | installSpace | spawn => exact absurd trivial hgrows
  | remove initial asked => exact shrinks_dropRemoved _
  | advanceEpoch | transition => exact absurd trivial hrenews
  | leave connection initial asked => exact shrinks_leave.trans (shrinks_dropRemoved _)
  | subscribers space f asked => exact ⟨fun _ h => h, fun _ _ _ h => h⟩
  | move connection entity position cell record descriptor entityFound spaceFound valid indexed =>
    refine ⟨fun _ h => ?_, fun _ _ _ hscope => hscope.of_places ?_ fun _ => places_move.symm⟩
    · rwa [moveToCell_eq] at h
    · rw [moveToCell_eq]
      rfl
  | commit request addressed now call clock plan planned =>
    rw [commit_eq]
    exact ⟨fun _ h => h, fun _ _ _ h => h⟩

theorem SessionChange.grows (h : SessionChange core key op session) (hconsistent : core.Consistent)
    (hgrows : op.grows) : Grows (core.sessionAt key) session := by
  cases h with
  | same => exact .refl
  | join connection asked =>
    refine ⟨fun other hmember => ?_, fun _ _ _ h => h⟩
    exact OrderedSet.mem_insert.mpr (.inr hmember)
  | installSpace descriptor fresh room history parent =>
    exact ⟨fun _ h => h, fun _ _ _ hscope => hscope.installSpace fresh⟩
  | remove initial asked => cases op <;> first | exact asked.elim | exact hgrows.elim
  | leave connection initial asked => cases op <;> first | exact asked.elim | exact hgrows.elim
  | subscribers space f asked => exact ⟨fun _ h => h, fun _ _ _ h => h⟩
  | spawn connection space epoch principal installed room =>
    refine ⟨fun _ h => h, fun _ _ _ hscope => hscope.of_entities rfl ?_⟩
    intro id record hrecord
    refine ⟨record, ?_, rfl⟩
    have hlt := (hconsistent.entityIds _ _ (OrderedMap.mem_of_getElem? hrecord)).2
    rw [OrderedMap.getElem?_insert, if_neg, ← hrecord]
    rintro rfl
    exact Nat.lt_irrefl _ hlt
  | advanceEpoch | move | transition | commit => exact hgrows.elim

/-- A change other than a commit sheds what loses its scope. -/
theorem SessionChange.sheds (h : SessionChange core key op session) (hconsistent : core.Consistent)
    (hop : ¬ op.publishes) : Sheds (core.sessionAt key) session := by
  have hsession := hconsistent.session key
  have hchange := h
  cases h with
  | same => exact .refl hsession
  | join connection asked =>
    have hgrows : op.grows := by cases op <;> first | exact asked.elim | trivial
    exact .of_grows hsession (hchange.grows hconsistent hgrows) rfl rfl
  | installSpace | spawn => exact .of_grows hsession (hchange.grows hconsistent trivial) rfl rfl
  | remove initial asked => exact sheds_dropRemoved hsession
  | advanceEpoch space proposed descriptor found later empty =>
    apply @Sheds.of_filter _ _ hsession fun other _ _ => other ≠ space
    · rfl
    · intro other epoch entity hscope
      rw [decide_eq_true_iff]
      constructor
      · rintro hafter rfl
        exact not_inScope_advanceEpoch found later hscope hafter
      · exact hscope.advanceEpoch
    · rfl
    · rfl
  | leave connection initial asked =>
    have hremoved : ((core.sessionAt key).dropRemoved
        ((core.sessionAt key).cascade initial)).Consistent := hsession.dropRemoved
    exact (sheds_dropRemoved hsession).trans (sheds_leave hremoved) hsession
      (.of_shrinks shrinks_leave)
  | subscribers space f asked =>
    exact .of_grows hsession ⟨fun _ h => h, fun _ _ _ h => h⟩ rfl rfl
  | move connection entity position cell record descriptor entityFound spaceFound valid indexed =>
    refine .of_grows hsession ⟨fun _ h => ?_, fun _ _ _ hscope => ?_⟩ ?_ ?_
    · rwa [moveToCell_eq]
    · refine hscope.of_places ?_ fun _ => places_move
      rw [moveToCell_eq]
      rfl
    · rw [moveToCell_eq]
      rfl
    · rw [moveToCell_eq]
      rfl
  | transition request addressed record checked moves =>
    obtain rfl := addressed
    apply @Sheds.of_filter _ _ hsession fun space epoch entity =>
      !request.leaves space epoch entity
    · rw [transition_eq]
    · intro space epoch entity hscope
      rw [Bool.not_eq_true']
      constructor
      · intro hafter
        by_contra hleaves
        exact not_inScope_transition moves (Bool.eq_true_of_not_eq_false hleaves) hafter
      · exact hscope.transition checked.found checked.space checked.source
    · rw [transition_eq]
    · rw [transition_eq]
  | commit => exact absurd trivial hop

/-! ## One operation -/

/-- What lies between the start of an operation and a state after one of its changes. -/
def Spans (start before after : WovenCore) : Prop :=
  ∀ key, Between (start.sessionAt key) (before.sessionAt key) (after.sessionAt key)

/-- Along an epoch advance an epoch other than the proposed one is an old one. -/
theorem SessionChange.installed {k : SessionKey} {space : SpaceId} {proposed epoch : SpaceEpoch}
    (h : SessionChange core key (.advanceSpaceEpoch k space proposed) session)
    (hinstalled : session.Installed space epoch) (hne : epoch ≠ proposed) :
    (core.sessionAt key).Installed space epoch := by
  cases h with
  | same => exact hinstalled
  | join connection asked => exact asked.elim
  | remove initial asked =>
    exact ((shrinks_dropRemoved _).scopes _ _ none ⟨hinstalled, fun _ h => by cases h⟩).1
  | advanceEpoch _ _ descriptor found later empty =>
    obtain ⟨after, hafter, rfl⟩ := hinstalled
    change (ExtTreeMap.modify _ space _)[space]? = some after at hafter
    rw [OrderedMap.getElem?_modify, if_pos rfl, found] at hafter
    obtain rfl := Option.some.inj hafter
    exact absurd rfl hne
  | leave connection initial asked => exact asked.elim
  | subscribers other f asked => exact asked.elim

/-- A scope of the start that an epoch advance ends is not one of those it begins. -/
theorem SessionChange.between {start : SessionState} {k : SessionKey} {space : SpaceId}
    {proposed : SpaceEpoch}
    (h : SessionChange core key (.advanceSpaceEpoch k space proposed) session)
    (hold : ∀ epoch, (core.sessionAt key).Installed space epoch → epoch ≠ proposed →
      start.Installed space epoch) : Between start (core.sessionAt key) session := by
  cases h with
  | same => exact .of_shrinks .refl
  | join connection asked => exact asked.elim
  | remove initial asked => exact .of_shrinks (shrinks_dropRemoved _)
  | advanceEpoch _ _ descriptor found later empty =>
    refine ⟨fun _ _ hmember => hmember, fun other epoch entity hstart hafter => ?_⟩
    obtain ⟨⟨after, hafter, hepoch⟩, hentity⟩ := hafter
    change (ExtTreeMap.modify _ space _)[other]? = some after at hafter
    by_cases hother : other = space
    · -- The start has the old epoch, and what the advance begins has the proposed one.
      subst hother
      rw [OrderedMap.getElem?_modify, if_pos rfl, found] at hafter
      obtain rfl := Option.some.inj hafter
      obtain ⟨before, hbefore, hsame⟩ := hstart.1
      obtain ⟨old, hfound, hlast⟩ := hold descriptor.epoch ⟨descriptor, found, rfl⟩
        (Nat.ne_of_lt later ∘ congrArg TypedId.get)
      obtain rfl := Option.some.inj (hbefore.symm.trans hfound)
      rw [← hlast, hsame, ← hepoch] at later
      exact absurd later (Nat.lt_irrefl _)
    · rw [OrderedMap.getElem?_modify, if_neg hother] at hafter
      exact ⟨⟨after, hafter, hepoch⟩, hentity⟩
  | leave connection initial asked => exact asked.elim
  | subscribers other f asked => exact asked.elim

/-- Along an operation no scope ends and begins again. -/
theorem step_induction {P : WovenCore → Prop} (hsound : core.Sound) (hop : ¬ op.publishes)
    (hstart : P core)
    (hstep : ∀ before after, before.Sound → Change op before after → Spans core before after →
      P before → P after) : P (step core op) := by
  have hchanges := changes_step hsound op
  by_cases hgrows : op.grows
  · have hall : (step core op).Sound ∧
        (∀ key, Grows (core.sessionAt key) ((step core op).sessionAt key)) ∧ P (step core op) := by
      refine hchanges.invariant (P := fun after => after.Sound ∧
        (∀ key, Grows (core.sessionAt key) (after.sessionAt key)) ∧ P after) ?_
        ⟨hsound, fun _ => .refl, hstart⟩
      rintro before after hchange ⟨hbefore, hgrown, hp⟩
      refine ⟨hchange.sound hbefore, fun key => (hgrown key).trans ?_, ?_⟩
      · exact (hchange.session key).grows hbefore.consistent hgrows
      · exact hstep before after hbefore hchange (fun key => (hgrown key).between) hp
    exact hall.2.2
  · by_cases hrenews : op.renews
    · cases op with
      | advanceSpaceEpoch k space proposed =>
        have hall : (step core (.advanceSpaceEpoch k space proposed)).Sound ∧
            (∀ key epoch, ((step core (.advanceSpaceEpoch k space proposed)).sessionAt
              key).Installed space epoch → epoch ≠ proposed →
                (core.sessionAt key).Installed space epoch) ∧
              P (step core (.advanceSpaceEpoch k space proposed)) := by
          refine hchanges.invariant (P := fun after => after.Sound ∧
            (∀ key epoch, (after.sessionAt key).Installed space epoch → epoch ≠ proposed →
              (core.sessionAt key).Installed space epoch) ∧ P after) ?_
            ⟨hsound, fun _ _ h _ => h, hstart⟩
          rintro before after hchange ⟨hbefore, hold, hp⟩
          refine ⟨hchange.sound hbefore, fun key epoch hin hne => hold key epoch ?_ hne, ?_⟩
          · exact (hchange.session key).installed hin hne
          · exact hstep before after hbefore hchange
              (fun key => (hchange.session key).between (hold key)) hp
        exact hall.2.2
      | transitionEntity request =>
        have hone : Ends (transitionEntity request >>= fun _ => pure ()) core
            (fun _ => Relation.ReflGen (Change (.transitionEntity request)) core)
            fun _ => Relation.ReflGen (Change (.transitionEntity request)) core := by
          rw [ends_bind]
          exact transitionEntity_makes
        rcases (Relation.reflGen_iff _ _ _).mp hone.after with heq | hchange
        · have hsame : step core (.transitionEntity request) = core := heq
          rwa [hsame]
        · exact hstep core _ hsound hchange (fun _ => Grows.refl.between) hstart
      | _ => exact hrenews.elim
    · have hboth : (step core op).Sound ∧ P (step core op) := by
        refine hchanges.invariant (P := fun after => after.Sound ∧ P after) ?_ ⟨hsound, hstart⟩
        rintro before after hchange ⟨hbefore, hp⟩
        refine ⟨hchange.sound hbefore, hstep before after hbefore hchange (fun key => ?_) hp⟩
        exact .of_shrinks ((hchange.session key).shrinks hgrows hrenews)
      exact hboth.2

/-- The loss of connections ends scopes only. -/
theorem loseAll_induction {P : WovenCore → Prop} (hsound : core.Sound) (slow : List ConnectionId)
    (clock : ReleaseClock) (hstart : P core)
    (hstep : ∀ connection before after, before.Sound →
      Change (.transportLost connection clock) before after → Spans core before after →
        P before → P after) : P (core.loseAll slow clock) := by
  suffices hall : ∀ before, before.Sound ∧ P before →
      (before.loseAll slow clock).Sound ∧ P (before.loseAll slow clock) from
    (hall core ⟨hsound, hstart⟩).2
  induction slow with
  | nil => exact fun before h => h
  | cons connection rest ih =>
    intro before hboth
    have hop : (Op.transportLost connection clock).loses connection := rfl
    refine ih (before.lose connection clock) ((lose_changes hop before clock).invariant
      (P := fun after => after.Sound ∧ P after) ?_ hboth)
    rintro during after hchange ⟨hduring, hp⟩
    refine ⟨hchange.sound hduring, hstep connection during after hduring hchange (fun key => ?_) hp⟩
    exact .of_shrinks ((hchange.session key).shrinks not_false not_false)

/-- What an operation other than a publication does to the tables of a session. -/
theorem step_sheds (hsound : core.Sound) (hop : ¬ op.publishes) :
    Sheds (core.sessionAt key) ((step core op).sessionAt key) := by
  have hsession := hsound.consistent.session key
  refine step_induction (P := fun after => Sheds (core.sessionAt key) (after.sessionAt key))
    hsound hop (.refl hsession) ?_
  intro before after hbefore hchange hspans hsheds
  exact hsheds.trans ((hchange.session key).sheds hbefore.consistent hop) hsession (hspans key)

theorem sheds_loseAll (hsound : core.Sound) (slow : List ConnectionId) (clock : ReleaseClock) :
    Sheds (core.sessionAt key) ((core.loseAll slow clock).sessionAt key) := by
  have hsession := hsound.consistent.session key
  refine loseAll_induction (P := fun after => Sheds (core.sessionAt key) (after.sessionAt key))
    hsound slow clock (.refl hsession) ?_
  intro connection before after hbefore hchange hspans hsheds
  exact hsheds.trans ((hchange.session key).sheds hbefore.consistent not_false) hsession
    (hspans key)

end Signalweave
