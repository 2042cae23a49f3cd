import Signalweave.Core.EpochAdvance
import Signalweave.Core.Scopes

/-!
# The graph of spaces

A nested space has its parent space in the same session and its anchor in that parent space. An
installation checks this, and the removals keep it; a transition that moves an anchor does not.
-/

open Std

namespace Signalweave

open Stateful WovenCore

namespace SessionState

variable {session session' : SessionState}

/-- A space is nested in another one. -/
def ParentOf (session : SessionState) (child parent : SpaceId) : Prop :=
  ∃ descriptor anchor, session.spaces[child]? = some descriptor ∧
    descriptor.parent = some anchor ∧ anchor.parentSpace = parent

/-- The parent space is installed and the anchor is in it. -/
structure Anchored (session : SessionState) (anchor : ParentAnchor) : Prop where
  parent : anchor.parentSpace ∈ session.spaces
  located : ∃ record, session.entities[anchor.anchorEntity]? = some record ∧
    record.space = anchor.parentSpace

/-- The entity is the anchor of an installed space. -/
def Anchors (session : SessionState) (entity : EntityId) : Prop :=
  ∃ (space : SpaceId) (descriptor : SpaceDescriptor) (anchor : ParentAnchor),
    session.spaces[space]? = some descriptor ∧ descriptor.parent = some anchor ∧
      anchor.anchorEntity = entity

/-- Every nested space has its parent and its anchor there, and none is above itself. -/
structure SpaceGraph (session : SessionState) : Prop where
  anchored : ∀ (space : SpaceId) (descriptor : SpaceDescriptor) (anchor : ParentAnchor),
    session.spaces[space]? = some descriptor → descriptor.parent = some anchor →
      session.Anchored anchor
  acyclic : ∀ space, ¬ Relation.TransGen session.ParentOf space space

theorem spaceGraph_empty : ({} : SessionState).SpaceGraph := by
  refine ⟨fun space descriptor anchor hfound => by simp at hfound, fun space hcycle => ?_⟩
  obtain ⟨parent, ⟨descriptor, anchor, hfound, -⟩, -⟩ := Relation.TransGen.head'_iff.mp hcycle
  simp at hfound

/-- Where no space is new and no parent changes, what is anchored has to stay so. -/
theorem SpaceGraph.frame (h : session.SpaceGraph)
    (hparents : ∀ (id : SpaceId) (descriptor : SpaceDescriptor),
      session'.spaces[id]? = some descriptor → ∃ before, session.spaces[id]? = some before ∧
        before.parent = descriptor.parent)
    (hanchored : ∀ (id : SpaceId) (descriptor : SpaceDescriptor) (anchor : ParentAnchor),
      session'.spaces[id]? = some descriptor → descriptor.parent = some anchor →
        session.Anchored anchor → session'.Anchored anchor) : session'.SpaceGraph := by
  constructor
  · intro space descriptor anchor hfound hnested
    obtain ⟨before, hbefore, hparent⟩ := hparents space descriptor hfound
    exact hanchored space descriptor anchor hfound hnested
      (h.anchored space before anchor hbefore (hparent.trans hnested))
  · intro space hcycle
    have hedges : session'.ParentOf ≤ session.ParentOf := by
      rintro child parent ⟨descriptor, anchor, hfound, hnested, hspace⟩
      obtain ⟨before, hbefore, hparent⟩ := hparents child descriptor hfound
      exact ⟨before, anchor, hbefore, hparent.trans hnested, hspace⟩
    exact h.acyclic space (Relation.TransGen.mono hedges space space hcycle)

/-- The places of the entities are all that a change of the entities has to keep. -/
theorem SpaceGraph.of_places (h : session.SpaceGraph) (hspaces : session'.spaces = session.spaces)
    (hplaces : ∀ (id : EntityId) (record : EntityRecord), session.Anchors id →
      session.entities[id]? = some record →
        ∃ after, session'.entities[id]? = some after ∧ after.space = record.space) :
    session'.SpaceGraph := by
  apply h.frame
  · intro id descriptor hfound
    exact ⟨descriptor, hspaces ▸ hfound, rfl⟩
  · rintro id descriptor anchor hfound hnested ⟨hparent, record, hrecord, hlocated⟩
    rw [hspaces] at hfound
    obtain ⟨after, hafter, hsame⟩ :=
      hplaces anchor.anchorEntity record ⟨id, descriptor, anchor, hfound, hnested, rfl⟩ hrecord
    exact ⟨hspaces ▸ hparent, after, hafter, hsame.trans hlocated⟩

/-! ## Changes of a session -/

/-- A new space is nested in an old one, and nothing is nested in it. -/
theorem SpaceGraph.installSpace {descriptor : SpaceDescriptor} (h : session.SpaceGraph)
    (hfresh : descriptor.id ∉ session.spaces) (hparent : checkParent session descriptor = .ok ()) :
    (session.installSpace descriptor).SpaceGraph := by
  have hlookup : ∀ id : SpaceId, (session.installSpace descriptor).spaces[id]? =
      if id = descriptor.id then some descriptor else session.spaces[id]? := by
    intro id
    show (session.spaces.insert descriptor.id descriptor)[id]? = _
    rw [OrderedMap.getElem?_insert]
  have hanchored : ∀ (space : SpaceId) (found : SpaceDescriptor) (anchor : ParentAnchor),
      (session.installSpace descriptor).spaces[space]? = some found →
        found.parent = some anchor → session.Anchored anchor := by
    intro space found anchor hfound hnested
    rw [hlookup] at hfound
    split at hfound
    · obtain rfl := Option.some.inj hfound
      rw [checkParent, hnested] at hparent
      obtain ⟨hin, record, hrecord, hlocated⟩ := validateParentAnchor_eq_ok.mp hparent
      exact ⟨hin, record, hrecord, hlocated⟩
    · exact h.anchored space found anchor hfound hnested
  -- No edge leads into the new space.
  have hold : ∀ {child parent}, (session.installSpace descriptor).ParentOf child parent →
      parent ≠ descriptor.id := by
    rintro child _ ⟨found, anchor, hfound, hnested, rfl⟩ heq
    exact hfresh (heq ▸ (hanchored child found anchor hfound hnested).parent)
  constructor
  · intro space found anchor hfound hnested
    obtain ⟨hin, record, hrecord, hlocated⟩ := hanchored space found anchor hfound hnested
    exact ⟨OrderedMap.mem_insert.mpr (.inr hin), record, hrecord, hlocated⟩
  · intro space hcycle
    have hpath : ∀ {child parent}, Relation.TransGen (session.installSpace descriptor).ParentOf
        child parent → child ≠ descriptor.id → Relation.TransGen session.ParentOf child parent := by
      intro child parent hpath
      induction hpath using Relation.TransGen.head_induction_on with
      | single hedge =>
        intro hchild
        obtain ⟨found, anchor, hfound, hnested, hspace⟩ := hedge
        rw [hlookup, if_neg hchild] at hfound
        exact .single ⟨found, anchor, hfound, hnested, hspace⟩
      | head hedge _ ih =>
        intro hchild
        have hnext := ih (hold hedge)
        obtain ⟨found, anchor, hfound, hnested, hspace⟩ := hedge
        rw [hlookup, if_neg hchild] at hfound
        exact .head ⟨found, anchor, hfound, hnested, hspace⟩ hnext
    obtain ⟨last, -, hlast⟩ := Relation.TransGen.tail'_iff.mp hcycle
    exact h.acyclic space (hpath hcycle (hold hlast))

/-- The cascade takes with an anchor or a parent space all that is nested there. -/
theorem SpaceGraph.dropRemoved (h : session.SpaceGraph) (hkeyed : session.Keyed)
    (initial : ExtTreeSet EntityId) :
    (session.dropRemoved (session.cascade initial)).SpaceGraph := by
  have hlookup : ∀ {id : SpaceId} {descriptor : SpaceDescriptor},
      (session.dropRemoved (session.cascade initial)).spaces[id]? = some descriptor →
        id ∉ (session.cascade initial).spaces ∧ session.spaces[id]? = some descriptor := by
    intro id descriptor hfound
    rw [dropRemoved_spaces] at hfound
    split at hfound
    · cases hfound
    · rename_i hkept
      exact ⟨hkept, hfound⟩
  apply h.frame
  · exact fun id descriptor hfound => ⟨descriptor, (hlookup hfound).2, rfl⟩
  · rintro id descriptor anchor hfound hnested ⟨hparent, record, hrecord, hlocated⟩
    obtain ⟨hkept, hbefore⟩ := hlookup hfound
    have hclosed : anchor.anchorEntity ∈ (session.cascade initial).entities ∨
        anchor.parentSpace ∈ (session.cascade initial).spaces →
          id ∈ (session.cascade initial).spaces :=
      cascade_spaces_closed hkeyed hbefore hnested
    constructor
    · obtain ⟨found, hspace⟩ := OrderedMap.exists_of_mem hparent
      apply OrderedMap.mem_of_getElem? (v := found)
      rw [dropRemoved_spaces, if_neg fun hgone => hkept (hclosed (.inr hgone)), hspace]
    · exact ⟨record, mem_dropRemoved_entities.mpr
        ⟨hrecord, fun hgone => hkept (hclosed (.inl hgone))⟩, hlocated⟩

theorem SpaceGraph.advanceEpoch {space : SpaceId} {proposed : SpaceEpoch} (h : session.SpaceGraph) :
    (session.advanceEpoch space proposed).SpaceGraph := by
  apply h.frame
  · intro id descriptor hfound
    change (session.spaces.modify space _)[id]? = some descriptor at hfound
    rw [OrderedMap.getElem?_modify] at hfound
    split at hfound
    · obtain ⟨before, hbefore, rfl⟩ := Option.map_eq_some_iff.mp hfound
      exact ⟨before, hbefore, rfl⟩
    · exact ⟨descriptor, hfound, rfl⟩
  · rintro id descriptor anchor - - ⟨hparent, record, hrecord, hlocated⟩
    exact ⟨ExtTreeMap.mem_modify.mpr hparent, record, hrecord, hlocated⟩

/-- An entity that anchors nothing may go elsewhere. -/
theorem SpaceGraph.transition {request : EntityTransitionRequest} (h : session.SpaceGraph)
    (hfree : ¬ session.Anchors request.entity) : (session.transition request).SpaceGraph := by
  apply h.of_places
  · rw [transition_eq]
  · intro id record hanchors hrecord
    rw [transition_eq, OrderedMap.getElem?_modify, if_neg]
    · exact ⟨record, hrecord, rfl⟩
    · rintro rfl
      exact hfree hanchors

/-- An anchor that goes elsewhere leaves a space behind whose anchor is not where it should be. -/
theorem SpaceGraph.not_transition {request : EntityTransitionRequest} {record : EntityRecord}
    (h : session.SpaceGraph) (hanchors : session.Anchors request.entity)
    (hrecord : session.entities[request.entity]? = some record)
    (hspace : record.space = request.sourceSpace)
    (hmoves : request.sourceSpace ≠ request.destinationSpace) :
    ¬ (session.transition request).SpaceGraph := by
  intro hafter
  obtain ⟨space, descriptor, anchor, hfound, hnested, hentity⟩ := hanchors
  obtain ⟨-, found, hlookup, hlocated⟩ := h.anchored space descriptor anchor hfound hnested
  rw [hentity, hrecord] at hlookup
  obtain rfl := Option.some.inj hlookup
  have hsame : (session.transition request).spaces[space]? = some descriptor := by
    rw [transition_eq, hfound]
  obtain ⟨-, moved, hmoved, hplace⟩ := hafter.anchored space descriptor anchor hsame hnested
  rw [hentity, transition_eq, OrderedMap.getElem?_modify, if_pos rfl, hrecord] at hmoved
  obtain rfl := Option.some.inj hmoved
  exact hmoves (hspace.symm.trans (hlocated.trans hplace.symm))

end SessionState

variable {core core' : WovenCore} {key : SessionKey} {op : Op} {session : SessionState}

open SessionState

/-- Every change but the transition of an anchor keeps the graph. -/
theorem SessionChange.spaceGraph (h : SessionChange core key op session)
    (hconsistent : core.Consistent) (hgraph : (core.sessionAt key).SpaceGraph)
    (hop : ∀ request, op ≠ .transitionEntity request) : session.SpaceGraph := by
  have hkeyed := (hconsistent.session key).keyed
  cases h with
  | same => exact hgraph
  | join connection asked => exact hgraph.of_places rfl fun id record _ h => ⟨record, h, rfl⟩
  | installSpace descriptor fresh room history parent => exact hgraph.installSpace fresh parent
  | remove initial asked => exact hgraph.dropRemoved hkeyed initial
  | advanceEpoch space proposed descriptor found later empty => exact hgraph.advanceEpoch
  | leave connection initial asked =>
    exact (hgraph.dropRemoved hkeyed initial).of_places rfl fun id record _ h => ⟨record, h, rfl⟩
  | subscribers space f asked => exact hgraph.of_places rfl fun id record _ h => ⟨record, h, rfl⟩
  | spawn connection space epoch principal installed room =>
    refine hgraph.of_places ?_ ?_
    · rfl
    intro id record _ hrecord
    refine ⟨record, ?_, rfl⟩
    have hlt := (hconsistent.entityIds _ _ (OrderedMap.mem_of_getElem? hrecord)).2
    rw [OrderedMap.getElem?_insert, if_neg, hrecord]
    rintro rfl
    exact Nat.lt_irrefl _ hlt
  | move connection entity position cell record descriptor entityFound spaceFound valid indexed =>
    apply hgraph.of_places
    · rw [moveToCell_eq]
      rfl
    · intro id record _ hrecord
      have hplace := @places_move (core.sessionAt key) entity id position cell
      rw [hrecord] at hplace
      exact Option.map_eq_some_iff.mp hplace
  | transition request => exact absurd rfl (hop request)
  | commit request addressed now call clock plan planned =>
    rw [commit_eq]
    exact hgraph.of_places rfl fun id record _ h => ⟨record, h, rfl⟩

/-- Every space of every session has its parent and its anchor, and none is its own ancestor. -/
def SpaceGraphs (core : WovenCore) : Prop := ∀ key, (core.sessionAt key).SpaceGraph

/-- A transition that is carried out does not move an anchor. -/
def Op.keepsAnchors (core : WovenCore) : Op → Prop
  | .transitionEntity request =>
    core.checkTransition request = .ok () → request.sourceSpace ≠ request.destinationSpace →
      ¬ (core.sessionAt request.session).Anchors request.entity
  | _ => True

/-- How a transition ends: it is carried out exactly when its checks pass, and one within a space
changes nothing. -/
theorem transitionEntity_ends {request : EntityTransitionRequest} :
    Ends (transitionEntity request) core
      (fun _ core' => core.checkTransition request = .ok () ∧
        (request.sourceSpace = request.destinationSpace ∧ core' = core ∨
          request.sourceSpace ≠ request.destinationSpace ∧ core' = core.transition request))
      fun _ core' => core.checkTransition request ≠ .ok () ∧ core' = core := by
  simp [transitionEntity, withSession, withEntity, - Option.bind_eq_none_iff]
  constructor
  · intro _ hchecked
    obtain ⟨record, hrecord⟩ := checkTransition_eq_ok hchecked
    have hsession := sessions_getElem? hrecord.provisioned
    constructor
    · rintro hsame -
      exact ⟨hchecked, .inl hsame⟩
    · intro hmoves
      -- Both epochs are the current one of the one space.
      have hspaces : request.sourceSpace ≠ request.destinationSpace := by
        intro hsame
        obtain ⟨source, hsource, hsourceEpoch⟩ := hrecord.source
        obtain ⟨destination, hdestination, hdestinationEpoch⟩ := hrecord.destination
        rw [← hsame, hsource] at hdestination
        obtain rfl := Option.some.inj hdestination
        exact hmoves hsame (hsourceEpoch.symm.trans hdestinationEpoch)
      have hentity : ((core.modifySession request.session fun session =>
          session.removeEntityFromCell request.entity).sessions[request.session]?.bind
            fun session => session.entities[request.entity]?) = some record := by
        rw [mem_entities_modifySession hsession (by rw [SessionState.removeEntityFromCell_eq]),
          hrecord.found]
      rw [hentity, modifySession_modifySession, modifySession_modifySession]
      refine ⟨fun _ _ => ⟨fun _ _ => ⟨hchecked, .inr ⟨hspaces, rfl⟩⟩, ?_⟩, fun hmissing => ?_⟩
      · intro hnone
        cases hnone
      · exact absurd hrecord.provisioned hmissing
  · intro error hfailed hpassed
    rw [hfailed] at hpassed
    cases hpassed

theorem SpaceGraphs.transition {request : EntityTransitionRequest} (h : SpaceGraphs core)
    (hfree : ¬ (core.sessionAt request.session).Anchors request.entity) :
    SpaceGraphs (core.transition request) := by
  intro key
  rw [WovenCore.transition, sessionAt_mapConnections, sessionAt_modifySession]
  split
  · rename_i hkey
    obtain ⟨rfl, -⟩ := hkey
    exact (h request.session).transition hfree
  · exact h key

/-- The transition of an anchor to another space breaks the graph. -/
theorem SpaceGraphs.not_transition {request : EntityTransitionRequest} (h : SpaceGraphs core)
    (hchecked : core.checkTransition request = .ok ())
    (hmoves : request.sourceSpace ≠ request.destinationSpace)
    (hanchors : (core.sessionAt request.session).Anchors request.entity) :
    ¬ SpaceGraphs (core.transition request) := by
  intro hafter
  obtain ⟨record, hrecord⟩ := checkTransition_eq_ok hchecked
  have hsession := hafter request.session
  rw [WovenCore.transition, sessionAt_mapConnections, sessionAt_modifySession,
    if_pos ⟨rfl, hrecord.provisioned⟩] at hsession
  exact (h request.session).not_transition hanchors hrecord.found hrecord.space hmoves hsession

theorem transitionEntity_spaceGraphs_iff {request : EntityTransitionRequest}
    (hgraphs : SpaceGraphs core) :
    SpaceGraphs (step core (.transitionEntity request)) ↔
      Op.keepsAnchors core (.transitionEntity request) := by
  have hstep : step core (.transitionEntity request) = after (transitionEntity request) core :=
    after_discard _ core
  rw [hstep]
  apply Ends.after (P := fun core' =>
    SpaceGraphs core' ↔ Op.keepsAnchors core (.transitionEntity request))
  refine transitionEntity_ends.mono ?_ ?_
  · rintro _ _ ⟨hchecked, ⟨hsame, rfl⟩ | ⟨hmoves, rfl⟩⟩
    · exact iff_of_true hgraphs fun _ hmoves => absurd hsame hmoves
    · constructor
      · exact fun hafter _ _ hanchors => hgraphs.not_transition hchecked hmoves hanchors hafter
      · exact fun hkeeps => hgraphs.transition (hkeeps hchecked hmoves)
  · rintro _ _ ⟨hrefused, rfl⟩
    exact iff_of_true hgraphs fun hchecked => absurd hchecked hrefused

theorem step_spaceGraphs_iff (hsound : core.Sound) (hgraphs : SpaceGraphs core) (op : Op) :
    SpaceGraphs (step core op) ↔ op.keepsAnchors core := by
  by_cases hop : ∃ request, op = .transitionEntity request
  · obtain ⟨request, rfl⟩ := hop
    exact transitionEntity_spaceGraphs_iff hgraphs
  · have hkeeps : op.keepsAnchors core := by
      cases op with
      | transitionEntity request => exact absurd ⟨request, rfl⟩ hop
      | _ => trivial
    refine iff_of_true ?_ hkeeps
    have hboth : (step core op).Sound ∧ SpaceGraphs (step core op) := by
      apply (changes_step hsound op).invariant (P := fun core => core.Sound ∧ SpaceGraphs core) ?_
        ⟨hsound, hgraphs⟩
      rintro before after hchange ⟨hbefore, hgraphs⟩
      refine ⟨hchange.sound hbefore, fun key => ?_⟩
      exact (hchange.session key).spaceGraph hbefore.consistent (hgraphs key)
        fun request hsame => hop ⟨request, hsame⟩
    exact hboth.2

/-- A run keeps the graph of spaces exactly when no transition in it moves an anchor. -/
theorem run_spaceGraphs_iff (h : Initial core) (ops : List Op) :
    Transition.Always step SpaceGraphs core ops ↔
      Transition.Meets step (fun core op => op.keepsAnchors core) core ops := by
  refine Transition.always_iff_meets (J := Sound) ?_ ?_ h.empty.sound ?_ ops
  · exact fun core op hsound => sound_step hsound op
  · exact fun core op hsound hgraphs => step_spaceGraphs_iff hsound hgraphs op
  · intro key
    rw [h.empty.sessionAt]
    exact spaceGraph_empty

theorem run_spaceGraphs_iff_nested :
    Transition.Always step SpaceGraphs Sample.core Sample.nested ↔
      Transition.Meets step (fun core op => op.keepsAnchors core) Sample.core Sample.nested :=
  run_spaceGraphs_iff Sample.initial Sample.nested

/-- An entity that enters the space it anchors leaves that space without its anchor in the parent
space. -/
theorem run_not_spaceGraphs :
    ¬ ∀ core ops, Initial core → SpaceGraphs (Transition.run step core ops) := by
  intro hall
  have hgraph := hall Sample.core
    (Sample.nested ++ [.transitionEntity Sample.enterOwnSpace]) Sample.initial Sample.session
  have hspace : ((Transition.run step Sample.core
      (Sample.nested ++ [.transitionEntity Sample.enterOwnSpace])).sessionAt
        Sample.session).spaces[(⟨2⟩ : SpaceId)]? = some Sample.nestedSpace := by rfl
  have hentity : ((Transition.run step Sample.core
      (Sample.nested ++ [.transitionEntity Sample.enterOwnSpace])).sessionAt
        Sample.session).entities[(⟨1⟩ : EntityId)]?.map EntityRecord.space = some ⟨2⟩ := by rfl
  obtain ⟨-, record, hrecord, hlocated⟩ := hgraph.anchored _ _ _ hspace rfl
  change _[(⟨1⟩ : EntityId)]? = some record at hrecord
  change record.space = ⟨1⟩ at hlocated
  rw [hrecord] at hentity
  simp [hlocated] at hentity

end Signalweave
