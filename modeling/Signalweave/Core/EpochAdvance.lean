import Signalweave.Core.Outbound

/-!
# Advancing the epoch of a space

An advance removes the entities of the space, and with them every space anchored to them, before
it looks the space up a second time. It is atomic exactly where that removal cannot reach the
space itself.
-/

open Std

namespace Signalweave

open Stateful WovenCore

/-- What a successful advance leaves: the space at its new epoch, with its subscribers, and
nothing of the old incarnation. -/
structure EpochAdvanced (core core' : WovenCore) (key : SessionKey) (space : SpaceId)
    (proposed : SpaceEpoch) : Prop where
  installed : ∃ descriptor, (core.sessionAt key).spaces[space]? = some descriptor ∧
    (core'.sessionAt key).spaces[space]? = some { descriptor with epoch := proposed }
  subscribers : (core'.sessionAt key).subscribers[space]? =
    (core.sessionAt key).subscribers[space]?
  entities : ∀ (id : EntityId) (record : EntityRecord),
    (core'.sessionAt key).entities[id]? = some record → record.space ≠ space
  state : ∀ k, k ∈ (core'.sessionAt key).state → k.space ≠ space
  sequences : ∀ k, k ∈ (core'.sessionAt key).sequences → k.space ≠ space
  queued : ∀ connection message, (core'.connectionAt connection).outbound.Holds message →
    message.spaceKey ≠ ⟨key, space⟩

/-- A call that fails changes nothing, and a call that succeeds has advanced the epoch. -/
def AdvancesAtomically (core : WovenCore) (key : SessionKey) (space : SpaceId)
    (proposed : SpaceEpoch) : Prop :=
  (∀ e core', Fails (advanceSpaceEpoch key space proposed) core e core' → core' = core) ∧
    ∀ summary core', Returns (advanceSpaceEpoch key space proposed) core summary core' →
      EpochAdvanced core core' key space proposed

variable {core : WovenCore} {key : SessionKey} {space : SpaceId} {proposed : SpaceEpoch}

/-- No queue holds anything of a space after the space has been purged. -/
theorem not_spaceKey_of_purgeSpace {spaceKey : SpaceKey} {connection : ConnectionId}
    {message : OutboundMessage}
    (h : ((core.purgeSpace spaceKey).connectionAt connection).outbound.Holds message) :
    message.spaceKey ≠ spaceKey := by
  have hqueue : ((core.purgeSpace spaceKey).connectionAt connection).outbound =
      (core.connectionAt connection).outbound.purge fun message => message.inSpace spaceKey :=
    outbound_mapConnections fun _ _ => rfl
  rw [hqueue, OutboundQueue.holds_purge] at h
  rintro heq
  rw [OutboundMessage.inSpace_iff.mpr heq] at h
  exact absurd h.2 (by simp)

theorem epochAdvanced_of_accepted {descriptor : SpaceDescriptor} (h : core.Consistent)
    (haccepted : AdvanceAccepted core key space proposed descriptor)
    (hkept : space ∉ (core.removalOf key (core.spaceEntities key space)).spaces) :
    EpochAdvanced core ((core.dropRemoved key
      (core.removalOf key (core.spaceEntities key space))).advanceEpoch key space proposed)
      key space proposed := by
  have hkey := haccepted.provisioned
  have hafter : ((core.dropRemoved key
      (core.removalOf key (core.spaceEntities key space))).advanceEpoch key space
        proposed).sessionAt key = ((core.sessionAt key).dropRemoved
          (core.removalOf key (core.spaceEntities key space))).advanceEpoch space proposed := by
    refine sessionAt_modifySession.trans ?_
    rw [if_pos ⟨rfl, mem_sessions_dropRemoved.mpr hkey⟩]
    change ((core.dropRemoved key _).sessionAt key).advanceEpoch space proposed = _
    rw [sessionAt_dropRemoved, if_pos ⟨rfl, hkey⟩]
  refine ⟨⟨descriptor, haccepted.found, ?_⟩, ?_, ?_, ?_, ?_, ?_⟩
  · rw [hafter]
    change (ExtTreeMap.modify _ space _)[space]? = _
    rw [OrderedMap.getElem?_modify, if_pos rfl, SessionState.dropRemoved_spaces, if_neg hkept,
      haccepted.found]
    rfl
  · rw [hafter]
    change ((core.sessionAt key).dropRemoved _).subscribers[space]? = _
    rw [SessionState.dropRemoved_subscribers, if_neg hkept]
  · intro id record hid
    apply space_ne_of_removal h hkey
    rw [hafter] at hid
    rw [sessionAt_dropRemoved, if_pos ⟨rfl, hkey⟩]
    exact hid
  · intro k hk
    rw [hafter] at hk
    exact of_decide_eq_true (OrderedMap.mem_filter.mp hk).2
  · intro k hk
    rw [hafter] at hk
    exact of_decide_eq_true (OrderedMap.mem_filter.mp hk).2
  · intro connection message hholds
    exact not_spaceKey_of_purgeSpace hholds

/-- A space that the removal has taken is not installed after the call. -/
theorem ne_of_stopped {descriptor : SpaceDescriptor}
    (haccepted : AdvanceAccepted core key space proposed descriptor)
    (hdoomed : space ∈ (core.removalOf key (core.spaceEntities key space)).spaces) :
    (core.dropRemoved key (core.removalOf key (core.spaceEntities key space))).purgeSpace
      ⟨key, space⟩ ≠ core := by
  intro heq
  have hafter : ((core.dropRemoved key
      (core.removalOf key (core.spaceEntities key space))).purgeSpace ⟨key, space⟩).sessionAt
        key = (core.sessionAt key).dropRemoved
          (core.removalOf key (core.spaceEntities key space)) := by
    change (core.dropRemoved key _).sessionAt key = _
    rw [sessionAt_dropRemoved, if_pos ⟨rfl, haccepted.provisioned⟩]
  rw [heq] at hafter
  have hfound := haccepted.found
  rw [hafter, SessionState.dropRemoved_spaces, if_pos hdoomed] at hfound
  cases hfound

theorem mem_removalOf_spaces (h : core.Consistent) (hkey : key ∈ core.sessions)
    (initial : ExtTreeSet EntityId) :
    space ∈ (core.removalOf key initial).spaces ↔
      DoomedSpace (core.sessionAt key) initial space := by
  rw [removalOf_of_mem hkey, SessionState.mem_cascade_spaces (h.session key).keyed]

/-- An advance is atomic exactly where it is refused by a check or the space is not anchored,
directly or through other spaces, to an entity inside itself. -/
theorem advanceSpaceEpoch_atomic_iff (h : Reachable core) :
    AdvancesAtomically core key space proposed ↔
      ∀ descriptor, AdvanceAccepted core key space proposed descriptor →
        ¬ DoomedSpace (core.sessionAt key) (core.spaceEntities key space) space := by
  have hconsistent := h.sound.consistent
  constructor
  · rintro ⟨hfails, -⟩ descriptor haccepted hdoomed
    rw [← mem_removalOf_spaces hconsistent haccepted.provisioned] at hdoomed
    have hends : Ends (advanceSpaceEpoch key space proposed) core (fun _ _ => False)
        fun _ core' => core' ≠ core :=
      advanceSpaceEpoch_of_accepted haccepted (fun _ hkept => hkept hdoomed)
        fun _ _ => ne_of_stopped haccepted hdoomed
    rcases returns_or_fails (advanceSpaceEpoch key space proposed) core with
      ⟨summary, hreturns⟩ | ⟨e, hfailed⟩
    · exact hends.returns hreturns
    · exact hends.fails hfailed (hfails e _ hfailed)
  · intro hsafe
    have hends : Ends (advanceSpaceEpoch key space proposed) core
        (fun _ core' => EpochAdvanced core core' key space proposed)
        fun _ core' => core' = core := by
      apply advanceSpaceEpoch_ends
      · exact fun _ => rfl
      · intro descriptor haccepted
        have hkept := hsafe descriptor haccepted
        rw [← mem_removalOf_spaces hconsistent haccepted.provisioned] at hkept
        apply advanceSpaceEpoch_of_accepted haccepted
        · exact fun _ _ => epochAdvanced_of_accepted hconsistent haccepted hkept
        · exact fun _ hdoomed => absurd hdoomed hkept
    exact ⟨fun e core' hfailed => hends.fails hfailed,
      fun summary core' hreturns => hends.returns hreturns⟩

theorem advanceSpaceEpoch_atomic_iff_published :
    AdvancesAtomically (Transition.run step Sample.core Sample.published)
      Sample.session ⟨1⟩ ⟨2⟩ := by
  apply (advanceSpaceEpoch_atomic_iff (Sample.reachable _)).mpr
  intro descriptor haccepted hdoomed
  have hfound : ((Transition.run step Sample.core Sample.published).sessionAt
      Sample.session).spaces[(⟨1⟩ : SpaceId)]? = some (Sample.space 1) := by decide +kernel
  cases hdoomed <;> simp_all [Sample.space]

namespace Sample

/-- The first entity anchors the second space in the first one. -/
def nestedSpace : SpaceDescriptor :=
  { Sample.space 2 with parent := some { parentSpace := ⟨1⟩, anchorEntity := ⟨1⟩ } }

/-- The first connection follows its entity into the space that the entity anchors. -/
def enterOwnSpace : EntityTransitionRequest :=
  { connection := ⟨1⟩, session, entity := ⟨1⟩, sourceSpace := ⟨1⟩, sourceEpoch := ⟨1⟩,
    destinationSpace := ⟨2⟩, destinationEpoch := ⟨1⟩ }

/-- One entity in the first space, which anchors the second one. -/
def nested : List Op :=
  [ .provisionSession session, .installSpace session (Sample.space 1),
    .transportConnected, .authenticate ⟨1⟩ ⟨"a"⟩, .joinSession ⟨1⟩ session,
    .subscribe ⟨1⟩ (spaceKey 1), .spawnEntity ⟨1⟩ (spaceKey 1) ⟨1⟩,
    .installSpace session nestedSpace, .subscribe ⟨1⟩ (spaceKey 2) ]

end Sample

/-- Once an entity has entered the space it anchors, advancing that space fails with the space
and the entity removed. -/
theorem advanceSpaceEpoch_not_atomic :
    ¬ AdvancesAtomically (Transition.run step Sample.core
      (Sample.nested ++ [.transitionEntity Sample.enterOwnSpace])) Sample.session ⟨2⟩ ⟨2⟩ := by
  rintro ⟨hfails, -⟩
  have hfailed : Fails (advanceSpaceEpoch Sample.session ⟨2⟩ ⟨2⟩)
      (Transition.run step Sample.core (Sample.nested ++ [.transitionEntity Sample.enterOwnSpace]))
      (.spaceNotFound (Sample.spaceKey 2))
      (after (advanceSpaceEpoch Sample.session ⟨2⟩ ⟨2⟩) (Transition.run step Sample.core
        (Sample.nested ++ [.transitionEntity Sample.enterOwnSpace]))) := by rfl
  have hunchanged := hfails _ _ hfailed
  have hspace := congrArg (fun core : WovenCore =>
    (core.sessionAt Sample.session).spaces.contains ⟨2⟩) hunchanged
  revert hspace
  decide +kernel

end Signalweave
