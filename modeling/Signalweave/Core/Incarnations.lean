import Signalweave.Core.EpochAdvance
import Signalweave.Core.Limits

/-!
# The incarnations of a space

A space id is installed any number of times, each time at a later epoch: the removal of a space
leaves a tombstone with its last epoch, and an installation has to go past it.
-/

open Std

namespace Signalweave

open Stateful WovenCore

namespace SessionState

variable {session : SessionState} {space : SpaceId}

/-- The epoch of the present incarnation of a space, or of the last one. -/
def lastEpoch (session : SessionState) (space : SpaceId) : Option SpaceEpoch :=
  ((session.spaces[space]?).map SpaceDescriptor.epoch).or session.spaceEpochTombstones[space]?

theorem lastEpoch_congr {session' : SessionState} (hspaces : session'.spaces = session.spaces)
    (htombstones : session'.spaceEpochTombstones = session.spaceEpochTombstones) :
    session'.lastEpoch space = session.lastEpoch space := by
  rw [lastEpoch, lastEpoch, hspaces, htombstones]

/-- A removed space leaves its epoch behind. -/
theorem lastEpoch_removeSpace (hkeyed : ∀ (id : SpaceId) (descriptor : SpaceDescriptor),
      session.spaces[id]? = some descriptor → descriptor.id = id) (removed : SpaceId) :
    (session.removeSpace removed).lastEpoch space = session.lastEpoch space := by
  unfold lastEpoch
  rw [removeSpace_spaces, OrderedMap.getElem?_erase]
  cases hfound : session.spaces[removed]? with
  | none =>
    rw [removeSpace_tombstones_of_none hfound]
    split
    · rename_i heq
      rw [heq, hfound]
    · rfl
  | some descriptor =>
    rw [removeSpace_tombstones hfound, OrderedMap.getElem?_insert,
      hkeyed removed descriptor hfound]
    split
    · rename_i heq
      rw [heq, hfound]
      rfl
    · rfl

theorem lastEpoch_foldl_removeSpace (list : List SpaceId) (session : SessionState)
    (hkeyed : ∀ (id : SpaceId) (descriptor : SpaceDescriptor),
      session.spaces[id]? = some descriptor → descriptor.id = id) :
    (list.foldl removeSpace session).lastEpoch space = session.lastEpoch space := by
  induction list generalizing session with
  | nil => rfl
  | cons removed rest ih =>
    rw [List.foldl_cons, ih, lastEpoch_removeSpace hkeyed]
    intro id descriptor hid
    rw [removeSpace_spaces, OrderedMap.getElem?_erase] at hid
    split at hid
    · cases hid
    · exact hkeyed id descriptor hid

/-- No incarnation of the space begins between two states of a session. -/
structure Lasts (session session' : SessionState) (space : SpaceId) : Prop where
  lastEpoch : session'.lastEpoch space = session.lastEpoch space
  installed : ∀ descriptor, session'.spaces[space]? = some descriptor →
    session.spaces[space]? = some descriptor

theorem Lasts.refl : session.Lasts session space := ⟨rfl, fun _ h => h⟩

theorem Lasts.trans {session' session'' : SessionState} (h : session.Lasts session' space)
    (h' : session'.Lasts session'' space) : session.Lasts session'' space :=
  ⟨h'.lastEpoch.trans h.lastEpoch, fun _ hd => h.installed _ (h'.installed _ hd)⟩

theorem lasts_dropRemoved (hkeyed : session.Keyed) (removal : Removal) :
    session.Lasts (session.dropRemoved removal) space := by
  have hframe : (session.dropEntities removal).spaces = session.spaces ∧
      (session.dropEntities removal).spaceEpochTombstones = session.spaceEpochTombstones := by
    rw [dropEntities_eq]
    exact ⟨rfl, rfl⟩
  have hfold : (removal.spaces.toList.foldl removeSpace (session.dropEntities removal)).lastEpoch
      space = (session.dropEntities removal).lastEpoch space := by
    apply lastEpoch_foldl_removeSpace
    rw [hframe.1]
    exact hkeyed.spaces
  refine ⟨hfold.trans (lastEpoch_congr hframe.1 hframe.2), fun _ hd => ?_⟩
  rw [dropRemoved_spaces] at hd
  split at hd
  · cases hd
  · exact hd

/-- An installation begins an incarnation later than all before it. -/
theorem lastEpoch_installSpace {config : CoreConfig} {descriptor : SpaceDescriptor}
    (hfresh : descriptor.id ∉ session.spaces)
    (hhistory : checkSpaceHistory config session descriptor = .ok ()) :
    (session.installSpace descriptor).lastEpoch descriptor.id = some descriptor.epoch ∧
      ∀ last, session.lastEpoch descriptor.id = some last → last < descriptor.epoch := by
  constructor
  · show ((session.spaces.insert descriptor.id descriptor)[descriptor.id]?.map _).or _ = _
    rw [OrderedMap.getElem?_insert, if_pos rfl]
    rfl
  · intro last hlast
    rw [lastEpoch, ExtTreeMap.getElem?_eq_none hfresh, Option.map_none, Option.none_or] at hlast
    unfold checkSpaceHistory at hhistory
    rw [hlast] at hhistory
    dsimp only at hhistory
    split at hhistory
    · cases hhistory
    · rename_i hlater
      exact Nat.lt_of_not_le hlater

theorem lasts_installSpace {descriptor : SpaceDescriptor} (hother : space ≠ descriptor.id) :
    session.Lasts (session.installSpace descriptor) space := by
  have hspaces : (session.installSpace descriptor).spaces[space]? = session.spaces[space]? := by
    show (session.spaces.insert descriptor.id descriptor)[space]? = _
    rw [OrderedMap.getElem?_insert, if_neg hother]
  refine ⟨?_, fun _ hd => hspaces ▸ hd⟩
  rw [lastEpoch, lastEpoch, hspaces]
  show Option.or _ (session.spaceEpochTombstones.erase descriptor.id)[space]? = _
  rw [OrderedMap.getElem?_erase, if_neg hother]

theorem lastEpoch_advanceEpoch {proposed : SpaceEpoch} {descriptor : SpaceDescriptor}
    (hfound : session.spaces[space]? = some descriptor) :
    (session.advanceEpoch space proposed).lastEpoch space = some proposed := by
  show ((ExtTreeMap.modify session.spaces space _)[space]?.map _).or _ = _
  rw [OrderedMap.getElem?_modify, if_pos rfl, hfound]
  rfl

theorem lasts_advanceEpoch {advanced : SpaceId} {proposed : SpaceEpoch}
    (hother : space ≠ advanced) : session.Lasts (session.advanceEpoch advanced proposed) space := by
  have hspaces : (session.advanceEpoch advanced proposed).spaces[space]? =
      session.spaces[space]? := by
    show (ExtTreeMap.modify session.spaces advanced _)[space]? = _
    rw [OrderedMap.getElem?_modify, if_neg hother]
  refine ⟨?_, fun _ hd => hspaces ▸ hd⟩
  rw [lastEpoch, lastEpoch, hspaces]
  rfl

end SessionState

variable {core core' : WovenCore} {key : SessionKey} {space : SpaceId} {op : Op}

/-! ## What an operation installs -/

/-- The epoch of the incarnation of a space that an operation begins. -/
def Op.begins (core : WovenCore) (key : SessionKey) (space : SpaceId) : Op → Option SpaceEpoch
  | .installSpace k descriptor =>
    match Signalweave.installSpace k descriptor core with
    | .ok _ _ => if k = key ∧ descriptor.id = space then some descriptor.epoch else none
    | .error _ _ => none
  | .advanceSpaceEpoch k s proposed =>
    match Signalweave.advanceSpaceEpoch k s proposed core with
    | .ok _ _ => if k = key ∧ s = space then some proposed else none
    | .error _ _ => none
  | _ => none

/-- The operation may begin an incarnation. -/
def Op.opens : Op → Prop
  | .installSpace _ _ | .advanceSpaceEpoch _ _ _ => True
  | _ => False

theorem SessionChange.lasts {session : SessionState} (h : SessionChange core key op session)
    (hconsistent : core.Consistent) (hop : ¬ op.opens) :
    (core.sessionAt key).Lasts session space := by
  have hkeyed := (hconsistent.session key).keyed
  cases h with
  | installSpace | advanceEpoch => exact absurd trivial hop
  | remove initial asked => exact SessionState.lasts_dropRemoved hkeyed _
  | leave connection initial asked =>
    have hremoved := @SessionState.lasts_dropRemoved _ space hkeyed
      ((core.sessionAt key).cascade initial)
    exact ⟨hremoved.lastEpoch, hremoved.installed⟩
  | move connection entity position cell record descriptor entityFound spaceFound valid indexed =>
    rw [SessionState.moveToCell_eq]
    exact ⟨rfl, fun _ h => h⟩
  | transition request addressed record checked moves =>
    rw [SessionState.transition_eq]
    exact ⟨rfl, fun _ h => h⟩
  | commit request addressed now call clock plan planned =>
    rw [SessionState.commit_eq]
    exact ⟨rfl, fun _ h => h⟩
  | _ => exact ⟨rfl, fun _ h => h⟩

theorem Changes.lasts (h : Changes op core core') (hsound : core.Sound) (hop : ¬ op.opens) :
    (core.sessionAt key).Lasts (core'.sessionAt key) space := by
  have hboth : core'.Sound ∧ (core.sessionAt key).Lasts (core'.sessionAt key) space := by
    refine h.invariant (P := fun after => after.Sound ∧
      (core.sessionAt key).Lasts (after.sessionAt key) space) ?_ ⟨hsound, .refl⟩
    rintro before after hchange ⟨hbefore, hlasts⟩
    exact ⟨hchange.sound hbefore,
      hlasts.trans ((hchange.session key).lasts hbefore.consistent hop)⟩
  exact hboth.2

theorem installSpace_ends {descriptor : SpaceDescriptor} :
    Ends (installSpace key descriptor) core
      (fun _ core' => key ∈ core.sessions ∧ descriptor.id ∉ (core.sessionAt key).spaces ∧
        checkSpaceHistory core.config (core.sessionAt key) descriptor = .ok () ∧
        core' = core.modifySession key fun session => session.installSpace descriptor)
      fun _ core' => core' = core := by
  cases hvalid : descriptor.validate with
  | error error => simp [installSpace, hvalid]
  | ok _ =>
    simp [installSpace, hvalid, withSession]
    intro _ _ session hsession hfresh _ _ hhistory _ _ _ _
    rw [sessionAt_of_some hsession]
    exact ⟨OrderedMap.mem_of_getElem? hsession, hfresh, hhistory⟩

/-- The incarnation of a space lasts over an operation, or the operation begins a later one. -/
structure BeginsLater (core core' : WovenCore) (key : SessionKey) (space : SpaceId)
    (begun : Option SpaceEpoch) : Prop where
  lasts : begun = none → (core.sessionAt key).Lasts (core'.sessionAt key) space
  begins : ∀ epoch, begun = some epoch → (core'.sessionAt key).lastEpoch space = some epoch ∧
    ∀ last, (core.sessionAt key).lastEpoch space = some last → last < epoch

theorem installSpace_beginsLater {k : SessionKey} {descriptor : SpaceDescriptor} :
    BeginsLater core (step core (.installSpace k descriptor)) key space
      (Op.begins core key space (.installSpace k descriptor)) := by
  show BeginsLater core (after (installSpace k descriptor) core) key space _
  rcases returns_or_fails (installSpace k descriptor) core with ⟨_, h⟩ | ⟨e, h⟩
  · obtain ⟨hkey, hfresh, hhistory, hafter⟩ := installSpace_ends.returns h
    have hbegins : Op.begins core key space (.installSpace k descriptor) =
        if k = key ∧ descriptor.id = space then some descriptor.epoch else none := by
      rw [Op.begins, show installSpace k descriptor core = .ok _ _ from h]
    rw [hbegins, hafter]
    refine ⟨fun hnone => ?_, fun epoch hepoch => ?_⟩
    · rw [sessionAt_modifySession]
      split
      · rename_i hk
        obtain ⟨rfl, -⟩ := hk
        apply SessionState.lasts_installSpace
        rintro rfl
        simp at hnone
      · exact .refl
    · obtain ⟨⟨rfl, rfl⟩, hsome⟩ := Option.ite_none_right_eq_some.mp hepoch
      cases hsome
      rw [sessionAt_modifySession, if_pos ⟨rfl, hkey⟩]
      exact SessionState.lastEpoch_installSpace hfresh hhistory
  · have hbegins : Op.begins core key space (.installSpace k descriptor) = none := by
      rw [Op.begins, show installSpace k descriptor core = .error _ _ from h]
    rw [hbegins, installSpace_ends.fails h]
    exact ⟨fun _ => .refl, nofun⟩

theorem lasts_dropRemoved (h : core.Consistent) (k : SessionKey) (removal : Removal) :
    (core.sessionAt key).Lasts ((core.dropRemoved k removal).sessionAt key) space := by
  rw [sessionAt_dropRemoved]
  split
  · exact SessionState.lasts_dropRemoved (h.session key).keyed removal
  · exact .refl

/-- How an epoch advance ends for the incarnations of the spaces. -/
theorem advanceSpaceEpoch_lasts {k : SessionKey} {s : SpaceId} {proposed : SpaceEpoch}
    (h : core.Consistent) :
    Ends (advanceSpaceEpoch k s proposed) core
      (fun _ core' => (∃ descriptor, (core.sessionAt k).spaces[s]? = some descriptor ∧
          descriptor.epoch < proposed) ∧ (core'.sessionAt k).lastEpoch s = some proposed ∧
        ∀ key space, ¬ (k = key ∧ s = space) →
          (core.sessionAt key).Lasts (core'.sessionAt key) space)
      fun _ core' => ∀ key space, (core.sessionAt key).Lasts (core'.sessionAt key) space := by
  apply advanceSpaceEpoch_ends
  · exact fun _ _ _ => .refl
  · intro descriptor haccepted
    apply advanceSpaceEpoch_of_accepted haccepted
    · intro _ hkept
      have hkey : k ∈ (core.dropRemoved k (core.removalOf k (core.spaceEntities k s))).sessions :=
        mem_sessions_dropRemoved.mpr haccepted.provisioned
      have hfound : ((core.dropRemoved k (core.removalOf k (core.spaceEntities k s))).sessionAt
          k).spaces[s]? = some descriptor := by
        rw [sessionAt_dropRemoved, if_pos ⟨rfl, haccepted.provisioned⟩,
          SessionState.dropRemoved_spaces, if_neg hkept, haccepted.found]
      refine ⟨⟨descriptor, haccepted.found, haccepted.later⟩, ?_, ?_⟩
      · rw [advanceEpoch, sessionAt_modifySession, if_pos ⟨rfl, hkey⟩]
        exact SessionState.lastEpoch_advanceEpoch hfound
      · intro key space hne
        have hremoved : (core.sessionAt key).Lasts ((core.dropRemoved k
            (core.removalOf k (core.spaceEntities k s))).sessionAt key) space :=
          lasts_dropRemoved h k _
        rw [advanceEpoch, sessionAt_modifySession]
        split
        · rename_i hk
          obtain ⟨rfl, -⟩ := hk
          exact hremoved.trans (SessionState.lasts_advanceEpoch fun heq => hne ⟨rfl, heq.symm⟩)
        · exact hremoved
    · exact fun _ _ key space => lasts_dropRemoved h k _

theorem advanceSpaceEpoch_beginsLater {k : SessionKey} {s : SpaceId} {proposed : SpaceEpoch}
    (h : core.Consistent) :
    BeginsLater core (step core (.advanceSpaceEpoch k s proposed)) key space
      (Op.begins core key space (.advanceSpaceEpoch k s proposed)) := by
  show BeginsLater core (after (advanceSpaceEpoch k s proposed >>= fun _ => pure ()) core) key
    space _
  rw [after_discard]
  rcases returns_or_fails (advanceSpaceEpoch k s proposed) core with ⟨summary, hr⟩ | ⟨e, hf⟩
  · obtain ⟨⟨descriptor, hfound, hlater⟩, hown, hother⟩ := (advanceSpaceEpoch_lasts h).returns hr
    have hbegins : Op.begins core key space (.advanceSpaceEpoch k s proposed) =
        if k = key ∧ s = space then some proposed else none := by
      rw [Op.begins, show advanceSpaceEpoch k s proposed core = .ok _ _ from hr]
    rw [hbegins]
    refine ⟨fun hnone => ?_, fun epoch hepoch => ?_⟩
    · apply hother
      rintro hsame
      simp [hsame] at hnone
    · obtain ⟨⟨rfl, rfl⟩, hsome⟩ := Option.ite_none_right_eq_some.mp hepoch
      cases hsome
      refine ⟨hown, fun last hlast => ?_⟩
      rw [SessionState.lastEpoch, hfound] at hlast
      obtain rfl : descriptor.epoch = last := by simpa using hlast
      exact hlater
  · have hbegins : Op.begins core key space (.advanceSpaceEpoch k s proposed) = none := by
      rw [Op.begins, show advanceSpaceEpoch k s proposed core = .error _ _ from hf]
    rw [hbegins]
    exact ⟨fun _ => (advanceSpaceEpoch_lasts h).fails hf key space, nofun⟩

theorem step_beginsLater (h : core.Sound) (op : Op) :
    BeginsLater core (step core op) key space (op.begins core key space) := by
  by_cases hop : op.opens
  · cases op with
    | installSpace k descriptor => exact installSpace_beginsLater
    | advanceSpaceEpoch k s proposed => exact advanceSpaceEpoch_beginsLater h.consistent
    | _ => exact hop.elim
  · have hnone : op.begins core key space = none := by
      cases op <;> first | rfl | exact absurd trivial hop
    refine ⟨fun _ => (changes_step h op).lasts h hop, fun epoch hbegun => ?_⟩
    rw [hnone] at hbegun
    cases hbegun

/-! ## The epochs of a space along a run -/

/-- A core with the epochs under which a space has been installed so far. -/
structure EpochHistory where
  core : WovenCore
  epochs : List SpaceEpoch := []

namespace EpochHistory

variable {history : EpochHistory}

/-- An operation, with the incarnation of the space that it begins. -/
def step (key : SessionKey) (space : SpaceId) (history : EpochHistory) (op : Op) :
    EpochHistory where
  core := Signalweave.step history.core op
  epochs := history.epochs ++ (op.begins history.core key space).toList

/-- The epochs rise, and the last of them is the last epoch the session knows. -/
structure Rising (key : SessionKey) (space : SpaceId) (history : EpochHistory) : Prop where
  sound : history.core.Sound
  increasing : history.epochs.Pairwise (· < ·)
  last : history.epochs.getLast? = (history.core.sessionAt key).lastEpoch space

theorem Rising.lt_of_later (h : history.Rising key space) {later previous : SpaceEpoch}
    (hlater : ∀ last, (history.core.sessionAt key).lastEpoch space = some last → last < later)
    (hprevious : previous ∈ history.epochs) : previous < later := by
  rcases List.eq_nil_or_concat history.epochs with hnil | ⟨front, last, hconcat⟩
  · rw [hnil] at hprevious
    cases hprevious
  · have hlast : last < later := by
      apply hlater
      rw [← h.last, hconcat, List.concat_eq_append, List.getLast?_append]
      rfl
    rw [hconcat, List.concat_eq_append, List.mem_append, List.mem_singleton] at hprevious
    rcases hprevious with hfront | rfl
    · have hordered := h.increasing
      rw [hconcat, List.concat_eq_append, List.pairwise_append] at hordered
      exact Nat.lt_trans (hordered.2.2 previous hfront last (List.mem_singleton_self last)) hlast
    · exact hlast

theorem Rising.step (h : history.Rising key space) (op : Op) :
    (history.step key space op).Rising key space := by
  have hlater := @step_beginsLater history.core key space h.sound op
  cases hbegun : op.begins history.core key space with
  | none =>
    refine ⟨sound_step h.sound op, ?_, ?_⟩
    · simpa [EpochHistory.step, hbegun] using h.increasing
    · simpa [EpochHistory.step, hbegun, (hlater.lasts hbegun).lastEpoch] using h.last
  | some epoch =>
    obtain ⟨hlast, hearlier⟩ := hlater.begins epoch hbegun
    refine ⟨sound_step h.sound op, ?_, ?_⟩
    · simp only [EpochHistory.step, hbegun, Option.toList_some, List.pairwise_append]
      refine ⟨h.increasing, List.pairwise_singleton _ _, fun previous hprevious e he => ?_⟩
      obtain rfl := List.mem_singleton.mp he
      exact h.lt_of_later hearlier hprevious
    · simp [EpochHistory.step, hbegun, hlast]

theorem run_core (history : EpochHistory) (ops : List Op) :
    (Transition.run (EpochHistory.step key space) history ops).core =
      Transition.run Signalweave.step history.core ops :=
  Transition.run_project (f := EpochHistory.core) (fun _ _ => rfl) history ops

end EpochHistory

theorem Initial.rising (h : Initial core) : EpochHistory.Rising key space { core } := by
  have hempty := h.empty
  refine ⟨hempty.sound, List.Pairwise.nil, ?_⟩
  simp only [hempty.sessionAt]
  rfl

/-- Along every run the epochs under which a space id is installed in a session rise strictly: the
installed space has the last of them and no earlier incarnation had its epoch, and every space
that an operation installs, or installs anew, enters the list. The installed spaces and the
tombstones of the session stay within the configured history. -/
theorem run_incarnations (h : Initial core) (ops : List Op) (key : SessionKey) (space : SpaceId) :
    let history := Transition.run (EpochHistory.step key space) { core } ops
    history.core = Transition.run step core ops ∧ history.epochs.Pairwise (· < ·) ∧
      (∀ descriptor, (history.core.sessionAt key).spaces[space]? = some descriptor →
        ∃ earlier, history.epochs = earlier ++ [descriptor.epoch] ∧ descriptor.epoch ∉ earlier) ∧
      (∀ op descriptor, ((step history.core op).sessionAt key).spaces[space]? = some descriptor →
        (history.core.sessionAt key).spaces[space]? = some descriptor ∨
          op.begins history.core key space = some descriptor.epoch) ∧
      (history.core.sessionAt key).spaces.size +
          (history.core.sessionAt key).spaceEpochTombstones.size ≤
        core.config.maxSpaceEpochTombstonesPerSession := by
  intro history
  have hrising : history.Rising key space :=
    Transition.run_invariant (P := EpochHistory.Rising key space) (fun _ op h => h.step op)
      h.rising ops
  have hcore : history.core = Transition.run step core ops := EpochHistory.run_core _ ops
  refine ⟨hcore, hrising.increasing, ?_, ?_, ?_⟩
  · intro descriptor hfound
    have hlast : history.epochs.getLast? = some descriptor.epoch := by
      rw [hrising.last, SessionState.lastEpoch, hfound]
      rfl
    obtain ⟨earlier, hepochs⟩ := List.getLast?_eq_some_iff.mp hlast
    refine ⟨earlier, hepochs, fun hmem => ?_⟩
    have hordered := hrising.increasing
    rw [hepochs, List.pairwise_append] at hordered
    exact Nat.lt_irrefl _ (hordered.2.2 _ hmem _ (List.mem_singleton_self _))
  · intro op descriptor hfound
    have hlater := @step_beginsLater _ key space hrising.sound op
    cases hbegun : op.begins history.core key space with
    | none => exact .inl ((hlater.lasts hbegun).installed descriptor hfound)
    | some epoch =>
      obtain ⟨hlast, -⟩ := hlater.begins epoch hbegun
      rw [SessionState.lastEpoch, hfound] at hlast
      exact .inr hlast.symm
  · have hreachable : Reachable history.core := hcore ▸ ⟨core, ops, h, rfl⟩
    have hconfig : history.core.config = core.config := by
      rw [hcore]
      exact config_run h.empty.sound ops
    rw [← hconfig]
    exact hreachable.limited.session key |>.history

namespace Sample

/-- The anchored space goes with its anchor, is refused at its former epoch, comes back at a later
one, and is advanced. -/
def reinstalled : List Op :=
  nested ++ [.removeEntity ⟨1⟩ session ⟨1⟩, .installSpace session (Sample.space 2),
    .installSpace session { Sample.space 2 with epoch := ⟨3⟩ },
    .advanceSpaceEpoch session ⟨2⟩ ⟨4⟩]

end Sample

theorem run_incarnations_reinstalled :
    let history := Transition.run (EpochHistory.step Sample.session ⟨2⟩) { core := Sample.core }
      Sample.reinstalled
    history.epochs.map TypedId.get = [1, 3, 4] ∧ history.epochs.Pairwise (· < ·) :=
  ⟨by decide +kernel, (run_incarnations Sample.initial Sample.reinstalled _ _).2.1⟩

end Signalweave
