import Signalweave.Core.Limits

/-!
# What the capacity checks project

The checks before a publication walk over its batch without writing. The totals they come to are
those of the tables after the commit.
-/

open Std

namespace Signalweave

open WovenCore

namespace SessionState

variable {session : SessionState}

/-- The totals at the end of the loop of `validate_state_capacity`. -/
def projectedState (session : SessionState) (messages : List AuthorizedMessage) :
    StateProjection :=
  (messages.filter fun message => message.persistence == .stateful).foldl
    (projectState session) { entries := session.state.size, bytes := session.stateBytes }

/-- The number of keys that `validate_sequence_capacity` compares with the bound. -/
def projectedKeys (session : SessionState) (planned : ExtTreeMap SequenceKey Nat) : Nat :=
  session.sequences.size + (planned.keys.filter fun key => key ∉ session.sequences).length

/-- A round of the loop where sums of bytes end at a largest number, as `saturating_add` has it. -/
def projectUpTo (top : Nat) (session : SessionState) (projection : StateProjection)
    (message : AuthorizedMessage) : StateProjection :=
  let next := projectState session projection message
  { next with bytes := min top next.bytes }

/-- The totals where sums of bytes end at a largest number. -/
def projectedUpTo (top : Nat) (session : SessionState) (messages : List AuthorizedMessage) :
    StateProjection :=
  (messages.filter fun message => message.persistence == .stateful).foldl
    (projectUpTo top session) { entries := session.state.size, bytes := session.stateBytes }

theorem bytes_projectState_le (projection : StateProjection) (message : AuthorizedMessage) :
    (projectState session projection message).bytes ≤
      projection.bytes + message.payload.length := by
  unfold projectState
  apply Nat.add_le_add_right
  cases (projection.projected[stateKey message]?).or _ with
  | none => exact Nat.le_refl _
  | some length => exact Nat.sub_le _ _

/-- Where all that is stored and all that comes has fewer bytes, nothing saturates. -/
theorem foldl_projectUpTo {top : Nat} {projection : StateProjection}
    {messages : List AuthorizedMessage}
    (h : projection.bytes + (messages.map fun message => message.payload.length).sum ≤ top) :
    messages.foldl (projectUpTo top session) projection =
      messages.foldl (projectState session) projection := by
  induction messages generalizing projection with
  | nil => rfl
  | cons message rest ih =>
    rw [List.map_cons, List.sum_cons] at h
    have hbytes : (projectState session projection message).bytes ≤
        projection.bytes + message.payload.length := bytes_projectState_le projection message
    have hsame : projectUpTo top session projection message =
        projectState session projection message := by
      unfold projectUpTo
      dsimp only
      rw [Nat.min_eq_right (by omega)]
    rw [List.foldl_cons, List.foldl_cons, hsame]
    apply ih
    omega

theorem projectedUpTo_eq {top : Nat} {messages : List AuthorizedMessage}
    (h : session.stateBytes + (messages.map fun message => message.payload.length).sum ≤ top) :
    session.projectedUpTo top messages = session.projectedState messages := by
  apply foldl_projectUpTo
  have hfewer : ((messages.filter fun message => message.persistence == .stateful).map
      fun message => message.payload.length).sum ≤
        (messages.map fun message => message.payload.length).sum :=
    (List.filter_sublist.map _).sum_le_sum fun _ _ => Nat.zero_le _
  exact (Nat.add_le_add_left hfewer _).trans h

/-! ## The tables after the commit -/

theorem projects_commit (plan : PublishPlan) :
    Projects session (session.projectedState plan.messages) (session.commit plan) := by
  apply Projects.foldl
  exact ⟨fun k => by simp, rfl, rfl⟩

theorem size_commit_sequences (plan : PublishPlan) :
    (session.commit plan).sequences.size = session.projectedKeys plan.sequences := by
  have hkeys : OrderedMap.keySet (session.commit plan).sequences =
      OrderedMap.keySet session.sequences ∪
        (plan.sequences.keys.filter fun key => key ∉ session.sequences).toFinset := by
    ext key
    rw [OrderedMap.mem_keySet, Finset.mem_union, OrderedMap.mem_keySet, List.mem_toFinset,
      List.mem_filter, SessionState.commit, foldl_storeState_eq, mem_foldl_insert,
      ExtTreeMap.map_fst_toList_eq_keys, decide_eq_true_eq]
    tauto
  rw [← OrderedMap.card_keySet, hkeys, Finset.card_union_of_disjoint, OrderedMap.card_keySet,
    List.toFinset_card_of_nodup ((OrderedMap.nodup_keys _).filter _)]
  · rfl
  · rw [Finset.disjoint_right]
    intro key hkey
    rw [List.mem_toFinset, List.mem_filter, decide_eq_true_eq] at hkey
    rw [OrderedMap.mem_keySet]
    exact hkey.2

end SessionState

variable {core : WovenCore} {key : SessionKey}

/-- What the checks project is what the commit leaves, for any batch and any planned keys, and they
refuse just what would exceed a bound. -/
theorem projections_exact (hkey : key ∈ core.sessions) (plan : PublishPlan) :
    ((core.sessionAt key).projectedState plan.messages).entries =
        ((core.sessionAt key).commit plan).state.size ∧
      ((core.sessionAt key).projectedState plan.messages).bytes =
        ((core.sessionAt key).commit plan).stateBytes ∧
      (core.sessionAt key).projectedKeys plan.sequences =
        ((core.sessionAt key).commit plan).sequences.size ∧
      core.validateStateCapacity key plan.messages =
        (if core.config.maxStateEntriesPerSession < ((core.sessionAt key).commit plan).state.size
          then .error .stateEntryLimitReached
        else if core.config.maxStateBytesPerSession < ((core.sessionAt key).commit plan).stateBytes
          then .error .stateByteLimitReached
        else .ok ()) ∧
      core.validateSequenceCapacity key plan.sequences =
        (if core.config.maxSequenceKeysPerSession <
            ((core.sessionAt key).commit plan).sequences.size
          then .error .sequenceKeyLimitReached
        else .ok ()) ∧
      -- The sums are the saturating ones, where the bytes all fit into the memory.
      ∀ top, (core.sessionAt key).stateBytes +
          (plan.messages.map fun message => message.payload.length).sum ≤ top →
        (core.sessionAt key).projectedUpTo top plan.messages =
          (core.sessionAt key).projectedState plan.messages := by
  have hfound := sessions_getElem? hkey
  have hprojects := (core.sessionAt key).projects_commit plan
  have hkeys := (core.sessionAt key).size_commit_sequences plan
  refine ⟨hprojects.entries, hprojects.bytes, hkeys.symm, ?_, ?_, fun top h =>
    SessionState.projectedUpTo_eq h⟩
  · rw [← hprojects.entries, ← hprojects.bytes, validateStateCapacity, hfound]
    rfl
  · rw [hkeys, validateSequenceCapacity, hfound]
    rfl

namespace Sample

/-- Two values of one component, the second shorter, and one of another. -/
def values : List AuthorizedMessage :=
  [(1, 5), (1, 2), (2, 3)].map fun value =>
    .fromRequest { publication 1 with
      persistence := .stateful
      coalesceKey := some ⟨⟨1⟩, none, value.1⟩
      payload := List.replicate value.2 0 }

end Sample

theorem projections_exact_values :
    let session := (Transition.run step Sample.core Sample.setup).sessionAt Sample.session
    (session.projectedState Sample.values).entries = 2 ∧
      (session.projectedState Sample.values).bytes = 5 ∧
        (session.commit ⟨Sample.values, ∅⟩).state.size = 2 ∧
          (session.commit ⟨Sample.values, ∅⟩).stateBytes = 5 := by
  have hprovisioned : Sample.session ∈ (Transition.run step Sample.core Sample.setup).sessions := by
    decide +kernel
  obtain ⟨hentries, hbytes, -⟩ := projections_exact hprovisioned ⟨Sample.values, ∅⟩
  have htwo : (((Transition.run step Sample.core Sample.setup).sessionAt
      Sample.session).projectedState Sample.values).entries = 2 := by decide +kernel
  have hfive : (((Transition.run step Sample.core Sample.setup).sessionAt
      Sample.session).projectedState Sample.values).bytes = 5 := by decide +kernel
  exact ⟨htwo, hfive, hentries.symm.trans htwo, hbytes.symm.trans hfive⟩

end Signalweave
