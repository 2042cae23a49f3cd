import Signalweave.Core.Cascade

/-!
# The indexes of one session

What the tables of a session say of each other, and that every change to a session keeps it.
-/

open Std

namespace Signalweave

namespace SessionState

/-- The redundant tables of a session agree. -/
structure Consistent (session : SessionState) : Prop where
  keyed : session.Keyed
  subscriberSpaces : ∀ id, id ∈ session.subscribers ↔ id ∈ session.spaces
  owners : ∀ (id : EntityId) (record : EntityRecord), session.entities[id]? = some record →
    record.ownerConnection ∈ session.members
  located : ∀ (id : EntityId) (record : EntityRecord), session.entities[id]? = some record →
    session.Installed record.space record.spaceEpoch
  bytes : session.stateBytes = session.storedBytes
  stateKeys : ∀ key, key ∈ session.state → session.InScope key.space key.spaceEpoch key.entity
  sequenceKeys : ∀ key, key ∈ session.sequences →
    session.InScope key.space key.spaceEpoch key.entity
  sequenceOwners : ∀ key, key ∈ session.sequences → key.connection ∈ session.members

theorem consistent_empty : ({} : SessionState).Consistent where
  keyed := ⟨by simp, by simp⟩
  subscriberSpaces := by simp
  owners := by simp
  located := by simp
  bytes := by simp [storedBytes]
  stateKeys := by simp
  sequenceKeys := by simp
  sequenceOwners := by simp

variable {session : SessionState}

/-! ## Spaces -/

theorem Installed.installSpace {space : SpaceId} {epoch : SpaceEpoch}
    {descriptor : SpaceDescriptor} (h : session.Installed space epoch)
    (hfresh : descriptor.id ∉ session.spaces) :
    (session.installSpace descriptor).Installed space epoch := by
  obtain ⟨found, hfound, hepoch⟩ := h
  refine ⟨found, ?_, hepoch⟩
  have hne : descriptor.id ≠ space := by
    rintro rfl
    exact hfresh (OrderedMap.mem_of_getElem? hfound)
  simpa [SessionState.installSpace, ExtTreeMap.getElem?_insert, hne] using hfound

theorem Consistent.installSpace {descriptor : SpaceDescriptor} (h : session.Consistent)
    (hfresh : descriptor.id ∉ session.spaces) : (session.installSpace descriptor).Consistent := by
  have hscope : ∀ {space epoch entity}, session.InScope space epoch entity →
      (session.installSpace descriptor).InScope space epoch entity :=
    fun hs => ⟨hs.1.installSpace hfresh, hs.2⟩
  refine ⟨⟨?_, h.keyed.entities⟩, ?_, h.owners, ?_, h.bytes, ?_, ?_, h.sequenceOwners⟩
  · intro id found hfound
    rw [SessionState.installSpace, OrderedMap.getElem?_insert] at hfound
    split at hfound
    · rename_i heq
      cases hfound
      exact heq.symm
    · exact h.keyed.spaces id found hfound
  · intro id
    simp [SessionState.installSpace, h.subscriberSpaces id]
  · intro id record hid
    exact (h.located id record hid).installSpace hfresh
  · exact fun key hkey => hscope (h.stateKeys key hkey)
  · exact fun key hkey => hscope (h.sequenceKeys key hkey)

theorem mem_dropRemoved_entities {removal : Removal} {id : EntityId} {record : EntityRecord} :
    (session.dropRemoved removal).entities[id]? = some record ↔
      session.entities[id]? = some record ∧ id ∉ removal.entities := by
  rw [dropRemoved_entities, OrderedMap.getElem?_filter]
  simp [← Bool.not_eq_true]

/-- A scope outside what is removed survives the removal. -/
theorem InScope.dropRemoved {removal : Removal} {space : SpaceId} {epoch : SpaceEpoch}
    {entity : Option EntityId} (h : session.InScope space epoch entity)
    (hkept : keptBy removal space entity = true) :
    (session.dropRemoved removal).InScope space epoch entity := by
  obtain ⟨hspace, hentity⟩ := keptBy_iff.mp hkept
  obtain ⟨⟨found, hfound, hepoch⟩, hin⟩ := h
  refine ⟨⟨found, ?_, hepoch⟩, ?_⟩
  · rw [dropRemoved_spaces, if_neg hspace, hfound]
  · intro id hid
    obtain ⟨record, hrecord, hlocated⟩ := hin id hid
    exact ⟨record, mem_dropRemoved_entities.mpr ⟨hrecord, hentity id hid⟩, hlocated⟩

theorem Consistent.dropRemoved {initial : ExtTreeSet EntityId} (h : session.Consistent) :
    (session.dropRemoved (session.cascade initial)).Consistent := by
  refine ⟨⟨?_, ?_⟩, ?_, ?_, ?_, dropRemoved_stateBytes, ?_, ?_, ?_⟩
  · intro id found hfound
    rw [dropRemoved_spaces] at hfound
    split at hfound
    · cases hfound
    · exact h.keyed.spaces id found hfound
  · intro id record hid
    exact h.keyed.entities id record (mem_dropRemoved_entities.mp hid).1
  · intro id
    have hiff := h.subscriberSpaces id
    rw [ExtTreeMap.mem_iff_isSome_getElem?, ExtTreeMap.mem_iff_isSome_getElem?] at hiff ⊢
    rw [dropRemoved_subscribers, dropRemoved_spaces]
    split
    · simp
    · exact hiff
  · intro id record hid
    rw [dropRemoved_members]
    exact h.owners id record (mem_dropRemoved_entities.mp hid).1
  · intro id record hid
    obtain ⟨hfound, hnot⟩ := mem_dropRemoved_entities.mp hid
    -- An entity of a removed space would have been removed with it.
    have hspace : record.space ∉ (session.cascade initial).spaces :=
      fun hin => hnot (cascade_entities_closed h.keyed hfound hin)
    obtain ⟨descriptor, hdescriptor, hepoch⟩ := h.located id record hfound
    exact ⟨descriptor, by rw [dropRemoved_spaces, if_neg hspace, hdescriptor], hepoch⟩
  · intro key hkey
    rw [dropRemoved_state, OrderedMap.mem_filter] at hkey
    obtain ⟨hmem, hkept⟩ := hkey
    exact (h.stateKeys key hmem).dropRemoved hkept
  · intro key hkey
    rw [dropRemoved_sequences, OrderedMap.mem_filter] at hkey
    obtain ⟨hmem, hkept⟩ := hkey
    exact (h.sequenceKeys key hmem).dropRemoved hkept
  · intro key hkey
    rw [dropRemoved_sequences, OrderedMap.mem_filter] at hkey
    rw [dropRemoved_members]
    exact h.sequenceOwners key hkey.1

/-- A space without entities takes a new epoch, and its keys go. -/
theorem Consistent.advanceEpoch {space : SpaceId} {proposed : SpaceEpoch} (h : session.Consistent)
    (hempty : ∀ (id : EntityId) (record : EntityRecord), session.entities[id]? = some record →
      record.space ≠ space) : (session.advanceEpoch space proposed).Consistent := by
  have hother : ∀ {other epoch}, other ≠ space → session.Installed other epoch →
      (session.advanceEpoch space proposed).Installed other epoch := by
    rintro other epoch hne ⟨found, hfound, hepoch⟩
    refine ⟨found, ?_, hepoch⟩
    change (session.spaces.modify space _)[other]? = some found
    rw [OrderedMap.getElem?_modify, if_neg hne, hfound]
  refine ⟨⟨?_, h.keyed.entities⟩, ?_, h.owners, ?_, rfl, ?_, ?_, ?_⟩
  · intro id found hfound
    change (session.spaces.modify space _)[id]? = some found at hfound
    rw [OrderedMap.getElem?_modify] at hfound
    split at hfound
    · obtain ⟨before, hbefore, rfl⟩ := Option.map_eq_some_iff.mp hfound
      exact h.keyed.spaces id before hbefore
    · exact h.keyed.spaces id found hfound
  · intro id
    change id ∈ session.subscribers ↔ id ∈ session.spaces.modify space _
    rw [ExtTreeMap.mem_modify, h.subscriberSpaces]
  · intro id record hid
    exact hother (hempty id record hid) (h.located id record hid)
  · intro key hkey
    obtain ⟨hmem, hne⟩ := OrderedMap.mem_filter.mp hkey
    have hscope := h.stateKeys key hmem
    exact ⟨hother (by simpa using hne) hscope.1, hscope.2⟩
  · intro key hkey
    obtain ⟨hmem, hne⟩ := OrderedMap.mem_filter.mp hkey
    have hscope := h.sequenceKeys key hmem
    exact ⟨hother (by simpa using hne) hscope.1, hscope.2⟩
  · intro key hkey
    exact h.sequenceOwners key (OrderedMap.mem_filter.mp hkey).1

/-! ## Members and subscribers -/

/-- Members and subscribers may change as long as owners of entities and keys stay members. -/
theorem Consistent.withMembers {members : ExtTreeSet ConnectionId}
    {subscribers : ExtTreeMap SpaceId (ExtTreeSet ConnectionId)}
    {sequences : ExtTreeMap SequenceKey Nat} (h : session.Consistent)
    (hsubscribers : ∀ id, id ∈ subscribers ↔ id ∈ session.subscribers)
    (hsequences : ∀ key, key ∈ sequences → key ∈ session.sequences)
    (howners : ∀ (id : EntityId) (record : EntityRecord), session.entities[id]? = some record →
      record.ownerConnection ∈ members)
    (hkeys : ∀ key : SequenceKey, key ∈ sequences → key.connection ∈ members) :
    { session with members, subscribers, sequences }.Consistent where
  keyed := ⟨h.keyed.spaces, h.keyed.entities⟩
  subscriberSpaces id := (hsubscribers id).trans (h.subscriberSpaces id)
  owners := howners
  located := h.located
  bytes := h.bytes
  stateKeys := h.stateKeys
  sequenceKeys key hkey := h.sequenceKeys key (hsequences key hkey)
  sequenceOwners := hkeys

theorem Consistent.join {connection : ConnectionId} (h : session.Consistent) :
    { session with members := session.members.insert connection }.Consistent :=
  h.withMembers (fun _ => Iff.rfl) (fun _ hkey => hkey)
    (fun id record hid => ExtTreeSet.mem_insert.mpr (.inr (h.owners id record hid)))
    (fun key hkey => ExtTreeSet.mem_insert.mpr (.inr (h.sequenceOwners key hkey)))

theorem Consistent.modifySubscribers {space : SpaceId}
    {f : ExtTreeSet ConnectionId → ExtTreeSet ConnectionId} (h : session.Consistent) :
    { session with subscribers := session.subscribers.modify space f }.Consistent :=
  h.withMembers (fun _ => ExtTreeMap.mem_modify) (fun _ hkey => hkey) h.owners h.sequenceOwners

/-- A member without entities leaves. -/
theorem Consistent.leave {connection : ConnectionId} (h : session.Consistent)
    (hnone : ∀ (id : EntityId) (record : EntityRecord), session.entities[id]? = some record →
      record.ownerConnection ≠ connection) : (session.leave connection).Consistent := by
  have herase : ∀ {other}, other ≠ connection → other ∈ session.members →
      other ∈ session.members.erase connection := by
    intro other hne hmem
    simp [hmem, Ne.symm hne]
  apply h.withMembers
  · simp
  · exact fun key hkey => (OrderedMap.mem_filter.mp hkey).1
  · exact fun id record hid => herase (hnone id record hid) (h.owners id record hid)
  · intro key hkey
    obtain ⟨hmem, hne⟩ := OrderedMap.mem_filter.mp hkey
    exact herase (by simpa using hne) (h.sequenceOwners key hmem)

/-! ## Entities -/

theorem Consistent.spawn {id : EntityId} {record : EntityRecord} (h : session.Consistent)
    (hfresh : id ∉ session.entities) (hid : record.id = id)
    (howner : record.ownerConnection ∈ session.members)
    (hinstalled : session.Installed record.space record.spaceEpoch) :
    { session with entities := session.entities.insert id record }.Consistent := by
  have hlookup : ∀ {other : EntityId} {found : EntityRecord},
      (session.entities.insert id record)[other]? = some found →
        (other = id ∧ found = record) ∨ session.entities[other]? = some found := by
    intro other found hfound
    rw [OrderedMap.getElem?_insert] at hfound
    split at hfound
    · exact .inl ⟨by assumption, (Option.some.inj hfound).symm⟩
    · exact .inr hfound
  have hscope : ∀ {space epoch entity}, session.InScope space epoch entity →
      { session with entities := session.entities.insert id record }.InScope space epoch
        entity := by
    rintro space epoch entity ⟨hspace, hin⟩
    refine ⟨hspace, fun other hother => ?_⟩
    obtain ⟨found, hfound, hlocated⟩ := hin other hother
    refine ⟨found, ?_, hlocated⟩
    have hne : other ≠ id := by
      rintro rfl
      exact hfresh (OrderedMap.mem_of_getElem? hfound)
    rw [OrderedMap.getElem?_insert, if_neg hne, hfound]
  refine ⟨⟨h.keyed.spaces, ?_⟩, h.subscriberSpaces, ?_, ?_, h.bytes, ?_, ?_, h.sequenceOwners⟩
  · intro other found hfound
    rcases hlookup hfound with ⟨rfl, rfl⟩ | hfound
    · exact hid
    · exact h.keyed.entities other found hfound
  · intro other found hfound
    rcases hlookup hfound with ⟨rfl, rfl⟩ | hfound
    · exact howner
    · exact h.owners other found hfound
  · intro other found hfound
    rcases hlookup hfound with ⟨rfl, rfl⟩ | hfound
    · exact hinstalled
    · exact h.located other found hfound
  · exact fun key hkey => hscope (h.stateKeys key hkey)
  · exact fun key hkey => hscope (h.sequenceKeys key hkey)

/-- The spatial index takes no part in the other indexes. -/
theorem Consistent.withCells {entityCells : ExtTreeMap EntityId SpatialCellKey}
    {cellEntities : ExtTreeMap SpatialCellKey (ExtTreeSet EntityId)} (h : session.Consistent) :
    { session with entityCells, cellEntities }.Consistent where
  keyed := ⟨h.keyed.spaces, h.keyed.entities⟩
  subscriberSpaces := h.subscriberSpaces
  owners := h.owners
  located := h.located
  bytes := h.bytes
  stateKeys := h.stateKeys
  sequenceKeys := h.sequenceKeys
  sequenceOwners := h.sequenceOwners

theorem moveToCell_eq (session : SessionState) (entity : EntityId)
    (cell : Option SpatialCellKey) :
    session.moveToCell entity cell =
      { session with
        entityCells := (session.moveToCell entity cell).entityCells
        cellEntities := (session.moveToCell entity cell).cellEntities } := by
  unfold moveToCell
  split
  · rfl
  · rw [removeEntityFromCell_eq]
    cases cell <;> rfl

/-- A record may change in what the indexes do not read. -/
theorem Consistent.modifyEntity {entity : EntityId} {f : EntityRecord → EntityRecord}
    (h : session.Consistent) (hid : ∀ record, (f record).id = record.id)
    (howner : ∀ record, (f record).ownerConnection = record.ownerConnection)
    (hspace : ∀ record, (f record).space = record.space)
    (hepoch : ∀ record, (f record).spaceEpoch = record.spaceEpoch) :
    (session.modifyEntity entity f).Consistent := by
  have hlookup : ∀ {other : EntityId} {found : EntityRecord},
      (session.modifyEntity entity f).entities[other]? = some found →
      ∃ before : EntityRecord, session.entities[other]? = some before ∧ found.id = before.id ∧
        found.ownerConnection = before.ownerConnection ∧ found.space = before.space ∧
        found.spaceEpoch = before.spaceEpoch := by
    intro other found hfound
    rw [SessionState.modifyEntity, OrderedMap.getElem?_modify] at hfound
    split at hfound
    · obtain ⟨before, hbefore, rfl⟩ := Option.map_eq_some_iff.mp hfound
      exact ⟨before, hbefore, hid before, howner before, hspace before, hepoch before⟩
    · exact ⟨found, hfound, rfl, rfl, rfl, rfl⟩
  have hscope : ∀ {space epoch key}, session.InScope space epoch key →
      (session.modifyEntity entity f).InScope space epoch key := by
    rintro space epoch key ⟨hinstalled, hin⟩
    refine ⟨hinstalled, fun other hother => ?_⟩
    obtain ⟨found, hfound, hlocated⟩ := hin other hother
    rw [SessionState.modifyEntity, OrderedMap.getElem?_modify, hfound]
    split
    · exact ⟨f found, rfl, by rw [hspace, hlocated]⟩
    · exact ⟨found, rfl, hlocated⟩
  refine ⟨⟨h.keyed.spaces, ?_⟩, h.subscriberSpaces, ?_, ?_, h.bytes, ?_, ?_, h.sequenceOwners⟩
  · intro other found hfound
    obtain ⟨before, hbefore, heq, -⟩ := hlookup hfound
    rw [heq, h.keyed.entities other before hbefore]
  · intro other found hfound
    obtain ⟨before, hbefore, -, heq, -⟩ := hlookup hfound
    exact heq ▸ h.owners other before hbefore
  · intro other found hfound
    obtain ⟨before, hbefore, -, -, heq, heq'⟩ := hlookup hfound
    rw [heq, heq']
    exact h.located other before hbefore
  · exact fun key hkey => hscope (h.stateKeys key hkey)
  · exact fun key hkey => hscope (h.sequenceKeys key hkey)

theorem Consistent.move {entity : EntityId} {position : EntityPosition}
    {cell : Option SpatialCellKey} (h : session.Consistent) :
    ((session.moveToCell entity cell).modifyEntity entity fun record =>
      { record with position := some position }).Consistent := by
  rw [moveToCell_eq]
  exact h.withCells.modifyEntity (fun _ => rfl) (fun _ => rfl) (fun _ => rfl) (fun _ => rfl)

section Transition

variable {request : EntityTransitionRequest}

theorem transition_eq :
    session.transition request =
      { session with
        entities := session.entities.modify request.entity request.place
        entityCells := (session.transition request).entityCells
        cellEntities := (session.transition request).cellEntities
        state := session.state.filter fun key _ =>
          !request.leaves key.space key.spaceEpoch key.entity
        stateBytes := (session.transition request).storedBytes
        sequences := session.sequences.filter fun key _ =>
          !request.leaves key.space key.spaceEpoch key.entity } := by
  unfold transition
  rw [removeEntityFromCell_eq]
  rfl

theorem EntityTransitionRequest.leaves_iff {space : SpaceId} {epoch : SpaceEpoch}
    {entity : Option EntityId} :
    request.leaves space epoch entity = true ↔
      space = request.sourceSpace ∧ epoch = request.sourceEpoch ∧
        entity = some request.entity := by
  simp [EntityTransitionRequest.leaves, and_assoc]

/-- A scope that is not the one the entity leaves does not name the entity. -/
theorem InScope.transition {record : EntityRecord} {space : SpaceId} {epoch : SpaceEpoch}
    {entity : Option EntityId} (h : session.InScope space epoch entity)
    (hrecord : session.entities[request.entity]? = some record)
    (hspace : record.space = request.sourceSpace)
    (hsource : session.Installed request.sourceSpace request.sourceEpoch)
    (hkept : request.leaves space epoch entity = false) :
    (session.transition request).InScope space epoch entity := by
  rw [transition_eq]
  refine ⟨h.1, fun id hid => ?_⟩
  obtain ⟨found, hfound, hlocated⟩ := h.2 id hid
  have hne : id ≠ request.entity := by
    rintro rfl
    obtain rfl : found = record := Option.some.inj (hfound.symm.trans hrecord)
    obtain ⟨descriptor, hdescriptor, rfl⟩ := h.1
    obtain ⟨source, hsource, hepoch⟩ := hsource
    rw [← hspace, hlocated, hdescriptor] at hsource
    obtain rfl := Option.some.inj hsource
    apply Bool.eq_false_iff.mp hkept
    exact EntityTransitionRequest.leaves_iff.mpr ⟨hlocated ▸ hspace, hepoch, hid⟩
  exact ⟨found, by rw [OrderedMap.getElem?_modify, if_neg hne, hfound], hlocated⟩

theorem Consistent.transition {record : EntityRecord} (h : session.Consistent)
    (hrecord : session.entities[request.entity]? = some record)
    (hspace : record.space = request.sourceSpace)
    (hsource : session.Installed request.sourceSpace request.sourceEpoch)
    (hdestination : session.Installed request.destinationSpace request.destinationEpoch) :
    (session.transition request).Consistent := by
  have hlookup : ∀ {id : EntityId} {found : EntityRecord},
      (session.transition request).entities[id]? = some found →
        (∃ before, session.entities[id]? = some before ∧ found = request.place before) ∨
          session.entities[id]? = some found := by
    intro id found hfound
    rw [transition_eq, OrderedMap.getElem?_modify] at hfound
    split at hfound
    · obtain ⟨before, hbefore, rfl⟩ := Option.map_eq_some_iff.mp hfound
      exact .inl ⟨before, hbefore, rfl⟩
    · exact .inr hfound
  have hinstalled : ∀ {space epoch}, session.Installed space epoch →
      (session.transition request).Installed space epoch := by
    intro space epoch hin
    rw [transition_eq]
    exact hin
  refine ⟨⟨?_, ?_⟩, ?_, ?_, ?_, rfl, ?_, ?_, ?_⟩
  · rw [transition_eq]
    exact h.keyed.spaces
  · intro id found hfound
    rcases hlookup hfound with ⟨before, hbefore, rfl⟩ | hfound
    · exact h.keyed.entities id before hbefore
    · exact h.keyed.entities id found hfound
  · rw [transition_eq]
    exact h.subscriberSpaces
  · intro id found hfound
    have hmembers : (session.transition request).members = session.members := by
      rw [transition_eq]
    rw [hmembers]
    rcases hlookup hfound with ⟨before, hbefore, rfl⟩ | hfound
    · exact h.owners id before hbefore
    · exact h.owners id found hfound
  · intro id found hfound
    rcases hlookup hfound with ⟨before, hbefore, rfl⟩ | hfound
    · exact hinstalled hdestination
    · exact hinstalled (h.located id found hfound)
  · intro key hkey
    rw [transition_eq, OrderedMap.mem_filter, Bool.not_eq_true'] at hkey
    exact (h.stateKeys key hkey.1).transition hrecord hspace hsource hkey.2
  · intro key hkey
    rw [transition_eq, OrderedMap.mem_filter, Bool.not_eq_true'] at hkey
    exact (h.sequenceKeys key hkey.1).transition hrecord hspace hsource hkey.2
  · intro key hkey
    rw [transition_eq, OrderedMap.mem_filter] at hkey
    rw [transition_eq]
    exact h.sequenceOwners key hkey.1

end Transition

/-! ## State and sequences -/

theorem storeState_eq (session : SessionState) (message : AuthorizedMessage) :
    session.storeState message =
      { session with
        state := (session.storeState message).state
        stateBytes := (session.storeState message).stateBytes } := by
  unfold storeState
  split <;> rfl

theorem foldl_storeState_eq (messages : List AuthorizedMessage) (session : SessionState) :
    messages.foldl storeState session =
      { session with
        state := (messages.foldl storeState session).state
        stateBytes := (messages.foldl storeState session).stateBytes } := by
  induction messages generalizing session with
  | nil => rfl
  | cons message rest ih => rw [List.foldl_cons, ih, storeState_eq session message]

/-- A commit writes state and sequences, and nothing else of the session. -/
theorem commit_eq (session : SessionState) (plan : PublishPlan) :
    session.commit plan =
      { session with
        sequences := (session.commit plan).sequences
        state := (session.commit plan).state
        stateBytes := (session.commit plan).stateBytes } := by
  unfold commit
  rw [foldl_storeState_eq]

theorem Consistent.storeState {message : AuthorizedMessage} (h : session.Consistent)
    (hscope : session.InScope message.space message.spaceEpoch message.entity) :
    (session.storeState message).Consistent := by
  unfold SessionState.storeState
  split
  · refine ⟨⟨h.keyed.spaces, h.keyed.entities⟩, h.subscriberSpaces, h.owners, h.located, ?_, ?_,
      h.sequenceKeys, h.sequenceOwners⟩
    · have htotal := OrderedMap.total_insert (f := fun _ record => record.payload.length)
        (m := session.state) (k := stateKey message)
        (v := { sequence := message.sequence, payload := message.payload })
      have hshare := OrderedMap.share_le_total (f := fun _ record => record.payload.length)
        (m := session.state) (k := stateKey message)
      have hbytes := h.bytes
      simp only [storedBytes, OrderedMap.share] at *
      cases hprevious : session.state[stateKey message]? with
      | none => simp_all
      | some previous =>
        simp_all
        omega
    · intro key hkey
      rcases OrderedMap.mem_insert.mp hkey with rfl | hkey
      · exact hscope
      · exact h.stateKeys key hkey
  · exact h

theorem Consistent.foldl_storeState {messages : List AuthorizedMessage} (h : session.Consistent)
    (hin : ∀ message ∈ messages,
      session.InScope message.space message.spaceEpoch message.entity) :
    (messages.foldl SessionState.storeState session).Consistent := by
  induction messages generalizing session with
  | nil => exact h
  | cons message rest ih =>
    apply ih (h.storeState (hin message List.mem_cons_self))
    intro other hother
    rw [storeState_eq]
    exact hin other (List.mem_cons_of_mem _ hother)

/-- The sequence table of a commit holds the old keys and the planned ones. -/
theorem mem_foldl_insert {entries : List (SequenceKey × Nat)} {key : SequenceKey}
    {sequences : ExtTreeMap SequenceKey Nat} :
    key ∈ entries.foldl (fun sequences entry => sequences.insert entry.1 entry.2) sequences ↔
      key ∈ entries.map Prod.fst ∨ key ∈ sequences := by
  induction entries generalizing sequences with
  | nil => simp
  | cons entry rest ih =>
    rw [List.foldl_cons, ih, OrderedMap.mem_insert, List.map_cons, List.mem_cons]
    tauto

theorem Consistent.commit {plan : PublishPlan} (h : session.Consistent)
    (hmessages : ∀ message ∈ plan.messages,
      session.InScope message.space message.spaceEpoch message.entity)
    (hkeys : ∀ key, key ∈ plan.sequences →
      session.InScope key.space key.spaceEpoch key.entity ∧ key.connection ∈ session.members) :
    (session.commit plan).Consistent := by
  unfold SessionState.commit
  refine Consistent.foldl_storeState ?_ hmessages
  have hmem : ∀ key, key ∈ plan.sequences.toList.foldl
      (fun sequences entry => sequences.insert entry.1 entry.2) session.sequences →
        key ∈ plan.sequences ∨ key ∈ session.sequences := by
    intro key hkey
    rw [mem_foldl_insert, ExtTreeMap.map_fst_toList_eq_keys, ExtTreeMap.mem_keys] at hkey
    exact hkey
  refine ⟨⟨h.keyed.spaces, h.keyed.entities⟩, h.subscriberSpaces, h.owners, h.located, h.bytes,
    h.stateKeys, ?_, ?_⟩
  · intro key hkey
    rcases hmem key hkey with hplanned | hstored
    · exact (hkeys key hplanned).1
    · exact h.sequenceKeys key hstored
  · intro key hkey
    rcases hmem key hkey with hplanned | hstored
    · exact (hkeys key hplanned).2
    · exact h.sequenceOwners key hstored

end SessionState

end Signalweave
