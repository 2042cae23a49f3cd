import Signalweave.Core.World

/-!
# The laws of the world

Whatever is done, everybody has the rights that what they do asks for, everything has its support
and every value its place. What settles gets its support back at once: it does not matter
in how many stages it settles.
-/

namespace Signalweave

/-- The laws of the world: everybody has the rights that what they do asks for, everything has
its support, and every value has its place and a channel that takes it. -/
structure World.Lawful (w : World) : Prop where
  online : ∀ connection principal, w.principal connection = some principal →
    connection ∈ w.online
  member : ∀ connection key, (connection, key) ∈ w.member →
    key ∈ w.session ∧ w.Acts connection fun principal => principal.ReadsSession key
  reads : ∀ connection spaceKey, (connection, spaceKey) ∈ w.reads →
    (connection, spaceKey.session) ∈ w.member ∧ (w.space spaceKey).isSome ∧
      w.Acts connection fun principal => principal.ReadsSpace spaceKey
  provisioned : ∀ spaceKey, (w.space spaceKey).isSome → spaceKey.session ∈ w.session
  anchored : ∀ spaceKey descriptor parent, w.space spaceKey = some descriptor →
    descriptor.parent = some parent → (w.space ⟨spaceKey.session, parent.parentSpace⟩).isSome ∧
      (w.entity spaceKey.session parent.anchorEntity).isSome
  supported : ∀ key id record, w.entity key id = some record → w.Supported key record
  own : ∀ key id record, w.entity key id = some record → record.id = id ∧
    w.Acts record.ownerConnection fun principal =>
      principal.principalId = record.ownerPrincipal ∧ principal.WritesSpace ⟨key, record.space⟩
  value : ∀ key stateKey record, w.value key stateKey = some record →
    w.InPlace ⟨key, stateKey.space⟩ stateKey.spaceEpoch stateKey.entity ∧
      ∃ channel, w.channel stateKey.channel = some channel ∧ channel.persistence = .stateful ∧
        record.payload.length ≤ channel.maxPayloadBytes

namespace World

variable {w : World} {connection : ConnectionId} {key : SessionKey} {spaceKey : SpaceKey}
  {id : EntityId} {record : EntityRecord} {descriptor : SpaceDescriptor} {thing : Thing}

theorem lawful_empty : empty.Lawful where
  online _ _ h := by cases h
  member _ _ h := h.elim
  reads _ _ h := h.elim
  provisioned _ h := by cases h
  anchored _ _ _ h := by cases h
  supported _ _ _ h := by cases h
  own _ _ _ h := by cases h
  value _ _ _ h := by cases h

theorem InPlace.mono {w' : World} {epoch : SpaceEpoch} {entity : Option EntityId}
    (hspace : ∀ spaceKey descriptor, w.space spaceKey = some descriptor →
      w'.space spaceKey = some descriptor)
    (hentity : ∀ key id record, w.entity key id = some record →
      w'.entity key id = some record) (h : w.InPlace spaceKey epoch entity) :
    w'.InPlace spaceKey epoch entity := by
  obtain ⟨⟨descriptor, hfound, hepoch⟩, hplaced⟩ := h
  refine ⟨⟨descriptor, hspace _ _ hfound, hepoch⟩, fun id hid => ?_⟩
  obtain ⟨record, hrecord, hlocated⟩ := hplaced id hid
  exact ⟨record, hentity _ _ _ hrecord, hlocated⟩

/-! ## Settling -/

theorem standing_space : w.standing.space spaceKey = some descriptor ↔
    w.space spaceKey = some descriptor ∧ ¬ w.Falls (.space spaceKey) := by
  unfold standing
  dsimp only
  split
  · rename_i hfalls
    exact iff_of_false (by simp) fun h => h.2 hfalls
  · rename_i hstands
    exact ⟨fun h => ⟨h, hstands⟩, And.left⟩

theorem standing_entity : w.standing.entity key id = some record ↔
    w.entity key id = some record ∧ ¬ w.Falls (.entity key id) := by
  unfold standing
  dsimp only
  split
  · rename_i hfalls
    exact iff_of_false (by simp) fun h => h.2 hfalls
  · rename_i hstands
    exact ⟨fun h => ⟨h, hstands⟩, And.left⟩

/-- A space that is there and does not fall stands. -/
theorem standing_space_isSome (hstands : ¬ w.Falls (.space spaceKey)) :
    (w.standing.space spaceKey).isSome := by
  have hthere : w.space spaceKey ≠ none := fun hnone => hstands (.of_gone hnone)
  obtain ⟨descriptor, hfound⟩ := Option.ne_none_iff_exists'.mp hthere
  rw [standing_space.mpr ⟨hfound, hstands⟩]
  rfl

/-- An entity that does not fall is there and has its support. -/
theorem supported_of_stands (hstands : ¬ w.Falls (.entity key id)) :
    ∃ record, w.entity key id = some record ∧ w.Supported key record := by
  by_contra hnone
  refine hstands (.of_gone fun record hfound hsupported => ?_)
  exact hnone ⟨record, hfound, hsupported⟩

theorem standing_supported (h : w.standing.entity key id = some record) :
    w.standing.Supported key record := by
  obtain ⟨hfound, hstands⟩ := standing_entity.mp h
  obtain ⟨found, hfound', hmember, descriptor, hspace, hepoch⟩ := supported_of_stands hstands
  obtain rfl := Option.some.inj (hfound.symm.trans hfound')
  refine ⟨hmember, descriptor, standing_space.mpr ⟨hspace, fun hfalls => ?_⟩, hepoch⟩
  exact hstands (.of_rests (.place hfound) hfalls)

theorem standing_anchored {parent : ParentAnchor}
    (h : w.standing.space spaceKey = some descriptor) (hnested : descriptor.parent = some parent) :
    (w.standing.space ⟨spaceKey.session, parent.parentSpace⟩).isSome ∧
      (w.standing.entity spaceKey.session parent.anchorEntity).isSome := by
  obtain ⟨hfound, hstands⟩ := standing_space.mp h
  constructor
  · exact standing_space_isSome fun hfalls =>
      hstands (.of_rests (.parent hfound hnested) hfalls)
  · have hanchor : ¬ w.Falls (.entity spaceKey.session parent.anchorEntity) := fun hfalls =>
      hstands (.of_rests (.anchor hfound hnested) hfalls)
    obtain ⟨record, hrecord, -⟩ := supported_of_stands hanchor
    rw [standing_entity.mpr ⟨hrecord, hanchor⟩]
    rfl

theorem settle_value {stateKey : StateKey} {value : StateRecord} :
    w.settle.value key stateKey = some value ↔
      w.standing.InPlace ⟨key, stateKey.space⟩ stateKey.spaceEpoch stateKey.entity ∧
        w.value key stateKey = some value := by
  unfold settle
  dsimp only
  split
  · rename_i hplace
    exact ⟨fun h => ⟨hplace, h⟩, And.right⟩
  · rename_i hplace
    exact iff_of_false (by simp) fun h => hplace h.1

/-- A world is what another settles to: the same people, and of the rest what stands. -/
theorem eq_settle {w' : World} (hchannel : w'.channel = w.channel)
    (hsession : w'.session = w.session) (honline : w'.online = w.online)
    (hprincipal : w'.principal = w.principal) (hmember : w'.member = w.member)
    (hspace : ∀ spaceKey descriptor, w'.space spaceKey = some descriptor ↔
      w.space spaceKey = some descriptor ∧ ¬ w.Falls (.space spaceKey))
    (hentity : ∀ key id record, w'.entity key id = some record ↔
      w.entity key id = some record ∧ ¬ w.Falls (.entity key id))
    (hreads : ∀ connection spaceKey, (connection, spaceKey) ∈ w'.reads ↔
      (connection, spaceKey) ∈ w.reads ∧ (connection, spaceKey.session) ∈ w.member ∧
        (w'.space spaceKey).isSome)
    (hvalue : ∀ key stateKey record, w'.value key stateKey = some record ↔
      w'.InPlace ⟨key, stateKey.space⟩ stateKey.spaceEpoch stateKey.entity ∧
        w.value key stateKey = some record) : w' = w.settle := by
  have hspaces : w'.space = w.standing.space := by
    funext spaceKey
    ext descriptor
    rw [hspace, standing_space]
  have hentities : w'.entity = w.standing.entity := by
    funext key id
    ext record
    rw [hentity, standing_entity]
  have hplace : ∀ spaceKey epoch entity, w'.InPlace spaceKey epoch entity ↔
      w.standing.InPlace spaceKey epoch entity := by
    intro spaceKey epoch entity
    unfold InPlace Installed
    rw [hspaces, hentities]
  refine World.ext hchannel hsession honline hprincipal hmember ?_ hspaces hentities ?_
  · ext ⟨connection, spaceKey⟩
    rw [hreads, hspaces]
    rfl
  · funext key stateKey
    ext record
    rw [hvalue, hplace, settle_value]

/-- What settling leaves is lawful as soon as everybody has their rights and every value its
channel: support and place are what it restores. -/
theorem lawful_settle
    (honline : ∀ connection principal, w.principal connection = some principal →
      connection ∈ w.online)
    (hmember : ∀ connection key, (connection, key) ∈ w.member →
      key ∈ w.session ∧ w.Acts connection fun principal => principal.ReadsSession key)
    (hreads : ∀ connection spaceKey, (connection, spaceKey) ∈ w.reads →
      (connection, spaceKey.session) ∈ w.member →
        w.Acts connection fun principal => principal.ReadsSpace spaceKey)
    (hprovisioned : ∀ spaceKey, (w.space spaceKey).isSome → spaceKey.session ∈ w.session)
    (hown : ∀ key id record, w.entity key id = some record →
      (record.ownerConnection, key) ∈ w.member → record.id = id ∧
        w.Acts record.ownerConnection fun principal =>
          principal.principalId = record.ownerPrincipal ∧
            principal.WritesSpace ⟨key, record.space⟩)
    (hvalue : ∀ key stateKey record, w.value key stateKey = some record →
      ∃ channel, w.channel stateKey.channel = some channel ∧ channel.persistence = .stateful ∧
        record.payload.length ≤ channel.maxPayloadBytes) : w.settle.Lawful where
  online := honline
  member := hmember
  reads connection spaceKey h := ⟨h.2.1, h.2.2, hreads connection spaceKey h.1 h.2.1⟩
  provisioned spaceKey h := by
    obtain ⟨descriptor, hfound⟩ := Option.isSome_iff_exists.mp h
    apply hprovisioned
    rw [(standing_space.mp hfound).1]
    rfl
  anchored _ _ _ h hnested := standing_anchored h hnested
  supported _ _ _ h := standing_supported h
  own key id record h :=
    hown key id record (standing_entity.mp h).1 (standing_supported h).1
  value key stateKey record h := by
    obtain ⟨hplace, hfound⟩ := settle_value.mp h
    exact ⟨hplace, hvalue key stateKey record hfound⟩

/-- The thing is there. -/
def Has (w : World) : Thing → Prop
  | .space spaceKey => (w.space spaceKey).isSome
  | .entity key id => (w.entity key id).isSome

/-- Nothing falls where every entity has its support and every nested space its anchor. -/
theorem stands_of_supported
    (hsupported : ∀ key id record, w.entity key id = some record → w.Supported key record)
    (hanchored : ∀ spaceKey descriptor parent, w.space spaceKey = some descriptor →
      descriptor.parent = some parent → (w.space ⟨spaceKey.session, parent.parentSpace⟩).isSome ∧
        (w.entity spaceKey.session parent.anchorEntity).isSome)
    (hthere : w.Has thing) : ¬ w.Falls thing := by
  refine Support.not_falls ?_ ?_ hthere
  · rintro (spaceKey | ⟨key, id⟩) hthere
    · exact Option.ne_none_iff_isSome.mpr hthere
    · obtain ⟨record, hfound⟩ := Option.isSome_iff_exists.mp hthere
      exact fun hgone => hgone record hfound (hsupported key id record hfound)
  · rintro _ _ - (⟨found⟩ | ⟨found, nested⟩ | ⟨found, nested⟩)
    · obtain ⟨-, descriptor, hspace, -⟩ := hsupported _ _ _ found
      exact Option.isSome_iff_exists.mpr ⟨descriptor, hspace⟩
    · exact (hanchored _ _ _ found nested).2
    · exact (hanchored _ _ _ found nested).1

theorem Lawful.stands (h : w.Lawful) (hthere : w.Has thing) : ¬ w.Falls thing :=
  stands_of_supported h.supported h.anchored hthere

theorem Lawful.settle_eq (h : w.Lawful) : w.settle = w := by
  refine (eq_settle rfl rfl rfl rfl rfl ?_ ?_ ?_ ?_).symm
  · intro spaceKey descriptor
    refine ⟨fun hfound => ⟨hfound, h.stands ?_⟩, And.left⟩
    exact Option.isSome_iff_exists.mpr ⟨descriptor, hfound⟩
  · intro key id record
    refine ⟨fun hfound => ⟨hfound, h.stands ?_⟩, And.left⟩
    exact Option.isSome_iff_exists.mpr ⟨record, hfound⟩
  · intro connection spaceKey
    refine ⟨fun hin => ⟨hin, ?_⟩, And.left⟩
    obtain ⟨hmember, hthere, -⟩ := h.reads connection spaceKey hin
    exact ⟨hmember, hthere⟩
  · intro key stateKey record
    exact ⟨fun hfound => ⟨(h.value key stateKey record hfound).1, hfound⟩, And.right⟩

/-! ## Settling in stages -/

section Stages

variable {pairs pairs' : Set (ConnectionId × SessionKey)} {lost lost' : Set ConnectionId}

theorem gone_settle_expel : (w.settle.expel pairs).Gone thing ↔
    w.Falls thing ∨ (w.expel pairs).Gone thing := by
  cases thing with
  | space spaceKey =>
    rw [← not_iff_not, not_or]
    show ¬ w.standing.space spaceKey = none ↔ ¬ w.Falls _ ∧ ¬ w.space spaceKey = none
    simp only [Option.ne_none_iff_exists', standing_space, exists_and_right]
    exact And.comm
  | entity key id =>
    constructor
    · intro hgone
      by_contra hstands
      obtain ⟨hfalls, hsupport⟩ := not_or.mp hstands
      refine hsupport fun record hfound hsupported => ?_
      have hstanding : w.standing.entity key id = some record :=
        standing_entity.mpr ⟨hfound, hfalls⟩
      exact hgone record hstanding ⟨hsupported.1, (standing_supported hstanding).2⟩
    · rintro (hfalls | hgone) record hfound hsupported
      · exact (standing_entity.mp hfound).2 hfalls
      · obtain ⟨hmember, descriptor, hspace, hepoch⟩ := hsupported
        exact hgone record (standing_entity.mp hfound).1
          ⟨hmember, descriptor, (standing_space.mp hspace).1, hepoch⟩

theorem rests_settle_expel {other : Thing} : (w.settle.expel pairs).Rests thing other ↔
    (w.expel pairs).Rests thing other ∧ ¬ w.Falls thing := by
  constructor
  · rintro (⟨found⟩ | ⟨found, nested⟩ | ⟨found, nested⟩)
    · obtain ⟨hfound, hstands⟩ := standing_entity.mp found
      exact ⟨.place hfound, hstands⟩
    · obtain ⟨hfound, hstands⟩ := standing_space.mp found
      exact ⟨.anchor hfound nested, hstands⟩
    · obtain ⟨hfound, hstands⟩ := standing_space.mp found
      exact ⟨.parent hfound nested, hstands⟩
  · rintro ⟨⟨found⟩ | ⟨found, nested⟩ | ⟨found, nested⟩, hstands⟩
    · exact .place (standing_entity.mpr ⟨found, hstands⟩)
    · exact .anchor (standing_space.mpr ⟨found, hstands⟩) nested
    · exact .parent (standing_space.mpr ⟨found, hstands⟩) nested

/-- What falls by itself falls as well when connections leave. -/
theorem falls_expel (h : w.Falls thing) : (w.expel pairs).Falls thing := by
  refine h.rec_on (fun a hgone => .of_gone ?_) fun a b hrests _ ih => .of_rests ?_ ih
  · cases a with
    | space spaceKey => exact hgone
    | entity key id =>
      exact fun record hfound hsupported =>
        hgone record hfound ⟨hsupported.1.1, hsupported.2⟩
  · rcases hrests with ⟨found⟩ | ⟨found, nested⟩ | ⟨found, nested⟩
    · exact .place found
    · exact .anchor found nested
    · exact .parent found nested

/-- Who leaves later takes with them what they would have taken earlier. -/
theorem falls_settle_expel : (w.settle.expel pairs).Falls thing ↔ (w.expel pairs).Falls thing := by
  refine Iff.trans ?_ (Support.falls_pruned fun _ => falls_expel)
  exact Support.falls_congr (fun _ => gone_settle_expel) fun _ _ _ => rests_settle_expel

/-- The world settles in stages as it settles at once. -/
theorem settle_expel_settle : (w.settle.expel pairs).settle = (w.expel pairs).settle := by
  have hearlier : ∀ {thing}, ¬ (w.expel pairs).Falls thing → ¬ w.Falls thing :=
    fun hstands hfalls => hstands (falls_expel hfalls)
  have hspace : ∀ spaceKey descriptor,
      (w.settle.expel pairs).settle.space spaceKey = some descriptor ↔
        w.space spaceKey = some descriptor ∧ ¬ (w.expel pairs).Falls (.space spaceKey) := by
    intro spaceKey descriptor
    show (w.settle.expel pairs).standing.space spaceKey = _ ↔ _
    rw [standing_space, falls_settle_expel]
    show w.standing.space spaceKey = _ ∧ _ ↔ _
    rw [standing_space]
    exact ⟨fun h => ⟨h.1.1, h.2⟩, fun h => ⟨⟨h.1, hearlier h.2⟩, h.2⟩⟩
  have hentity : ∀ key id record,
      (w.settle.expel pairs).settle.entity key id = some record ↔
        w.entity key id = some record ∧ ¬ (w.expel pairs).Falls (.entity key id) := by
    intro key id record
    show (w.settle.expel pairs).standing.entity key id = _ ↔ _
    rw [standing_entity, falls_settle_expel]
    show w.standing.entity key id = _ ∧ _ ↔ _
    rw [standing_entity]
    exact ⟨fun h => ⟨h.1.1, h.2⟩, fun h => ⟨⟨h.1, hearlier h.2⟩, h.2⟩⟩
  refine eq_settle rfl rfl rfl rfl rfl hspace hentity ?_ ?_
  · intro connection spaceKey
    constructor
    · rintro ⟨⟨hreads, -, -⟩, hmember, hthere⟩
      exact ⟨hreads, hmember, hthere⟩
    · rintro ⟨hreads, hmember, hthere⟩
      obtain ⟨descriptor, hfound⟩ := Option.isSome_iff_exists.mp hthere
      have hbefore := (hspace spaceKey descriptor).mp hfound
      have hstood : (w.standing.space spaceKey).isSome := by
        rw [standing_space.mpr ⟨hbefore.1, hearlier hbefore.2⟩]
        rfl
      exact ⟨⟨hreads, hmember.1, hstood⟩, hmember, hthere⟩
  · intro key stateKey record
    rw [settle_value]
    show _ ∧ w.settle.value key stateKey = _ ↔ _
    rw [settle_value]
    constructor
    · exact fun h => ⟨h.1, h.2.2⟩
    · rintro ⟨hplace, hfound⟩
      refine ⟨hplace, hplace.mono ?_ ?_, hfound⟩
      · exact fun spaceKey descriptor h => standing_space.mpr
          ⟨((hspace spaceKey descriptor).mp h).1, hearlier ((hspace spaceKey descriptor).mp h).2⟩
      · exact fun key id record h => standing_entity.mpr
          ⟨((hentity key id record).mp h).1, hearlier ((hentity key id record).mp h).2⟩

theorem falls_offline : (w.offline lost).Falls thing ↔ w.Falls thing := by
  refine Support.falls_congr ?_ fun a b _ => ⟨?_, ?_⟩
  · rintro (spaceKey | ⟨key, id⟩) <;> exact Iff.rfl
  all_goals
    rintro (⟨found⟩ | ⟨found, nested⟩ | ⟨found, nested⟩)
    · exact .place found
    · exact .anchor found nested
    · exact .parent found nested

/-- Settling is not about who is online. -/
theorem settle_offline : (w.offline lost).settle = w.settle.offline lost := by
  refine (@eq_settle (w.offline lost) (w.settle.offline lost) rfl rfl rfl rfl rfl ?_ ?_
    (fun _ _ => Iff.rfl) ?_).symm
  · intro spaceKey descriptor
    rw [falls_offline]
    exact standing_space
  · intro key id record
    rw [falls_offline]
    exact standing_entity
  · exact fun key stateKey record => settle_value

theorem settle_without_settle : (w.settle.without lost).settle = (w.without lost).settle := by
  unfold without
  rw [settle_offline, settle_expel_settle, settle_offline]

theorem expel_expel : (w.expel pairs).expel pairs' = w.expel (pairs ∪ pairs') := by
  unfold expel
  simp only [Set.sdiff_sdiff]

theorem without_without : (w.without lost).without lost' = w.without (lost ∪ lost') := by
  unfold without expel offline
  ext <;> simp <;> tauto

end Stages

/-! ## Every operation keeps the laws -/

/-- A lawful world stays so when it settles after something in it has changed that takes no rights
away from those who stay. -/
theorem Lawful.settle {w' : World} (h : w.Lawful) (hchannel : w'.channel = w.channel)
    (hsession : w'.session = w.session)
    (hacts : ∀ connection, (∃ key, (connection, key) ∈ w'.member) →
      w'.principal connection = w.principal connection)
    (honline : ∀ connection principal, w'.principal connection = some principal →
      connection ∈ w'.online)
    (hmember : ∀ pair ∈ w'.member, pair ∈ w.member)
    (hreads : ∀ pair ∈ w'.reads, pair ∈ w.reads)
    (hspace : ∀ spaceKey, (w'.space spaceKey).isSome → (w.space spaceKey).isSome)
    (hentity : ∀ key id record, w'.entity key id = some record →
      record.id = id ∧ w.Acts record.ownerConnection fun principal =>
        principal.principalId = record.ownerPrincipal ∧
          principal.WritesSpace ⟨key, record.space⟩)
    (hvalue : ∀ key stateKey record, w'.value key stateKey = some record →
      ∃ channel, w.channel stateKey.channel = some channel ∧ channel.persistence = .stateful ∧
        record.payload.length ≤ channel.maxPayloadBytes) : w'.settle.Lawful := by
  have hkeeps : ∀ {connection key right}, (connection, key) ∈ w'.member →
      w.Acts connection right → w'.Acts connection right := by
    rintro connection key right hin ⟨principal, hprincipal, hright⟩
    exact ⟨principal, (hacts connection ⟨key, hin⟩).trans hprincipal, hright⟩
  apply lawful_settle honline
  · intro connection key hin
    obtain ⟨hprovisioned, hright⟩ := h.member connection key (hmember _ hin)
    exact ⟨hsession ▸ hprovisioned, hkeeps hin hright⟩
  · intro connection spaceKey hreading hin
    exact hkeeps hin (h.reads connection spaceKey (hreads _ hreading)).2.2
  · intro spaceKey hthere
    rw [hsession]
    exact h.provisioned spaceKey (hspace spaceKey hthere)
  · intro key id record hfound hin
    obtain ⟨hid, hright⟩ := hentity key id record hfound
    exact ⟨hid, hkeeps hin hright⟩
  · rw [hchannel]
    exact hvalue

theorem Lawful.lawful_settle_without (h : w.Lawful) (lost : Set ConnectionId) :
    (w.without lost).settle.Lawful := by
  refine @Lawful.settle w (w.without lost) h rfl rfl ?_ ?_ ?_ ?_ ?_ h.own ?_
  · rintro connection ⟨key, hin⟩
    exact if_neg hin.2
  · intro connection principal hprincipal
    by_cases hlost : connection ∈ lost
    · rw [show (w.without lost).principal connection = none from if_pos hlost] at hprincipal
      cases hprincipal
    · rw [show (w.without lost).principal connection = _ from if_neg hlost] at hprincipal
      exact ⟨h.online connection principal hprincipal, hlost⟩
  · exact fun pair hin => hin.1
  · exact fun pair hin => hin
  · exact fun spaceKey hthere => hthere
  · exact fun key stateKey record hfound => (h.value key stateKey record hfound).2

theorem Lawful.lawful_settle_expel (h : w.Lawful) (pairs : Set (ConnectionId × SessionKey)) :
    (w.expel pairs).settle.Lawful :=
  @Lawful.settle w (w.expel pairs) h rfl rfl (fun _ _ => rfl) h.online (fun _ => And.left)
    (fun _ => id) (fun _ => id) h.own fun key stateKey record hfound =>
      (h.value key stateKey record hfound).2

theorem foldl_storeOne {messages : List AuthorizedMessage} {value : StateKey → Option StateRecord}
    {stateKey : StateKey} {record : StateRecord}
    (h : messages.foldl storeOne value stateKey = some record) :
    value stateKey = some record ∨ ∃ message ∈ messages, message.persistence = .stateful ∧
      stateKey = Signalweave.stateKey message ∧ record.payload = message.payload := by
  induction messages generalizing value with
  | nil => exact .inl h
  | cons message rest ih =>
    rcases ih h with hbefore | ⟨later, hin, hstored⟩
    · unfold storeOne at hbefore
      split at hbefore
      · rename_i hmatch
        cases hbefore
        exact .inr ⟨message, List.mem_cons_self, hmatch.1, hmatch.2, rfl⟩
      · exact .inl hbefore
    · exact .inr ⟨later, List.mem_cons_of_mem _ hin, hstored⟩

theorem Lawful.store (h : w.Lawful) {messages : List AuthorizedMessage}
    (hmessages : ∀ message ∈ messages, w.Publishes key message) :
    (w.store key messages).Lawful where
  online := h.online
  member := h.member
  reads := h.reads
  provisioned := h.provisioned
  anchored := h.anchored
  supported := h.supported
  own := h.own
  value k stateKey record hfound := by
    by_cases hk : k = key
    · subst hk
      rw [show (w.store k messages).value k = _ from if_pos rfl] at hfound
      rcases foldl_storeOne hfound with hbefore | ⟨message, hin, hstateful, rfl, hpayload⟩
      · exact h.value k stateKey record hbefore
      · obtain ⟨hplace, channel, hchannel, -, hpersistence, hbound⟩ := hmessages message hin
        exact ⟨hplace, channel, hchannel, hpersistence.trans hstateful, hpayload ▸ hbound⟩
    · rw [show (w.store key messages).value k = _ from if_neg hk] at hfound
      exact h.value k stateKey record hfound

/-- Whatever is in the world is still there. -/
structure Extends (w w' : World) : Prop where
  channel : ∀ id channel, w.channel id = some channel → w'.channel id = some channel
  session : ∀ key, key ∈ w.session → key ∈ w'.session
  online : ∀ connection, connection ∈ w.online → connection ∈ w'.online
  principal : ∀ connection principal, w.principal connection = some principal →
    w'.principal connection = some principal
  member : ∀ pair, pair ∈ w.member → pair ∈ w'.member
  space : ∀ spaceKey descriptor, w.space spaceKey = some descriptor →
    w'.space spaceKey = some descriptor
  entity : ∀ key id record, w.entity key id = some record → w'.entity key id = some record

theorem Extends.refl (w : World) : w.Extends w :=
  ⟨fun _ _ => id, fun _ => id, fun _ => id, fun _ _ => id, fun _ => id, fun _ _ => id,
    fun _ _ _ => id⟩

section Extends

variable {w' : World}

theorem Extends.acts (hext : w.Extends w') {right : AuthenticatedPrincipal → Prop}
    (h : w.Acts connection right) : w'.Acts connection right := by
  obtain ⟨principal, hprincipal, hright⟩ := h
  exact ⟨principal, hext.principal _ _ hprincipal, hright⟩

theorem Extends.spaceIsSome (hext : w.Extends w') (h : (w.space spaceKey).isSome) :
    (w'.space spaceKey).isSome := by
  obtain ⟨descriptor, hfound⟩ := Option.isSome_iff_exists.mp h
  exact Option.isSome_iff_exists.mpr ⟨descriptor, hext.space _ _ hfound⟩

theorem Extends.installed (hext : w.Extends w') {epoch : SpaceEpoch}
    (h : w.Installed spaceKey epoch) : w'.Installed spaceKey epoch := by
  obtain ⟨descriptor, hfound, hepoch⟩ := h
  exact ⟨descriptor, hext.space _ _ hfound, hepoch⟩

/-- A world that grows stays lawful where what is new in it is. -/
theorem Lawful.extend (h : w.Lawful) (hext : w.Extends w')
    (honline : ∀ connection principal, w'.principal connection = some principal →
      w.principal connection = some principal ∨ connection ∈ w'.online)
    (hmember : ∀ connection key, (connection, key) ∈ w'.member → (connection, key) ∈ w.member ∨
      key ∈ w'.session ∧ w'.Acts connection fun principal => principal.ReadsSession key)
    (hreads : ∀ connection spaceKey, (connection, spaceKey) ∈ w'.reads →
      (connection, spaceKey) ∈ w.reads ∨ (connection, spaceKey.session) ∈ w'.member ∧
        (w'.space spaceKey).isSome ∧
          w'.Acts connection fun principal => principal.ReadsSpace spaceKey)
    (hspace : ∀ spaceKey descriptor, w'.space spaceKey = some descriptor →
      w.space spaceKey = some descriptor ∨ spaceKey.session ∈ w'.session ∧
        ∀ parent, descriptor.parent = some parent →
          (w'.space ⟨spaceKey.session, parent.parentSpace⟩).isSome ∧
            (w'.entity spaceKey.session parent.anchorEntity).isSome)
    (hentity : ∀ key id record, w'.entity key id = some record →
      w.entity key id = some record ∨ w'.Supported key record ∧ record.id = id ∧
        w'.Acts record.ownerConnection fun principal =>
          principal.principalId = record.ownerPrincipal ∧
            principal.WritesSpace ⟨key, record.space⟩)
    (hvalue : w'.value = w.value) : w'.Lawful where
  online connection principal hprincipal := by
    rcases honline connection principal hprincipal with hbefore | hin
    · exact hext.online _ (h.online _ _ hbefore)
    · exact hin
  member connection key hin := by
    rcases hmember connection key hin with hbefore | hnew
    · obtain ⟨hprovisioned, hright⟩ := h.member _ _ hbefore
      exact ⟨hext.session _ hprovisioned, hext.acts hright⟩
    · exact hnew
  reads connection spaceKey hin := by
    rcases hreads connection spaceKey hin with hbefore | hnew
    · obtain ⟨hjoined, hthere, hright⟩ := h.reads _ _ hbefore
      exact ⟨hext.member _ hjoined, hext.spaceIsSome hthere, hext.acts hright⟩
    · exact hnew
  provisioned spaceKey hthere := by
    obtain ⟨descriptor, hfound⟩ := Option.isSome_iff_exists.mp hthere
    rcases hspace spaceKey descriptor hfound with hbefore | hnew
    · exact hext.session _ (h.provisioned _ (Option.isSome_iff_exists.mpr ⟨_, hbefore⟩))
    · exact hnew.1
  anchored spaceKey descriptor parent hfound hnested := by
    rcases hspace spaceKey descriptor hfound with hbefore | hnew
    · obtain ⟨hparent, hanchor⟩ := h.anchored _ _ _ hbefore hnested
      obtain ⟨record, hrecord⟩ := Option.isSome_iff_exists.mp hanchor
      exact ⟨hext.spaceIsSome hparent,
        Option.isSome_iff_exists.mpr ⟨record, hext.entity _ _ _ hrecord⟩⟩
    · exact hnew.2 parent hnested
  supported key id record hfound := by
    rcases hentity key id record hfound with hbefore | hnew
    · obtain ⟨hjoined, hinstalled⟩ := h.supported _ _ _ hbefore
      exact ⟨hext.member _ hjoined, hext.installed hinstalled⟩
    · exact hnew.1
  own key id record hfound := by
    rcases hentity key id record hfound with hbefore | hnew
    · obtain ⟨hid, hright⟩ := h.own _ _ _ hbefore
      exact ⟨hid, hext.acts hright⟩
    · exact hnew.2
  value key stateKey record hfound := by
    rw [hvalue] at hfound
    obtain ⟨hplace, channel, hchannel, hfits⟩ := h.value _ _ _ hfound
    exact ⟨hplace.mono hext.space hext.entity, channel, hext.channel _ _ hchannel, hfits⟩

end Extends

/-- The record of an entity changes, but neither its owner nor its place. -/
theorem Lawful.setEntity_same (h : w.Lawful) {record' : EntityRecord}
    (hfound : w.entity key id = some record) (hid : record'.id = record.id)
    (howner : record'.ownerConnection = record.ownerConnection)
    (hprincipal : record'.ownerPrincipal = record.ownerPrincipal)
    (hspace : record'.space = record.space) (hepoch : record'.spaceEpoch = record.spaceEpoch) :
    (w.setEntity key id (some record')).Lawful := by
  have hlookup : ∀ {k i found}, (w.setEntity key id (some record')).entity k i = some found →
      ∃ before, w.entity k i = some before ∧ found.id = before.id ∧
        found.ownerConnection = before.ownerConnection ∧
          found.ownerPrincipal = before.ownerPrincipal ∧ found.space = before.space ∧
            found.spaceEpoch = before.spaceEpoch := by
    intro k i found hlookup
    unfold setEntity at hlookup
    dsimp only at hlookup
    split at hlookup
    · rename_i hsame
      obtain ⟨rfl, rfl⟩ := hsame
      cases hlookup
      exact ⟨record, hfound, hid, howner, hprincipal, hspace, hepoch⟩
    · exact ⟨found, hlookup, rfl, rfl, rfl, rfl, rfl⟩
  have hplaces : ∀ {k i before}, w.entity k i = some before →
      ∃ found, (w.setEntity key id (some record')).entity k i = some found ∧
        found.space = before.space := by
    intro k i before hbefore
    unfold setEntity
    dsimp only
    split
    · rename_i hsame
      obtain ⟨rfl, rfl⟩ := hsame
      cases hfound.symm.trans hbefore
      exact ⟨record', rfl, hspace⟩
    · exact ⟨before, hbefore, rfl⟩
  refine { h with anchored := ?_, supported := ?_, own := ?_, value := ?_ }
  · intro spaceKey descriptor parent hspace hnested
    obtain ⟨hparent, hanchor⟩ := h.anchored spaceKey descriptor parent hspace hnested
    obtain ⟨before, hbefore⟩ := Option.isSome_iff_exists.mp hanchor
    obtain ⟨found, hafter, -⟩ := hplaces hbefore
    exact ⟨hparent, Option.isSome_iff_exists.mpr ⟨found, hafter⟩⟩
  · intro k i found hafter
    obtain ⟨before, hbefore, -, howner, -, hspace, hepoch⟩ := hlookup hafter
    obtain ⟨hjoined, hinstalled⟩ := h.supported k i before hbefore
    unfold Supported
    rw [howner, hspace, hepoch]
    exact ⟨hjoined, hinstalled⟩
  · intro k i found hafter
    obtain ⟨before, hbefore, hid, howner, hprincipal, hspace, -⟩ := hlookup hafter
    obtain ⟨hbeforeId, hright⟩ := h.own k i before hbefore
    rw [hid, howner, hprincipal, hspace]
    exact ⟨hbeforeId, hright⟩
  · intro k stateKey value hvalue
    obtain ⟨⟨hinstalled, hplaced⟩, hchannel⟩ := h.value k stateKey value hvalue
    refine ⟨⟨hinstalled, fun i hi => ?_⟩, hchannel⟩
    obtain ⟨before, hbefore, hlocated⟩ := hplaced i hi
    obtain ⟨found, hafter, hsame⟩ := hplaces hbefore
    exact ⟨found, hafter, hsame.trans hlocated⟩

/-! ## Every step keeps the laws -/

theorem Lawful.registerChannel (h : w.Lawful) {channel : ChannelDefinition}
    (fresh : w.channel channel.id = none) :
    Lawful { w with channel := fun id =>
      if id = channel.id then some channel else w.channel id } := by
  refine h.extend { Extends.refl w with channel := ?_ } ?_ ?_ ?_ ?_ ?_ rfl
  · intro id found hfound
    have hne : id ≠ channel.id := by
      rintro rfl
      cases fresh.symm.trans hfound
    exact (if_neg hne).trans hfound
  all_goals intros; left; assumption

theorem Lawful.installSpace (h : w.Lawful) (provisioned : spaceKey.session ∈ w.session)
    (fresh : w.space spaceKey = none)
    (nested : ∀ parent, descriptor.parent = some parent →
      (w.space ⟨spaceKey.session, parent.parentSpace⟩).isSome ∧
        (w.entity spaceKey.session parent.anchorEntity).isSome) :
    (w.setSpace spaceKey descriptor).Lawful := by
  have hext : w.Extends (w.setSpace spaceKey descriptor) := by
    refine { Extends.refl w with space := fun other found hfound => ?_ }
    have hne : other ≠ spaceKey := by
      rintro rfl
      cases fresh.symm.trans hfound
    exact (if_neg hne).trans hfound
  refine h.extend hext (fun _ _ => .inl) (fun _ _ => .inl) (fun _ _ => .inl) ?_
    (fun _ _ _ => .inl) rfl
  intro other found hfound
  unfold setSpace at hfound
  dsimp only at hfound
  split at hfound
  · rename_i hnew
    subst hnew
    cases hfound
    refine .inr ⟨provisioned, fun parent hnested => ?_⟩
    obtain ⟨hparent, hanchor⟩ := nested parent hnested
    exact ⟨hext.spaceIsSome hparent, hanchor⟩
  · exact .inl hfound

theorem Lawful.settle_setSpace (h : w.Lawful) {descriptor' : SpaceDescriptor}
    (found : w.space spaceKey = some descriptor) :
    (w.setSpace spaceKey descriptor').settle.Lawful := by
  refine @Lawful.settle w (w.setSpace _ _) h rfl rfl (fun _ _ => rfl) h.online
    (fun _ => id) (fun _ => id) ?_ h.own fun k stateKey record hfound =>
      (h.value k stateKey record hfound).2
  intro other hthere
  unfold setSpace at hthere
  dsimp only at hthere
  split at hthere
  · rename_i hsame
    rw [hsame, found]
    rfl
  · exact hthere

theorem Lawful.authenticate (h : w.Lawful) {principal : AuthenticatedPrincipal}
    (online : connection ∈ w.online) (fresh : w.principal connection = none) :
    Lawful { w with principal := fun c =>
      if c = connection then some principal else w.principal c } := by
  refine h.extend { Extends.refl w with principal := ?_ } ?_ (fun _ _ => .inl) (fun _ _ => .inl)
    (fun _ _ => .inl) (fun _ _ _ => .inl) rfl
  · intro c found hfound
    have hne : c ≠ connection := by
      rintro rfl
      cases fresh.symm.trans hfound
    exact (if_neg hne).trans hfound
  · intro c found hfound
    dsimp only at hfound
    split at hfound
    · rename_i hsame
      subst hsame
      exact .inr online
    · exact .inl hfound

theorem Lawful.join (h : w.Lawful) (provisioned : key ∈ w.session)
    (reads : w.Acts connection fun principal => principal.ReadsSession key) :
    Lawful { w with member := insert (connection, key) w.member } := by
  refine h.extend { Extends.refl w with member := fun _ => .inr } (fun _ _ => .inl) ?_
    (fun _ _ => .inl) (fun _ _ => .inl) (fun _ _ _ => .inl) rfl
  rintro c k (hnew | hbefore)
  · cases hnew
    exact .inr ⟨provisioned, reads⟩
  · exact .inl hbefore

theorem Lawful.subscribe (h : w.Lawful) (member : (connection, spaceKey.session) ∈ w.member)
    (installed : (w.space spaceKey).isSome)
    (reads : w.Acts connection fun principal => principal.ReadsSpace spaceKey) :
    Lawful { w with reads := insert (connection, spaceKey) w.reads } := by
  refine h.extend { Extends.refl w with } (fun _ _ => .inl) (fun _ _ => .inl) ?_
    (fun _ _ => .inl) (fun _ _ _ => .inl) rfl
  rintro c s (hnew | hbefore)
  · cases hnew
    exact .inr ⟨member, installed, reads⟩
  · exact .inl hbefore

theorem Lawful.spawnEntity (h : w.Lawful) (fresh : w.entity key id = none)
    (supported : w.Supported key record) (numbered : record.id = id)
    (own : w.Acts record.ownerConnection fun principal =>
      principal.principalId = record.ownerPrincipal ∧
        principal.WritesSpace ⟨key, record.space⟩) :
    (w.setEntity key id (some record)).Lawful := by
  refine h.extend { Extends.refl w with entity := ?_ } (fun _ _ => .inl) (fun _ _ => .inl)
    (fun _ _ => .inl) (fun _ _ => .inl) ?_ rfl
  · intro k i found hfound
    have hne : ¬ (k = key ∧ i = id) := by
      rintro ⟨rfl, rfl⟩
      cases fresh.symm.trans hfound
    exact (if_neg hne).trans hfound
  · intro k i found hfound
    unfold setEntity at hfound
    dsimp only at hfound
    split at hfound
    · rename_i hnew
      obtain ⟨rfl, rfl⟩ := hnew
      cases hfound
      exact .inr ⟨supported, numbered, own⟩
    · exact .inl hfound

/-- An entity may be taken out, or put where its owner may write. -/
theorem Lawful.settle_setEntity (h : w.Lawful) {placed : Option EntityRecord}
    (hplaced : ∀ record ∈ placed, record.id = id ∧
      w.Acts record.ownerConnection fun principal =>
        principal.principalId = record.ownerPrincipal ∧
          principal.WritesSpace ⟨key, record.space⟩) :
    (w.setEntity key id placed).settle.Lawful := by
  refine @Lawful.settle w (w.setEntity _ _ _) h rfl rfl (fun _ _ => rfl) h.online
    (fun _ hin => hin) (fun _ hin => hin) (fun _ hin => hin) ?_ fun k stateKey record hfound =>
      (h.value k stateKey record hfound).2
  intro k i after hafter
  unfold setEntity at hafter
  dsimp only at hafter
  split at hafter
  · rename_i hsame
    obtain ⟨rfl, rfl⟩ := hsame
    exact hplaced after hafter
  · exact h.own k i after hafter

theorem Lawful.transitionEntity (h : w.Lawful) {request : EntityTransitionRequest}
    (found : w.entity request.session request.entity = some record)
    (own : record.ownerConnection = request.connection)
    (writes : w.Acts request.connection fun principal =>
      principal.WritesSpace ⟨request.session, request.destinationSpace⟩) :
    (w.setEntity request.session request.entity (some (request.place record))).settle.Lawful := by
  refine h.settle_setEntity fun after hafter => ?_
  cases hafter
  obtain ⟨hid, principal, hprincipal, hname, -⟩ := h.own _ _ record found
  obtain ⟨principal', hprincipal', hwrites⟩ := writes
  rw [← own] at hprincipal'
  cases hprincipal.symm.trans hprincipal'
  exact ⟨hid, principal, hprincipal, hname, hwrites⟩

theorem Step.lawful {authenticator : Authenticator} {event : Op × Bool} {w' : World}
    (hstep : w.Step authenticator event w') (h : w.Lawful) : w'.Lawful := by
  cases hstep with
  | refused | elsewhere | transitionWithin => exact h
  | registerChannel channel fresh => exact h.registerChannel fresh
  | provisionSession key fresh =>
    refine h.extend { Extends.refl w with session := fun _ => .inr } ?_ ?_ ?_ ?_ ?_ rfl
    all_goals intros; left; assumption
  | installSpace key descriptor provisioned fresh nested =>
    refine h.installSpace provisioned fresh fun parent hnested => ?_
    obtain ⟨hparent, record, hrecord, -⟩ := nested parent hnested
    exact ⟨hparent, Option.isSome_iff_exists.mpr ⟨record, hrecord⟩⟩
  | advanceSpaceEpoch key space proposed descriptor found later w' settled =>
    subst settled
    exact h.settle_setSpace found
  | transportConnected connection fresh =>
    refine h.extend { Extends.refl w with online := fun _ => .inr } ?_ ?_ ?_ ?_ ?_ rfl
    all_goals intros; left; assumption
  | authenticate connection credentials principal online fresh vouched =>
    exact h.authenticate online fresh
  | join op connection key asked provisioned reads => exact h.join provisioned reads
  | leaveSession connection key now member => exact h.lawful_settle_expel {(connection, key)}
  | subscribe connection spaceKey member installed reads => exact h.subscribe member installed reads
  | unsubscribe connection spaceKey =>
    exact { h with reads := fun c s hin => h.reads c s hin.1 }
  | spawnEntity connection spaceKey epoch id principal authenticated writes reads installed fresh =>
    exact h.spawnEntity (fresh _) ⟨(h.reads connection spaceKey reads).1, installed⟩ rfl
      ⟨principal, authenticated, rfl, writes⟩
  | updateEntityPosition connection key id position record found own reads writes =>
    exact h.setEntity_same found rfl rfl rfl rfl rfl
  | removeEntity connection key entity record found own =>
    exact h.settle_setEntity fun _ hnone => by cases hnone
  | transitionEntity request record found own source destination reads writes moves =>
    exact h.transitionEntity found own writes
  | publishAt request now call clock messages slow reads writes proposes decided publishes =>
    exact (h.store publishes).lawful_settle_without slow
  | transportLost connection clock online => exact h.lawful_settle_without {connection}

end World

end Signalweave
