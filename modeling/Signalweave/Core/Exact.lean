import Signalweave.Core.Falling
import Signalweave.Core.SpaceGraph
import Signalweave.Core.SpatialIndex

/-!
# Nothing too much and nothing too little

What a removal and a transition take out of the tables and the queues, and that they leave
everything else as it was.
-/

open Std

namespace Signalweave

open Stateful

/-! ## Queues and connections -/

/-- A queue has lost the messages that a test selects, and keeps the others where they were. -/
structure OutboundQueue.Discards (queue queue' : OutboundQueue) (p : OutboundMessage → Prop)
    [DecidablePred p] : Prop where
  critical : queue'.critical = queue.critical.filter fun message => ¬ p message
  bestEffort : queue'.bestEffort = queue.bestEffort.filter fun message => ¬ p message
  latest : ∀ (key : ScopedCoalesceKey) message, queue'.latest[key]? = some message ↔
    queue.latest[key]? = some message ∧ ¬ p message
  latestOrder : queue'.latestOrder = queue.latestOrder.filter fun key => key ∈ queue'.latest
  config : queue'.config = queue.config
  exhausted : queue'.criticalCapacityExhausted = queue.criticalCapacityExhausted

theorem OutboundQueue.discards_purge {queue : OutboundQueue} {p : OutboundMessage → Bool}
    {q : OutboundMessage → Prop} [DecidablePred q] (h : ∀ message, p message = true ↔ q message) :
    queue.Discards (queue.purge p) q := by
  have hkeeps : (fun message => !p message) = fun message => decide (¬ q message) := by
    funext message
    rw [Bool.eq_iff_iff]
    simp [← h]
  refine ⟨?_, ?_, ?_, rfl, rfl, rfl⟩
  · rw [purge_critical, hkeeps]
  · rw [← hkeeps]
    rfl
  · intro key message
    unfold purge
    rw [OrderedMap.getElem?_filter, ← h]
    simp

theorem OutboundQueue.purgedBy_add_len {queue : OutboundQueue} {p : OutboundMessage → Bool} :
    queue.purgedBy p + (queue.purge p).len = queue.len := by
  refine Nat.sub_add_cancel ?_
  have hcritical := List.length_filter_le (fun message => !p message) queue.critical
  have hbestEffort := List.length_filter_le (fun message => !p message) queue.bestEffort
  have hlatest : (queue.purge p).latest.size ≤ queue.latest.size :=
    OrderedMap.size_le_of_subset fun key hin => ExtTreeMap.mem_of_mem_filter hin
  unfold len
  show (queue.critical.filter _).length + (queue.purge p).latest.size +
    (queue.bestEffort.filter _).length ≤ _
  omega

/-- A connection has lost some subscriptions and some of what is queued for it, and nothing else
but entities. -/
structure ConnectionState.Trimmed (state state' : ConnectionState) (gone : SpaceKey → Prop)
    (p : OutboundMessage → Prop) [DecidablePred p] : Prop where
  subscriptions : ∀ spaceKey, spaceKey ∈ state'.subscriptions ↔
    spaceKey ∈ state.subscriptions ∧ ¬ gone spaceKey
  outbound : state.outbound.Discards state'.outbound p
  authenticated : state'.authenticated = state.authenticated
  memberships : state'.memberships = state.memberships
  rateLimiter : state'.rateLimiter = state.rateLimiter

/-! ## The least removal -/

/-- The removal names a space, or an entity that stands with it. -/
def Removal.Names (removal : Removal) (space : SpaceId) (entity : Option EntityId) : Prop :=
  space ∈ removal.spaces ∨ ∃ id ∈ entity, id ∈ removal.entities

instance {removal : Removal} {space : SpaceId} {entity : Option EntityId} :
    Decidable (removal.Names space entity) :=
  inferInstanceAs (Decidable (_ ∨ _))

namespace SessionState

variable {session session' : SessionState} {initial : ExtTreeSet EntityId} {removal : Removal}

/-- Two sets that hold what a removal starts from and are closed under how it spreads: to the
spaces anchored to a removed entity or nested in a removed space, and to the entities of a removed
space. -/
structure Closed (session : SessionState) (initial : ExtTreeSet EntityId) (entities : Set EntityId)
    (spaces : Set SpaceId) : Prop where
  start : ∀ id, id ∈ initial → id ∈ entities
  nested : ∀ (id : SpaceId) descriptor parent, session.spaces[id]? = some descriptor →
    descriptor.parent = some parent →
      parent.anchorEntity ∈ entities ∨ parent.parentSpace ∈ spaces → id ∈ spaces
  located : ∀ (id : EntityId) record, session.entities[id]? = some record →
    record.space ∈ spaces → id ∈ entities

/-- A removal holds the least two sets of this kind. -/
structure Least (session : SessionState) (initial : ExtTreeSet EntityId) (removal : Removal) :
    Prop where
  closed : session.Closed initial { id | id ∈ removal.entities } { id | id ∈ removal.spaces }
  least : ∀ entities spaces, session.Closed initial entities spaces →
    (∀ id, id ∈ removal.entities → id ∈ entities) ∧ ∀ id, id ∈ removal.spaces → id ∈ spaces

theorem Closed.doomedSpace {entities : Set EntityId} {spaces : Set SpaceId} {id : SpaceId}
    (h : session.Closed initial entities spaces) (hdoomed : DoomedSpace session initial id) :
    id ∈ spaces := by
  induction hdoomed with
  | anchor found nested removed => exact h.nested _ _ _ found nested (Or.inl (h.start _ removed))
  | anchorSpace found nested located _ ih =>
    exact h.nested _ _ _ found nested (Or.inl (h.located _ _ located ih))
  | parentSpace found nested _ ih => exact h.nested _ _ _ found nested (Or.inr ih)

theorem least_cascade (hkeyed : session.Keyed) :
    session.Least initial (session.cascade initial) where
  closed := by
    refine ⟨fun id hid => (mem_cascade_entities hkeyed).mpr (Or.inl hid), ?_, ?_⟩
    · intro id descriptor parent hdescriptor hparent hremoved
      exact cascade_spaces_closed hkeyed hdescriptor hparent hremoved
    · intro id record hrecord hremoved
      exact cascade_entities_closed hkeyed hrecord hremoved
  least entities spaces h := by
    constructor
    · intro id hid
      rcases (mem_cascade_entities hkeyed).mp hid with hinitial | ⟨record, hrecord, hdoomed⟩
      · exact h.start id hinitial
      · exact h.located id record hrecord (h.doomedSpace hdoomed)
    · intro id hid
      exact h.doomedSpace ((mem_cascade_spaces hkeyed).mp hid)

/-- The removal loop ends at its own test. -/
theorem cascade_ends (hkeyed : session.Keyed) :
    Fixpoint.Ends session.cascadeRound sameSize { entities := initial, spaces := ∅ }
      (session.cascade initial) := by
  apply Fixpoint.untilStable_ends (WithinDoomed session initial) Removal.measure
    (fun _ h => h.cascadeRound hkeyed) (fun _ h => h.measure_le)
    (fun _ _ h => measure_lt_of_not_sameSize h) withinDoomed_start
  simp [Removal.measure]
  omega

/-- A session has lost what a removal names, and is what it was otherwise. -/
structure Drops (session session' : SessionState) (removal : Removal) : Prop where
  entities : ∀ (id : EntityId) record, session'.entities[id]? = some record ↔
    session.entities[id]? = some record ∧ id ∉ removal.entities
  spaces : ∀ (id : SpaceId) descriptor, session'.spaces[id]? = some descriptor ↔
    session.spaces[id]? = some descriptor ∧ id ∉ removal.spaces
  subscribers : ∀ (id : SpaceId) subscribers, session'.subscribers[id]? = some subscribers ↔
    session.subscribers[id]? = some subscribers ∧ id ∉ removal.spaces
  entityCells : ∀ (id : EntityId) cell, session'.entityCells[id]? = some cell ↔
    session.entityCells[id]? = some cell ∧ id ∉ removal.entities
  cellEntities : ∀ cell id, session'.InCell cell id ↔ session.InCell cell id ∧ id ∉ removal.entities
  state : ∀ (key : StateKey) record, session'.state[key]? = some record ↔
    session.state[key]? = some record ∧ ¬ removal.Names key.space key.entity
  stateBytes : session'.stateBytes = session'.storedBytes
  sequences : ∀ (key : SequenceKey) sequence, session'.sequences[key]? = some sequence ↔
    session.sequences[key]? = some sequence ∧ ¬ removal.Names key.space key.entity
  buried : ∀ id, id ∈ removal.spaces →
    session'.spaceEpochTombstones[id]? = (session.spaces[id]?).map SpaceDescriptor.epoch
  tombstones : ∀ id, id ∉ removal.spaces →
    session'.spaceEpochTombstones[id]? = session.spaceEpochTombstones[id]?
  members : session'.members = session.members

theorem keptBy_iff_not_names {space : SpaceId} {entity : Option EntityId} :
    keptBy removal space entity = true ↔ ¬ removal.Names space entity := by
  rw [keptBy_iff, Removal.Names]
  cases entity <;> simp

theorem foldl_removeSpace_tombstones {list : List SpaceId} (hkeyed : session.Keyed)
    (hnodup : list.Nodup) (hinstalled : ∀ id ∈ list, id ∈ session.spaces) (id : SpaceId) :
    (list.foldl removeSpace session).spaceEpochTombstones[id]? =
      if id ∈ list then (session.spaces[id]?).map SpaceDescriptor.epoch
      else session.spaceEpochTombstones[id]? := by
  induction list generalizing session with
  | nil => rfl
  | cons first rest ih =>
    obtain ⟨hfirst, hrest⟩ := List.nodup_cons.mp hnodup
    obtain ⟨descriptor, hdescriptor⟩ :=
      OrderedMap.exists_of_mem (hinstalled first List.mem_cons_self)
    have hid := hkeyed.spaces first descriptor hdescriptor
    have hspaces : ∀ other : SpaceId, (session.removeSpace first).spaces[other]? =
        if other = first then none else session.spaces[other]? := by
      intro other
      rw [removeSpace_spaces, OrderedMap.getElem?_erase]
    have hburied : (session.removeSpace first).spaceEpochTombstones =
        session.spaceEpochTombstones.insert first descriptor.epoch := by
      simp only [removeSpace, hdescriptor, hid]
    rw [List.foldl_cons, ih _ hrest, hspaces, hburied, OrderedMap.getElem?_insert]
    · by_cases hin : id ∈ rest
      · have hne : id ≠ first := fun heq => hfirst (heq ▸ hin)
        simp [hin, hne]
      · by_cases heq : id = first
        · subst heq
          simp [hin, hdescriptor]
        · simp [hin, heq]
    · intro other hin
      have hne : other ≠ first := fun heq => hfirst (heq ▸ hin)
      obtain ⟨found, hfound⟩ :=
        OrderedMap.exists_of_mem (hinstalled other (List.mem_cons_of_mem _ hin))
      apply OrderedMap.mem_of_getElem? (v := found)
      rw [hspaces, if_neg hne, hfound]
    · constructor
      · intro other found hfound
        rw [hspaces] at hfound
        split at hfound
        · cases hfound
        · exact hkeyed.spaces other found hfound
      · exact hkeyed.entities

theorem drops_dropRemoved (h : session.Consistent) (hindexed : session.Indexed)
    (hinstalled : ∀ id, id ∈ removal.spaces → id ∈ session.spaces) :
    session.Drops (session.dropRemoved removal) removal := by
  obtain ⟨hfiled, hcells⟩ := index_dropRemoved removal hindexed.filed
  have hcell : ∀ (id : EntityId) cell, (session.dropRemoved removal).entityCells[id]? = some cell ↔
      session.entityCells[id]? = some cell ∧ id ∉ removal.entities := by
    intro id cell
    rw [hcells]
    by_cases hid : id ∈ removal.entities <;> simp [hid]
  have hburied : ∀ id : SpaceId, (session.dropRemoved removal).spaceEpochTombstones[id]? =
      if id ∈ removal.spaces then (session.spaces[id]?).map SpaceDescriptor.epoch
      else session.spaceEpochTombstones[id]? := by
    intro id
    have hkeyed : (session.dropEntities removal).Keyed := by
      rw [dropEntities_eq]
      exact ⟨h.keyed.spaces, fun id record hrecord =>
        h.keyed.entities id record (OrderedMap.getElem?_filter.mp hrecord).1⟩
    have hspaces : (session.dropEntities removal).spaces = session.spaces := by
      rw [dropEntities_eq]
    have htombstones : (session.dropEntities removal).spaceEpochTombstones =
        session.spaceEpochTombstones := by
      rw [dropEntities_eq]
    have hnodup : removal.spaces.toList.Nodup := removal.spaces.distinct_toList.imp (by simp)
    show (removal.spaces.toList.foldl removeSpace
      (session.dropEntities removal)).spaceEpochTombstones[id]? = _
    rw [foldl_removeSpace_tombstones hkeyed hnodup, hspaces, htombstones]
    · simp only [ExtTreeSet.mem_toList]
    · intro other hin
      rw [hspaces]
      exact hinstalled other (ExtTreeSet.mem_toList.mp hin)
  refine ⟨?_, ?_, ?_, hcell, ?_, ?_, dropRemoved_stateBytes, ?_, ?_, ?_, dropRemoved_members⟩
  · intro id record
    exact mem_dropRemoved_entities
  · intro id descriptor
    rw [dropRemoved_spaces]
    by_cases hid : id ∈ removal.spaces <;> simp [hid]
  · intro id subscribers
    rw [dropRemoved_subscribers]
    by_cases hid : id ∈ removal.spaces <;> simp [hid]
  · intro cell id
    rw [hfiled cell id, hindexed.filed cell id, hcell]
  · intro key record
    rw [dropRemoved_state, OrderedMap.getElem?_filter, keptBy_iff_not_names]
  · intro key sequence
    rw [dropRemoved_sequences, OrderedMap.getElem?_filter, keptBy_iff_not_names]
  · intro id hid
    rw [hburied, if_pos hid]
  · intro id hid
    rw [hburied, if_neg hid]

end SessionState

/-! ## The removal -/

namespace WovenCore

variable {core core' : WovenCore} {key : SessionKey} {initial : ExtTreeSet EntityId}
  {removal : Removal}

/-- The subscriptions of all connections. -/
def subscriptionCount (core : WovenCore) : Nat :=
  OrderedMap.total (fun _ state => state.subscriptions.size) core.connections

/-- The messages queued for all connections. -/
def queuedCount (core : WovenCore) : Nat :=
  OrderedMap.total (fun _ state => state.outbound.len) core.connections

/-- The core has lost what a removal names, and is what it was otherwise. -/
structure Drops (core core' : WovenCore) (key : SessionKey) (removal : Removal) : Prop where
  session : (core.sessionAt key).Drops (core'.sessionAt key) removal
  others : ∀ k, k ≠ key → core'.sessions[k]? = core.sessions[k]?
  live : ∀ connection, connection ∈ core'.connections ↔ connection ∈ core.connections
  connection : ∀ connection, (core.connectionAt connection).Trimmed (core'.connectionAt connection)
    (fun spaceKey => spaceKey.session = key ∧ spaceKey.space ∈ removal.spaces)
    fun message => message.sessionKey = key ∧ removal.Names message.space message.entity
  owned : ∀ connection,
    (core'.connectionAt connection).ownedEntities = core'.ownedCount connection
  rest : core' = { core with sessions := core'.sessions, connections := core'.connections }

/-- The summary lists the entities that were there and have gone, once each, and counts what else
has gone. -/
structure Summarises (core core' : WovenCore) (key : SessionKey) (removal : Removal)
    (summary : CleanupSummary) : Prop where
  listed : ∀ entry, entry ∈ summary.removedEntities ↔ ∃ record,
    (core.sessionAt key).entities[entry.entity]? = some record ∧
      entry.entity ∈ removal.entities ∧ entry =
        { entity := entry.entity, session := key, space := record.space
          spaceEpoch := record.spaceEpoch }
  nodup : (summary.removedEntities.map RemovedEntity.entity).Nodup
  entities : summary.entitiesRemoved = summary.removedEntities.length
  spaces : summary.spacesRemoved + (core'.sessionAt key).spaces.size =
    (core.sessionAt key).spaces.size
  subscriptions : summary.subscriptionsRemoved + core'.subscriptionCount = core.subscriptionCount
  queued : summary.queuedMessagesDiscarded + core'.queuedCount = core.queuedCount
  memberships : summary.membershipsRemoved = 0

theorem trimmed_dropRemoved {connection : ConnectionId} :
    (core.connectionAt connection).Trimmed
      ((core.dropRemoved key removal).connectionAt connection)
      (fun spaceKey => spaceKey.session = key ∧ spaceKey.space ∈ removal.spaces)
      fun message => message.sessionKey = key ∧ removal.Names message.space message.entity := by
  have hselects : ∀ message : OutboundMessage, message.removedBy key removal = true ↔
      message.sessionKey = key ∧ removal.Names message.space message.entity := by
    intro message
    rw [OutboundMessage.removedBy_iff, ← Bool.not_eq_true, SessionState.keptBy_iff_not_names,
      not_not]
  refine ⟨?_, ?_, ?_, memberships_dropRemoved, ?_⟩
  · intro spaceKey
    rw [mem_subscriptions_dropRemoved]
    simp
  · have hqueue : ((core.dropRemoved key removal).connectionAt connection).outbound =
        (core.connectionAt connection).outbound.purge fun message =>
          message.removedBy key removal := by
      rw [dropRemoved, outbound_mapConnections fun _ _ => rfl]
      rfl
    rw [hqueue]
    exact OutboundQueue.discards_purge hselects
  · rw [dropRemoved, connectionAt_mapConnections, connectionAt_modifySession]
    split <;> rfl
  · rw [dropRemoved, connectionAt_mapConnections, connectionAt_modifySession]
    split <;> rfl

theorem drops_dropRemoved (hcore : core.Consistent) (hindexed : (core.sessionAt key).Indexed)
    (hkey : key ∈ core.sessions) :
    core.Drops (core.dropRemoved key ((core.sessionAt key).cascade initial)) key
      ((core.sessionAt key).cascade initial) := by
  have hkeyed := (hcore.session key).keyed
  have hafter := hcore.dropRemoved key initial
  rw [removalOf_of_mem hkey] at hafter
  refine ⟨?_, ?_, fun _ => mem_connections_dropRemoved, fun _ => trimmed_dropRemoved,
    hafter.owned, rfl⟩
  · rw [sessionAt_dropRemoved, if_pos ⟨rfl, hkey⟩]
    apply SessionState.drops_dropRemoved (hcore.session key) hindexed
    intro id hid
    exact ((SessionState.mem_cascade_spaces hkeyed).mp hid).installed
  · intro k hk
    exact sessions_modifySession_of_ne hk

/-- What a connection has lost of its subscriptions are those to the removed spaces. -/
theorem subscriptions_size_trimmed {state state' : ConnectionState} {p : OutboundMessage → Prop}
    [DecidablePred p] (h : state.Trimmed state'
      (fun spaceKey => spaceKey.session = key ∧ spaceKey.space ∈ removal.spaces) p) :
    ((OrderedSet.toFinset removal.spaces).filter fun space =>
      (⟨key, space⟩ : SpaceKey) ∈ state.subscriptions).card + state'.subscriptions.size =
        state.subscriptions.size := by
  let lost := (OrderedSet.toFinset removal.spaces).filter fun space =>
    (⟨key, space⟩ : SpaceKey) ∈ state.subscriptions
  have hsplit : OrderedSet.toFinset state.subscriptions =
      lost.image (SpaceKey.mk key) ∪ OrderedSet.toFinset state'.subscriptions := by
    ext spaceKey
    obtain ⟨session, space⟩ := spaceKey
    simp only [lost, Finset.mem_union, Finset.mem_image, Finset.mem_filter, OrderedSet.mem_toFinset,
      h.subscriptions, SpaceKey.mk.injEq]
    grind
  have hdisjoint : Disjoint (lost.image (SpaceKey.mk key))
      (OrderedSet.toFinset state'.subscriptions) := by
    rw [Finset.disjoint_left]
    intro spaceKey hlost hkept
    obtain ⟨space, hspace, rfl⟩ := Finset.mem_image.mp hlost
    have hremoved := OrderedSet.mem_toFinset.mp (Finset.mem_filter.mp hspace).1
    exact ((h.subscriptions _).mp (OrderedSet.mem_toFinset.mp hkept)).2 ⟨rfl, hremoved⟩
  have hinjective : Function.Injective (SpaceKey.mk key) := fun _ _ heq => (SpaceKey.mk.inj heq).2
  rw [← OrderedSet.card_toFinset state.subscriptions, hsplit,
    Finset.card_union_of_disjoint hdisjoint,
    Finset.card_image_of_injective _ hinjective, OrderedSet.card_toFinset]

/-- The subscribers of the removed spaces are as many as the subscriptions to them. -/
theorem sum_subscribers (hcore : core.Consistent) (spaces : Finset SpaceId) :
    ∑ space ∈ spaces, ((core.sessionAt key).subscribersOf space).size =
      ∑ connection ∈ OrderedMap.keySet core.connections, (spaces.filter fun space =>
        (⟨key, space⟩ : SpaceKey) ∈ (core.connectionAt connection).subscriptions).card := by
  have hside : ∀ space ∈ spaces, ((core.sessionAt key).subscribersOf space).size =
      ((OrderedMap.keySet core.connections).filter fun connection =>
        (⟨key, space⟩ : SpaceKey) ∈ (core.connectionAt connection).subscriptions).card := by
    intro space _
    rw [← OrderedSet.card_toFinset]
    congr 1
    ext connection
    rw [OrderedSet.mem_toFinset, Finset.mem_filter, OrderedMap.mem_keySet, hcore.subscription]
    exact ⟨fun hin => ⟨mem_connections_of_subscription hin, hin⟩, And.right⟩
  rw [Finset.sum_congr rfl hside]
  exact (Finset.sum_card_bipartiteAbove_eq_sum_card_bipartiteBelow fun space connection =>
    (⟨key, space⟩ : SpaceKey) ∈ (core.connectionAt connection).subscriptions)

theorem subscriptionCount_dropRemoved (hcore : core.Consistent) :
    (removal.spaces.toList.map fun space =>
      ((core.sessionAt key).subscribersOf space).size).sum +
        (core.dropRemoved key removal).subscriptionCount = core.subscriptionCount := by
  have hnodup : removal.spaces.toList.Nodup := removal.spaces.distinct_toList.imp (by simp)
  have hlist : (removal.spaces.toList.map fun space =>
      ((core.sessionAt key).subscribersOf space).size).sum =
        ∑ space ∈ OrderedSet.toFinset removal.spaces,
          ((core.sessionAt key).subscribersOf space).size :=
    (List.sum_toFinset _ hnodup).symm
  have hkeys : OrderedMap.keySet (core.dropRemoved key removal).connections =
      OrderedMap.keySet core.connections := by
    ext connection
    simp [mem_connections_dropRemoved]
  unfold subscriptionCount
  rw [hlist, sum_subscribers hcore, OrderedMap.total_eq_sum, OrderedMap.total_eq_sum, hkeys,
    ← Finset.sum_add_distrib]
  apply Finset.sum_congr rfl
  intro connection hlive
  have hlive := OrderedMap.mem_keySet.mp hlive
  unfold OrderedMap.share
  rw [connections_getElem? hlive, connections_getElem? (mem_connections_dropRemoved.mpr hlive)]
  exact subscriptions_size_trimmed trimmed_dropRemoved

theorem queuedCount_dropRemoved :
    core.purgedMessages (fun message => message.removedBy key removal) +
      (core.dropRemoved key removal).queuedCount = core.queuedCount := by
  refine OrderedMap.total_add (fun _ => Iff.rfl) (fun _ => mem_connections_dropRemoved) ?_
  intro connection
  unfold OrderedMap.share
  by_cases hlive : connection ∈ core.connections
  · rw [connections_getElem? hlive, connections_getElem? (mem_connections_dropRemoved.mpr hlive),
      dropRemoved, connectionAt_mapConnections, connections_modifySession, if_pos hlive]
    exact OutboundQueue.purgedBy_add_len
  · rw [ExtTreeMap.getElem?_eq_none hlive,
      ExtTreeMap.getElem?_eq_none (mt mem_connections_dropRemoved.mp hlive)]
    rfl

theorem summarises_removalSummary (hcore : core.Consistent) (hkey : key ∈ core.sessions) :
    core.Summarises (core.dropRemoved key ((core.sessionAt key).cascade initial)) key
      ((core.sessionAt key).cascade initial)
      (core.removalSummary key ((core.sessionAt key).cascade initial)) := by
  have hkeyed := (hcore.session key).keyed
  have hlist := removedEntities_removalSummary hkey ((core.sessionAt key).cascade initial)
  have hsummary := sessions_getElem? hkey
  refine ⟨?_, ?_, ?_, ?_, ?_, ?_, ?_⟩
  · intro entry
    rw [hlist, List.mem_map]
    constructor
    · rintro ⟨record, hin, rfl⟩
      obtain ⟨hrecord, hremoved⟩ := (mem_removedRecords hkeyed).mp hin
      exact ⟨record, hrecord, hremoved, rfl⟩
    · rintro ⟨record, hrecord, hremoved, heq⟩
      have hid := hkeyed.entities _ _ hrecord
      refine ⟨record, (mem_removedRecords hkeyed).mpr ?_, ?_⟩
      · rw [hid]
        exact ⟨hrecord, hremoved⟩
      · rw [heq, hid]
  · rw [hlist, List.map_map]
    exact nodup_removedRecords hkeyed _
  · simp only [removalSummary, hsummary]
  · have hspaces : (core.removalSummary key ((core.sessionAt key).cascade initial)).spacesRemoved =
        ((core.sessionAt key).cascade initial).spaces.size := by
      simp only [removalSummary, hsummary]
    rw [hspaces]
    apply OrderedSet.size_add_size
    · intro id hid
      exact ((SessionState.mem_cascade_spaces hkeyed).mp hid).installed
    · intro id
      rw [sessionAt_dropRemoved, if_pos ⟨rfl, hkey⟩, ExtTreeMap.mem_iff_isSome_getElem?,
        SessionState.dropRemoved_spaces, ExtTreeMap.mem_iff_isSome_getElem?]
      split <;> simp_all
  · have hsubscriptions :=
      @subscriptionCount_dropRemoved core key ((core.sessionAt key).cascade initial) hcore
    simp only [removalSummary, hsummary]
    exact hsubscriptions
  · have hqueued := @queuedCount_dropRemoved core key ((core.sessionAt key).cascade initial)
    simp only [removalSummary, hsummary]
    exact hqueued
  · simp only [removalSummary, hsummary]

end WovenCore

/-- The removal of any entities of a session ends, takes with them exactly what has to go, reports
exactly that, and leaves everything else as it was. -/
theorem removeEntitiesAndAnchoredSpaces_exact {core : WovenCore} (h : Reachable core)
    {key : SessionKey} (hkey : key ∈ core.sessions) (initial : ExtTreeSet EntityId) :
    ∃ removal : Removal,
      Fixpoint.Ends (core.sessionAt key).cascadeRound SessionState.sameSize
        { entities := initial, spaces := ∅ } removal ∧
      (core.sessionAt key).Least initial removal ∧
      core.Drops (core.removeEntitiesAndAnchoredSpaces key initial).2 key removal ∧
      core.Summarises (core.removeEntitiesAndAnchoredSpaces key initial).2 key removal
        (core.removeEntitiesAndAnchoredSpaces key initial).1 := by
  have hcore := h.sound.consistent
  have hkeyed := (hcore.session key).keyed
  unfold WovenCore.removeEntitiesAndAnchoredSpaces
  rw [WovenCore.removalOf_of_mem hkey]
  exact ⟨_, SessionState.cascade_ends hkeyed, SessionState.least_cascade hkeyed,
    WovenCore.drops_dropRemoved hcore (h.indexed key) hkey,
    WovenCore.summarises_removalSummary hcore hkey⟩

theorem removeEntitiesAndAnchoredSpaces_exact_nested :
    let core := Transition.run step Sample.core Sample.nested
    let initial : ExtTreeSet EntityId := (∅ : ExtTreeSet EntityId).insert ⟨1⟩
    ∃ removal : Removal,
      Fixpoint.Ends (core.sessionAt Sample.session).cascadeRound SessionState.sameSize
        { entities := initial, spaces := ∅ } removal ∧
      (core.sessionAt Sample.session).Least initial removal ∧
      core.Drops (core.removeEntitiesAndAnchoredSpaces Sample.session initial).2 Sample.session
        removal ∧
      core.Summarises (core.removeEntitiesAndAnchoredSpaces Sample.session initial).2
        Sample.session removal
        (core.removeEntitiesAndAnchoredSpaces Sample.session initial).1 :=
  removeEntitiesAndAnchoredSpaces_exact (Sample.reachable _) (by decide +kernel) _

/-! ## The transition -/

namespace SessionState

/-- A session in which an entity has gone from one space to another: the entity has no place there
yet, what named it where it was has gone, and the rest is what it was. -/
structure Moves (session session' : SessionState) (request : EntityTransitionRequest) : Prop where
  moved : ∃ record, session.entities[request.entity]? = some record ∧
    record.space = request.sourceSpace ∧ record.spaceEpoch = request.sourceEpoch ∧
      session'.entities[request.entity]? =
        some { record with
          space := request.destinationSpace
          spaceEpoch := request.destinationEpoch
          position := none }
  entities : ∀ id : EntityId, id ≠ request.entity → session'.entities[id]? = session.entities[id]?
  entityCells : ∀ (id : EntityId) cell, session'.entityCells[id]? = some cell ↔
    session.entityCells[id]? = some cell ∧ id ≠ request.entity
  cellEntities : ∀ cell id, session'.InCell cell id ↔ session.InCell cell id ∧ id ≠ request.entity
  state : ∀ (key : StateKey) record, session'.state[key]? = some record ↔
    session.state[key]? = some record ∧ ¬ (key.space = request.sourceSpace ∧
      key.spaceEpoch = request.sourceEpoch ∧ key.entity = some request.entity)
  stateBytes : session'.stateBytes = session'.storedBytes
  sequences : ∀ (key : SequenceKey) sequence, session'.sequences[key]? = some sequence ↔
    session.sequences[key]? = some sequence ∧ ¬ (key.space = request.sourceSpace ∧
      key.spaceEpoch = request.sourceEpoch ∧ key.entity = some request.entity)
  spaces : session'.spaces = session.spaces
  tombstones : session'.spaceEpochTombstones = session.spaceEpochTombstones
  subscribers : session'.subscribers = session.subscribers
  members : session'.members = session.members

theorem moves_transition {session : SessionState} {request : EntityTransitionRequest}
    {record : EntityRecord} (hindexed : session.Indexed)
    (hrecord : session.entities[request.entity]? = some record)
    (hspace : record.space = request.sourceSpace)
    (hepoch : record.spaceEpoch = request.sourceEpoch) :
    session.Moves (session.transition request) request := by
  have hindexed' : (session.transition request).Indexed := hindexed.transition
  have hfiled := hindexed'.filed
  have hcell : ∀ (id : EntityId) cell, (session.transition request).entityCells[id]? = some cell ↔
      session.entityCells[id]? = some cell ∧ id ≠ request.entity := by
    intro id cell
    show (session.removeEntityFromCell request.entity).entityCells[id]? = some cell ↔ _
    rw [entityCells_removeEntityFromCell]
    by_cases hid : id = request.entity <;> simp [hid]
  refine ⟨⟨record, hrecord, hspace, hepoch, ?_⟩, ?_, hcell, ?_, ?_, ?_, ?_, ?_, ?_, ?_, ?_⟩
  · rw [transition_eq, OrderedMap.getElem?_modify, if_pos rfl, hrecord]
    rfl
  · intro id hid
    rw [transition_eq, OrderedMap.getElem?_modify, if_neg hid]
  · intro cell id
    rw [hfiled cell id, hindexed.filed cell id, hcell]
  · intro key record
    rw [transition_eq, OrderedMap.getElem?_filter, ← EntityTransitionRequest.leaves_iff]
    simp
  · rfl
  · intro key sequence
    rw [transition_eq, OrderedMap.getElem?_filter, ← EntityTransitionRequest.leaves_iff]
    simp
  all_goals rw [transition_eq]

end SessionState

/-- The core in which an entity has gone from one space to another. -/
structure WovenCore.Moves (core core' : WovenCore) (request : EntityTransitionRequest) : Prop where
  session : (core.sessionAt request.session).Moves (core'.sessionAt request.session) request
  others : ∀ k, k ≠ request.session → core'.sessions[k]? = core.sessions[k]?
  live : ∀ connection, connection ∈ core'.connections ↔ connection ∈ core.connections
  connection : ∀ connection, (core.connectionAt connection).Trimmed (core'.connectionAt connection)
    (fun _ => False) fun message => message.sessionKey = request.session ∧
      message.space = request.sourceSpace ∧ message.spaceEpoch = request.sourceEpoch ∧
        message.entity = some request.entity
  owned : ∀ connection, (core'.connectionAt connection).ownedEntities =
    (core.connectionAt connection).ownedEntities
  rest : core' = { core with sessions := core'.sessions, connections := core'.connections }

theorem WovenCore.moves_transition {core : WovenCore} {request : EntityTransitionRequest}
    (hindexed : (core.sessionAt request.session).Indexed)
    (hchecked : core.checkTransition request = .ok ()) :
    core.Moves (core.transition request) request := by
  obtain ⟨record, hrecord⟩ := checkTransition_eq_ok hchecked
  have hselects : ∀ message : OutboundMessage, message.leftBehind request = true ↔
      message.sessionKey = request.session ∧ message.space = request.sourceSpace ∧
        message.spaceEpoch = request.sourceEpoch ∧ message.entity = some request.entity := by
    intro message
    rw [OutboundMessage.leftBehind, Bool.and_eq_true, OutboundMessage.inSession_iff,
      SessionState.EntityTransitionRequest.leaves_iff]
  have hconnection : ∀ connection, (core.transition request).connectionAt connection =
      if connection ∈ core.connections then (core.connectionAt connection).purgeOutbound
        fun message => message.leftBehind request
      else core.connectionAt connection := fun _ => connectionAt_mapConnections
  refine ⟨?_, fun k hk => sessions_modifySession_of_ne hk, fun _ => mem_connections_mapConnections,
    ?_, ?_, rfl⟩
  · rw [WovenCore.transition, sessionAt_mapConnections, sessionAt_modifySession,
      if_pos ⟨rfl, hrecord.provisioned⟩]
    exact SessionState.moves_transition hindexed hrecord.found hrecord.space hrecord.epoch
  · intro connection
    have hqueue : ((core.transition request).connectionAt connection).outbound =
        (core.connectionAt connection).outbound.purge fun message => message.leftBehind request :=
      outbound_mapConnections fun _ _ => rfl
    refine ⟨?_, ?_, ?_, ?_, ?_⟩
    · intro spaceKey
      rw [hconnection]
      split <;> simp [ConnectionState.purgeOutbound]
    · rw [hqueue]
      exact OutboundQueue.discards_purge hselects
    all_goals
      rw [hconnection]
      split <;> rfl
  · intro connection
    rw [hconnection]
    split <;> rfl

/-- A transition that fails changes nothing, one to where the entity is does not either, and any
other moves the entity and nothing else. -/
theorem transitionEntity_exact {core : WovenCore} (h : Reachable core)
    (request : EntityTransitionRequest) :
    (∀ e core', Fails (transitionEntity request) core e core' → core' = core) ∧
      ∀ transition core', Returns (transitionEntity request) core transition core' →
        (request.sourceSpace = request.destinationSpace ∧
            request.sourceEpoch = request.destinationEpoch ∧ core' = core ∨
          ¬ (request.sourceSpace = request.destinationSpace ∧
            request.sourceEpoch = request.destinationEpoch) ∧ core.Moves core' request) := by
  constructor
  · intro e core' hfails
    exact (transitionEntity_ends.fails hfails).2
  · intro transition core' hreturns
    obtain ⟨hchecked, ⟨hsame, rfl⟩ | ⟨hmoves, rfl⟩⟩ := transitionEntity_ends.returns hreturns
    · obtain ⟨record, hrecord⟩ := WovenCore.checkTransition_eq_ok hchecked
      obtain ⟨source, hsource, hsourceEpoch⟩ := hrecord.source
      obtain ⟨destination, hdestination, hdestinationEpoch⟩ := hrecord.destination
      rw [← hsame, hsource] at hdestination
      obtain rfl := Option.some.inj hdestination
      exact Or.inl ⟨hsame, hsourceEpoch.symm.trans hdestinationEpoch, rfl⟩
    · refine Or.inr ⟨fun hsame => hmoves hsame.1, ?_⟩
      exact WovenCore.moves_transition (h.indexed request.session) hchecked

theorem transitionEntity_exact_nested :
    let core := Transition.run step Sample.core Sample.nested
    let core' := after (transitionEntity Sample.enterOwnSpace) core
    Returns (transitionEntity Sample.enterOwnSpace) core
        { entity := ⟨1⟩, session := Sample.session, sourceSpace := ⟨1⟩, sourceEpoch := ⟨1⟩,
          destinationSpace := ⟨2⟩, destinationEpoch := ⟨1⟩ } core' ∧
      core.Moves core' Sample.enterOwnSpace := by
  intro core core'
  have hreturns : Returns (transitionEntity Sample.enterOwnSpace) core
      { entity := ⟨1⟩, session := Sample.session, sourceSpace := ⟨1⟩, sourceEpoch := ⟨1⟩,
        destinationSpace := ⟨2⟩, destinationEpoch := ⟨1⟩ } core' := by rfl
  refine ⟨hreturns, ?_⟩
  rcases (transitionEntity_exact (Sample.reachable _) Sample.enterOwnSpace).2 _ _ hreturns with
    ⟨hsame, -⟩ | ⟨-, hmoves⟩
  · cases hsame
  · exact hmoves

end Signalweave
