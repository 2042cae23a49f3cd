import Signalweave.Core.Outbound
import Signalweave.Core.Scopes

/-!
# Queues over whole operations

An operation that neither publishes nor drains leaves in a queue exactly the messages that are
still fresh after it, however many changes it is made of.
-/

open Std

namespace Signalweave

open Stateful WovenCore SessionState

namespace WovenCore

variable {core core' core'' : WovenCore} {c connection : ConnectionId} {message : OutboundMessage}

/-- The test behind `Fresh`. -/
def isFresh (core : WovenCore) (connection : ConnectionId) (message : OutboundMessage) : Bool :=
  (core.connectionAt connection).subscriptions.contains message.spaceKey &&
    ((core.connectionAt connection).authenticated.any fun principal =>
      canReceive principal message.sessionKey message.space message.channel) &&
    (core.sessionAt message.sessionKey).hasScope message.space message.spaceEpoch message.entity

theorem isFresh_iff : core.isFresh c message = true ↔ core.Fresh c message := by
  rw [isFresh, Bool.and_eq_true, Bool.and_eq_true, hasScope_iff, ExtTreeSet.contains_iff_mem,
    Option.any_eq_true]
  exact ⟨fun h => ⟨h.1.1, h.1.2, h.2⟩, fun h => ⟨⟨h.subscribed, h.allowed⟩, h.scope⟩⟩

/-! ## Nothing more to read -/

/-- A connection may read no more than before. -/
structure Narrows (core core' : WovenCore) (c : ConnectionId) : Prop where
  subscriptions : ∀ spaceKey, spaceKey ∈ (core'.connectionAt c).subscriptions →
    spaceKey ∈ (core.connectionAt c).subscriptions
  authenticated : ∀ principal, (core'.connectionAt c).authenticated = some principal →
    (core.connectionAt c).authenticated = some principal

theorem Narrows.of_eq (h : core'.connectionAt c = core.connectionAt c) : Narrows core core' c := by
  constructor <;> rw [h] <;> exact fun _ => id

theorem Narrows.trans (h : Narrows core core' c) (h' : Narrows core' core'' c) :
    Narrows core core'' c :=
  ⟨fun k hk => h.subscriptions k (h'.subscriptions k hk),
    fun p hp => h.authenticated p (h'.authenticated p hp)⟩

/-- One connection is updated, and perhaps tables that are not those of the connections. -/
theorem Narrows.modifyConnection {connection : ConnectionId} {g : ConnectionState → ConnectionState}
    (hat : core'.connectionAt c = (core.modifyConnection connection g).connectionAt c)
    (hsubscriptions : ∀ state k, k ∈ (g state).subscriptions →
      k ∈ ConnectionState.subscriptions state)
    (hauthenticated : ∀ state, (g state).authenticated = state.authenticated) :
    Narrows core core' c := by
  constructor <;> rw [hat, connectionAt_modifyConnection] <;> split
  · exact fun _ => hsubscriptions _ _
  · exact fun _ => id
  · rw [hauthenticated]
    exact fun _ => id
  · exact fun _ => id

theorem Narrows.mapConnections {g : ConnectionId → ConnectionState → ConnectionState}
    (hat : core'.connectionAt c = (core.mapConnections g).connectionAt c)
    (hsubscriptions : ∀ c state k, k ∈ (g c state).subscriptions →
      k ∈ ConnectionState.subscriptions state)
    (hauthenticated : ∀ c state, (g c state).authenticated = state.authenticated) :
    Narrows core core' c := by
  constructor <;> rw [hat, connectionAt_mapConnections] <;> split
  · exact fun _ => hsubscriptions _ _ _
  · exact fun _ => id
  · rw [hauthenticated]
    exact fun _ => id
  · exact fun _ => id

theorem narrows_dropRemoved (key : SessionKey) (removal : Removal) :
    Narrows core (core.dropRemoved key removal) c := by
  apply Narrows.mapConnections
  · rfl
  · exact fun _ _ _ hk => (OrderedSet.mem_filter.mp hk).1
  · exact fun _ _ => rfl

theorem narrows_dropMembership (key : SessionKey) :
    Narrows core (core.dropMembership connection key) c := by
  apply Narrows.modifyConnection
  · rfl
  · exact fun _ _ hk => (OrderedSet.mem_filter.mp hk).1
  · exact fun _ => rfl

theorem narrows_leave {key : SessionKey} {reason : ReleaseReason} {now : Instant} :
    Narrows core (core.leave connection key reason now) c := by
  have hrelease : Narrows core (core.releaseSessionAdmission connection key reason now) c := by
    rw [releaseSessionAdmission_eq]
    exact .of_eq rfl
  exact hrelease.trans ((narrows_dropRemoved key _).trans (narrows_dropMembership key))

end WovenCore

/-- The operation lets a connection read what it could not read before. -/
def Op.admits : Op → Prop
  | .transportConnected | .authenticate _ _ | .subscribe _ _ => True
  | _ => False

variable {core core' : WovenCore} {op : Op} {c : ConnectionId} {message : OutboundMessage}

theorem Change.narrows (h : Change op core core') (hop : ¬ op.admits) : Narrows core core' c := by
  cases h with
  | removeEntities key initial => exact narrows_dropRemoved key _
  | purgeSpace | advanceEpoch | transition =>
    apply Narrows.mapConnections
    · rfl
    · exact fun _ _ _ => id
    · exact fun _ _ => rfl
  | takeConnectionId | connect | authenticate | subscribe => exact absurd trivial hop
  | leave connection key reason now => exact narrows_leave
  | unsubscribe connection spaceKey =>
    apply Narrows.modifyConnection
    · rfl
    · exact fun _ _ hk => (OrderedSet.mem_erase.mp hk).2
    · exact fun _ => rfl
  | join | spawn | limit | deliver | drain =>
    apply Narrows.modifyConnection
    · rfl
    · exact fun _ _ => id
    · exact fun _ => rfl
  | releasePending connection key now =>
    rw [releasePendingAdmission_eq]
    exact .of_eq rfl
  | disconnect connection asked left unbound =>
    by_cases hc : c = connection
    · constructor <;> rw [hc, connectionAt, OrderedMap.getElem?_erase, if_pos rfl]
      · simp
      · intro state hnone
        cases hnone
    · apply Narrows.of_eq
      rw [connectionAt, OrderedMap.getElem?_erase, if_neg hc]
      rfl
  | _ => exact .of_eq rfl

/-! ## One operation -/

/-- What is fresh at both ends of an operation is fresh all along. -/
theorem WovenCore.Fresh.between {before after : WovenCore} (h : core.Fresh c message)
    (hafter : after.Fresh c message) (hnarrows : Narrows before after c)
    (hspans : Spans core before after) : before.Fresh c message := by
  obtain ⟨principal, hprincipal, hallowed⟩ := hafter.allowed
  exact ⟨hnarrows.subscriptions _ hafter.subscribed,
    ⟨principal, hnarrows.authenticated principal hprincipal, hallowed⟩,
    (hspans _).scopes _ _ _ h.scope hafter.scope⟩

theorem Change.purges (h : Change op core core') (hconsistent : core.Consistent)
    (hop : ¬ op.publishes) (hdrain : op ≠ .drainOutbound c) : ∃ p, Purges core core' c p := by
  rcases h.queue hconsistent c with hpurges | ⟨hpublishes, -⟩ | ⟨hdrains, -⟩
  · exact hpurges
  · exact absurd hpublishes hop
  · exact absurd hdrains hdrain

/-- An operation that opens something to read is one change or none. -/
theorem step_admits (hsound : core.Sound) (hop : op.admits) :
    step core op = core ∨ Change op core (step core op) := by
  rw [← Relation.reflGen_iff]
  cases op with
  | transportConnected => exact (ends_bind.mpr transportConnected_makes).after
  | authenticate connection credentials => exact (ends_bind.mpr authenticate_makes).after
  | subscribe connection spaceKey => exact (subscribe_makes hsound.consistent).after
  | _ => exact hop.elim

theorem step_purges (hsound : core.Sound) (hop : ¬ op.publishes) (hdrain : op ≠ .drainOutbound c) :
    ∃ p, Purges core (step core op) c p := by
  by_cases hadmits : op.admits
  · rcases step_admits hsound hadmits with heq | hchange
    · rw [heq]
      exact ⟨_, Purges.of_tables rfl rfl⟩
    · exact hchange.purges hsound.consistent hop hdrain
  · refine step_induction (P := fun after => ∃ p, Purges core after c p) hsound hop
      ⟨_, Purges.of_tables rfl rfl⟩ ?_
    rintro before after hbefore hchange hspans ⟨p, hpurges⟩
    obtain ⟨q, hnext⟩ := hchange.purges hbefore.consistent hop hdrain
    exact ⟨_, hpurges.trans hnext fun message h hafter =>
      h.between hafter (hchange.narrows hadmits) hspans⟩

theorem purges_loseAll (hsound : core.Sound) (slow : List ConnectionId) (clock : ReleaseClock) :
    ∃ p, Purges core (core.loseAll slow clock) c p := by
  refine loseAll_induction (P := fun after => ∃ p, Purges core after c p) hsound slow clock
    ⟨_, Purges.of_tables rfl rfl⟩ ?_
  rintro connection before after hbefore hchange hspans ⟨p, hpurges⟩
  obtain ⟨q, hnext⟩ := hchange.purges hbefore.consistent not_false nofun
  exact ⟨_, hpurges.trans hnext fun message h hafter =>
    h.between hafter (hchange.narrows not_false) hspans⟩

/-- A purge keeps of the critical class what is fresh after it. -/
theorem WovenCore.Purges.critical_fresh {p : OutboundMessage → Bool} (h : Purges core core' c p)
    (hsound : core.Sound) : (core'.connectionAt c).outbound.critical =
      (core.connectionAt c).outbound.critical.filter (core'.isFresh c) := by
  rw [h.critical]
  apply List.filter_congr
  intro message hmessage
  have hfresh := hsound.fresh c message (.inl hmessage)
  rw [Bool.eq_iff_iff, isFresh_iff, Bool.not_eq_true']
  constructor
  · exact h.kept message hfresh
  · intro hafter
    by_contra hp
    exact h.gone message hfresh (Bool.eq_true_of_not_eq_false hp) hafter

end Signalweave
