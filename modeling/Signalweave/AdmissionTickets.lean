import Signalweave.AdmissionChanges

/-!
# Tickets and their keys

A ticket moves forward through its states and never back. The idempotency index names exactly the
tickets that are live, each under its own key.
-/

open Std

namespace Signalweave

/-! ## The states of a ticket -/

/-- One move in the life of a ticket. -/
inductive TicketMove : TicketState → TicketState → Prop
  | offer (expires : Instant) : TicketMove .waiting (.offered expires)
  | claim (expires : Instant) : TicketMove (.offered expires) .admitted
  | expire {state : TicketState} (live : state.isLive = true) : TicketMove state .expired
  | cancel {state : TicketState} (live : state.isLive = true) : TicketMove state .cancelled

/-- Any number of moves. -/
def TicketMoves : TicketState → TicketState → Prop := Relation.ReflTransGen TicketMove

theorem TicketMoves.single {state state' : TicketState} (h : TicketMove state state') :
    TicketMoves state state' := Relation.ReflTransGen.single h

/-- A ticket that is no longer live stays as it is. -/
theorem TicketMoves.eq_of_not_live {state state' : TicketState} (h : TicketMoves state state')
    (hsettled : state.isLive = false) : state' = state := by
  induction h with
  | refl => rfl
  | tail _ hmove ih =>
    subst ih
    cases hmove with
    | offer => cases hsettled
    | claim => cases hsettled
    | expire hlive => simp [hsettled] at hlive
    | cancel hlive => simp [hsettled] at hlive

namespace AdmissionController

variable {controller controller' controller'' : AdmissionController} {op : AdmissionOp}
  {now : Instant}

/-- Tickets stay, with the same data, and their states move forward; a new ticket starts waiting. -/
structure MovesTickets (controller controller' : AdmissionController) : Prop where
  moves : ∀ (id : QueueTicketId) (entry : TicketEntry), controller.tickets[id]? = some entry →
    ∃ entry', controller'.tickets[id]? = some entry' ∧ entry'.ticket = entry.ticket ∧
      TicketMoves entry.state entry'.state
  starts : ∀ (id : QueueTicketId) (entry' : TicketEntry), controller.tickets[id]? = none →
    controller'.tickets[id]? = some entry' → TicketMoves .waiting entry'.state

theorem MovesTickets.refl : MovesTickets controller controller where
  moves _ entry h := ⟨entry, h, rfl, Relation.ReflTransGen.refl⟩
  starts id entry' hnone hsome := by
    rw [hnone] at hsome
    cases hsome

theorem MovesTickets.trans (h : MovesTickets controller controller')
    (h' : MovesTickets controller' controller'') : MovesTickets controller controller'' where
  moves id entry hentry := by
    obtain ⟨middle, hmiddle, hticket, hmoves⟩ := h.moves id entry hentry
    obtain ⟨after, hafter, hticket', hmoves'⟩ := h'.moves id middle hmiddle
    exact ⟨after, hafter, hticket'.trans hticket, Relation.ReflTransGen.trans hmoves hmoves'⟩
  starts id after hnone hafter := by
    cases hmiddle : controller'.tickets[id]? with
    | none => exact h'.starts id after hmiddle hafter
    | some middle =>
      obtain ⟨found, hfound, -, hmoves⟩ := h'.moves id middle hmiddle
      obtain rfl := Option.some.inj (hfound.symm.trans hafter)
      exact Relation.ReflTransGen.trans (h.starts id middle hnone hmiddle) hmoves

/-- Where each entry is changed on its own, by moves, no ticket is new. -/
theorem MovesTickets.of_map (f : QueueTicketId → TicketEntry → TicketEntry)
    (htickets : ∀ id : QueueTicketId,
      controller'.tickets[id]? = (controller.tickets[id]?).map (f id))
    (hticket : ∀ id entry, (f id entry).ticket = entry.ticket)
    (hmoves : ∀ (id : QueueTicketId) (entry : TicketEntry), controller.tickets[id]? = some entry →
      TicketMoves entry.state (f id entry).state) : MovesTickets controller controller' where
  moves id entry hentry :=
    ⟨f id entry, by rw [htickets, hentry]; rfl, hticket id entry, hmoves id entry hentry⟩
  starts id entry' hnone hsome := by
    rw [htickets, hnone] at hsome
    cases hsome

theorem MovesTickets.of_eq (htickets : controller'.tickets = controller.tickets) :
    MovesTickets controller controller' := by
  apply MovesTickets.of_map fun _ entry => entry
  · intro id
    rw [htickets, Option.map_id']
  · exact fun _ _ => rfl
  · exact fun _ _ _ => Relation.ReflTransGen.refl

theorem expireEntry_ticket {policy : QueuePolicy} {entry : TicketEntry} :
    (expireEntry policy now entry).ticket = entry.ticket := by
  unfold expireEntry
  split
  · split <;> rfl
  · split <;> rfl
  · rfl

/-- What is due has expired, and the rest is as it was. -/
theorem expireEntry_cases {policy : QueuePolicy} {entry : TicketEntry} :
    expireEntry policy now entry = entry ∨
      entry.state.isLive = true ∧ (expireEntry policy now entry).state = .expired := by
  unfold expireEntry
  split
  · rename_i hstate
    rw [hstate]
    split
    · exact .inr ⟨rfl, rfl⟩
    · exact .inl rfl
  · rename_i expires hstate
    rw [hstate]
    split
    · exact .inr ⟨rfl, rfl⟩
    · exact .inl rfl
  · exact .inl rfl

theorem MovesTickets.promoteAt (h : MovesTickets controller controller') :
    MovesTickets controller (controller'.promoteAt now) := by
  apply promoteAt_induction (P := MovesTickets controller) _ _ h
  · intro middle id rest _ hmiddle
    refine hmiddle.trans (.of_map _ (fun other => getElem?_offerHead) ?_ ?_)
    · intro other entry
      split <;> rfl
    · intro other entry _
      split
      · rename_i hhead
        rw [hhead.2]
        exact .single (.offer _)
      · exact Relation.ReflTransGen.refl
  · exact fun middle f hmiddle => hmiddle.trans (.of_eq rfl)

/-- One ticket gets another state. -/
theorem MovesTickets.insert {id : QueueTicketId} {entry entry' : TicketEntry}
    (hentry : controller.tickets[id]? = some entry) (hticket : entry'.ticket = entry.ticket)
    (hmove : TicketMoves entry.state entry'.state)
    (htickets : controller'.tickets = controller.tickets.insert id entry') :
    MovesTickets controller controller' := by
  refine ⟨fun other found hfound => ?_, fun other found hnone hfound => ?_⟩
  · rw [htickets, OrderedMap.getElem?_insert]
    split
    · rename_i hother
      rw [hother, hentry] at hfound
      obtain rfl := Option.some.inj hfound
      exact ⟨entry', rfl, hticket, hmove⟩
    · exact ⟨found, hfound, rfl, Relation.ReflTransGen.refl⟩
  · rw [htickets, OrderedMap.getElem?_insert] at hfound
    split at hfound
    · rename_i hother
      rw [hother, hentry] at hnone
      cases hnone
    · rw [hnone] at hfound
      cases hfound

/-- Tickets are numbered in turn. -/
def Numbered (controller : AdmissionController) : Prop :=
  ∀ id, id ∈ controller.tickets → id < controller.nextTicket

theorem Numbered.of_map {f : QueueTicketId → TicketEntry → TicketEntry} (h : controller.Numbered)
    (htickets : ∀ id : QueueTicketId,
      controller'.tickets[id]? = (controller.tickets[id]?).map (f id))
    (hnext : controller'.nextTicket = controller.nextTicket) : controller'.Numbered := by
  intro id hid
  rw [hnext]
  apply h
  rw [ExtTreeMap.mem_iff_isSome_getElem?] at hid ⊢
  rwa [htickets, Option.isSome_map] at hid

theorem Numbered.of_insert {id : QueueTicketId} {entry entry' : TicketEntry}
    (h : controller.Numbered)
    (hentry : controller.tickets[id]? = some entry)
    (htickets : controller'.tickets = controller.tickets.insert id entry')
    (hnext : controller'.nextTicket = controller.nextTicket) : controller'.Numbered := by
  intro other hother
  rw [hnext]
  rw [htickets] at hother
  rcases OrderedMap.mem_insert.mp hother with rfl | hother
  · exact h _ (OrderedMap.mem_of_getElem? hentry)
  · exact h other hother

theorem Numbered.promoteAt (h : controller.Numbered) : (controller.promoteAt now).Numbered := by
  apply promoteAt_induction (P := Numbered) _ (fun _ _ h => h) h
  intro middle id rest _ hmiddle
  exact hmiddle.of_map (fun _ => getElem?_offerHead) rfl

theorem getElem?_heartbeat {id other : QueueTicketId} :
    (controller.tickets.modify id fun entry => { entry with lastHeartbeat := now })[other]? =
      (controller.tickets[other]?).map fun entry =>
        if other = id then { entry with lastHeartbeat := now } else entry := by
  rw [OrderedMap.getElem?_modify]
  split
  · rfl
  · rw [Option.map_id']

theorem removeLease_tickets {lease : AdmissionLease} {removed : ActiveLease}
    {reason : ReleaseReason} :
    (controller.removeLease lease removed reason now).tickets = controller.tickets ∧
      (controller.removeLease lease removed reason now).nextTicket = controller.nextTicket ∧
      (controller.removeLease lease removed reason now).idempotencyIndex =
        controller.idempotencyIndex := by
  rw [removeLease_same]
  exact ⟨rfl, rfl, rfl⟩

theorem applyPending_tickets :
    controller.applyPending.tickets = controller.tickets ∧
      controller.applyPending.nextTicket = controller.nextTicket ∧
      controller.applyPending.idempotencyIndex = controller.idempotencyIndex := by
  unfold applyPending
  split
  · exact ⟨rfl, rfl, rfl⟩
  · split <;> exact ⟨rfl, rfl, rfl⟩

theorem AdmissionChange.numbered (h : AdmissionChange op controller controller')
    (hnumbered : controller.Numbered) : controller'.Numbered := by
  cases h with
  | expire => exact hnumbered.of_map (fun _ => getElem?_expireEntries) rfl
  | settle =>
    obtain ⟨htickets, hnext, -⟩ := @applyPending_tickets controller
    unfold Numbered
    rwa [htickets, hnext]
  | promote => exact hnumbered.promoteAt
  | @enqueue request now _ key asked unfiled alone full =>
    intro id hid
    show id < controller.nextTicket + 1
    rcases OrderedMap.mem_insert.mp hid with rfl | hid
    · exact Nat.lt_succ_self _
    · exact Nat.lt_succ_of_lt (hnumbered id hid)
  | heartbeat waits => exact hnumbered.of_map (fun _ => getElem?_heartbeat) rfl
  | @cancel id now _ entry found live =>
    exact Numbered.promoteAt
      (@Numbered.of_insert controller (controller.cancelTicket id entry) id entry _ hnumbered found
        rfl rfl)
  | @claim id now _ entry expires found offered =>
    exact @Numbered.of_insert controller
      ((controller.claimTicket id entry).admitAt entry.ticket.principal now).2 id entry _ hnumbered
      found rfl rfl
  | @release lease reason now _ removed active found =>
    obtain ⟨htickets, hnext, -⟩ := @removeLease_tickets controller now lease removed reason
    unfold Numbered
    rwa [htickets, hnext]
  | _ => exact hnumbered

theorem AdmissionChange.movesTickets (h : AdmissionChange op controller controller')
    (hnumbered : controller.Numbered) : MovesTickets controller controller' := by
  cases h with
  | expire =>
    apply MovesTickets.of_map _ (fun id => getElem?_expireEntries)
    · exact fun _ _ => expireEntry_ticket
    · intro id entry _
      rcases @expireEntry_cases op.now controller.policy entry with hsame | ⟨hlive, hexpired⟩
      · rw [hsame]
        exact Relation.ReflTransGen.refl
      · rw [hexpired]
        exact .single (.expire hlive)
  | settle => exact .of_eq applyPending_tickets.1
  | promote => exact MovesTickets.refl.promoteAt
  | @enqueue request now _ key asked unfiled alone full =>
    have hlookup : ∀ id : QueueTicketId,
        (controller.enterQueue key request.principal now).2.tickets[id]? =
          if id = controller.nextTicket then some
            { ticket := (controller.enterQueue key request.principal now).1, created := now
              lastHeartbeat := now, state := .waiting }
          else controller.tickets[id]? := fun id => OrderedMap.getElem?_insert
    refine ⟨fun id entry hentry => ?_, fun id entry hnone hfound => ?_⟩
    · have hlt := hnumbered id (OrderedMap.mem_of_getElem? hentry)
      rw [hlookup, if_neg (Nat.ne_of_lt hlt)]
      exact ⟨entry, hentry, rfl, Relation.ReflTransGen.refl⟩
    · rw [hlookup, hnone] at hfound
      obtain ⟨-, hnew⟩ := Option.ite_none_right_eq_some.mp hfound
      obtain rfl := Option.some.inj hnew
      exact Relation.ReflTransGen.refl
  | heartbeat waits =>
    apply MovesTickets.of_map _ (fun id => getElem?_heartbeat)
    · intro id entry
      split <;> rfl
    · intro id entry _
      split <;> exact Relation.ReflTransGen.refl
  | @cancel id now _ entry found live =>
    apply MovesTickets.promoteAt
    exact @MovesTickets.insert controller (controller.cancelTicket id entry) id entry
      { entry with state := .cancelled } found rfl (.single (.cancel live)) rfl
  | @claim id now _ entry expires found offered =>
    refine @MovesTickets.insert controller
      ((controller.claimTicket id entry).admitAt entry.ticket.principal now).2 id entry
      { entry with state := .admitted } found rfl ?_ rfl
    rw [offered]
    exact .single (.claim expires)
  | release removed active found => exact .of_eq removeLease_tickets.1
  | _ => exact .of_eq rfl

/-! ## The index of the keys -/

/-- The ticket is waiting or offered. -/
def LiveAt (controller : AdmissionController) (id : QueueTicketId) (entry : TicketEntry) : Prop :=
  controller.tickets[id]? = some entry ∧ entry.state.isLive = true

/-- Keys and live tickets are in one-to-one correspondence, one ticket for each principal. -/
structure TicketIndex (controller : AdmissionController) : Prop where
  filed : ∀ (key : IdempotencyKey) (id : QueueTicketId),
    controller.idempotencyIndex[key]? = some id ↔
      ∃ entry, controller.LiveAt id entry ∧ entry.ticket.idempotencyKey = key
  alone : ∀ (id other : QueueTicketId) (entry found : TicketEntry), controller.LiveAt id entry →
    controller.LiveAt other found → entry.ticket.principal = found.ticket.principal → id = other
  own : ∀ (id : QueueTicketId) (entry : TicketEntry), controller.tickets[id]? = some entry →
    entry.ticket.id = id

/-- Two live tickets have two keys. -/
theorem TicketIndex.distinct {id other : QueueTicketId} {entry found : TicketEntry}
    (h : controller.TicketIndex) (hlive : controller.LiveAt id entry)
    (hother : controller.LiveAt other found)
    (hkey : entry.ticket.idempotencyKey = found.ticket.idempotencyKey) : id = other := by
  have hid := (h.filed _ id).mpr ⟨entry, hlive, rfl⟩
  have hfound := (h.filed _ other).mpr ⟨found, hother, hkey.symm⟩
  exact Option.some.inj (hid.symm.trans hfound)

theorem TicketIndex.liveTicket_eq_none {key : IdempotencyKey} (h : controller.TicketIndex)
    (hnone : controller.liveTicket key = none) {id : QueueTicketId} {entry : TicketEntry}
    (hlive : controller.LiveAt id entry) : entry.ticket.idempotencyKey ≠ key := by
  intro hkey
  have hindex := (h.filed key id).mpr ⟨entry, hlive, hkey⟩
  rw [liveTicket, hindex, Option.bind_some, hlive.1] at hnone
  simp [hlive.2] at hnone

theorem hasQueuedPrincipal_eq_false {principal : PrincipalId}
    (h : controller.hasQueuedPrincipal principal = false) {id : QueueTicketId}
    {entry : TicketEntry} (hlive : controller.LiveAt id entry) :
    entry.ticket.principal ≠ principal := by
  intro hprincipal
  rw [hasQueuedPrincipal, List.any_eq_false] at h
  apply h (id, entry) (ExtTreeMap.mem_toList_iff_getElem?_eq_some.mpr hlive.1)
  simp [hprincipal, hlive.2]

/-- Where no ticket is new and each keeps its data and its liveness, the index may stay. -/
theorem TicketIndex.of_map {f : QueueTicketId → TicketEntry → TicketEntry}
    (h : controller.TicketIndex)
    (htickets : ∀ id : QueueTicketId,
      controller'.tickets[id]? = (controller.tickets[id]?).map (f id))
    (hindex : controller'.idempotencyIndex = controller.idempotencyIndex)
    (hticket : ∀ id entry, (f id entry).ticket = entry.ticket)
    (hstate : ∀ id entry, (f id entry).state.isLive = entry.state.isLive) :
    controller'.TicketIndex := by
  have hlive : ∀ {id entry}, controller'.LiveAt id entry →
      ∃ before, controller.LiveAt id before ∧ entry.ticket = before.ticket := by
    rintro id entry ⟨hentry, hlive⟩
    rw [htickets] at hentry
    obtain ⟨before, hbefore, rfl⟩ := Option.map_eq_some_iff.mp hentry
    exact ⟨before, ⟨hbefore, (hstate id before).symm.trans hlive⟩, hticket id before⟩
  constructor
  · intro key id
    rw [hindex, h.filed]
    constructor
    · rintro ⟨entry, ⟨hentry, hlive⟩, hkey⟩
      refine ⟨f id entry, ⟨?_, (hstate id entry).trans hlive⟩, (hticket id entry).symm ▸ hkey⟩
      rw [htickets, hentry]
      rfl
    · rintro ⟨entry, hentry, hkey⟩
      obtain ⟨before, hbefore, hsame⟩ := hlive hentry
      exact ⟨before, hbefore, hsame ▸ hkey⟩
  · intro id other entry found hentry hfound hprincipal
    obtain ⟨before, hbefore, hsame⟩ := hlive hentry
    obtain ⟨before', hbefore', hsame'⟩ := hlive hfound
    exact h.alone id other before before' hbefore hbefore' (by rw [← hsame, hprincipal, hsame'])
  · intro id entry hentry
    rw [htickets] at hentry
    obtain ⟨before, hbefore, rfl⟩ := Option.map_eq_some_iff.mp hentry
    rw [hticket]
    exact h.own id before hbefore

theorem TicketIndex.of_eq (h : controller.TicketIndex)
    (htickets : controller'.tickets = controller.tickets)
    (hindex : controller'.idempotencyIndex = controller.idempotencyIndex) :
    controller'.TicketIndex := by
  apply h.of_map (f := fun _ entry => entry) _ hindex (fun _ _ => rfl) fun _ _ => rfl
  intro id
  rw [htickets, Option.map_id']

theorem TicketIndex.promoteAt (h : controller.TicketIndex) :
    (controller.promoteAt now).TicketIndex := by
  apply promoteAt_induction (P := TicketIndex) _ _ h
  · intro middle id rest _ hmiddle
    refine hmiddle.of_map (fun _ => getElem?_offerHead) rfl ?_ ?_
    · intro other entry
      split <;> rfl
    · intro other entry
      split
      · rename_i hhead
        rw [hhead.2]
        rfl
      · rfl
  · exact fun middle f hmiddle => hmiddle.of_eq rfl rfl

/-- A live ticket is settled and its key becomes free. -/
theorem TicketIndex.settle {id : QueueTicketId} {entry entry' : TicketEntry}
    (h : controller.TicketIndex) (hlive : controller.LiveAt id entry)
    (hticket : entry'.ticket = entry.ticket) (hsettled : entry'.state.isLive = false)
    (htickets : controller'.tickets = controller.tickets.insert id entry')
    (hindex : controller'.idempotencyIndex =
      controller.idempotencyIndex.erase entry.ticket.idempotencyKey) : controller'.TicketIndex := by
  have hother : ∀ {other found}, controller'.LiveAt other found ↔
      other ≠ id ∧ controller.LiveAt other found := by
    intro other found
    unfold LiveAt
    rw [htickets, OrderedMap.getElem?_insert]
    split
    · rename_i heq
      refine iff_of_false ?_ fun hkept => hkept.1 heq
      rintro ⟨hfound, hlive⟩
      obtain rfl := Option.some.inj hfound
      simp [hsettled] at hlive
    · rename_i hne
      exact ⟨fun hfound => ⟨hne, hfound⟩, fun hfound => hfound.2⟩
  constructor
  · intro key other
    rw [hindex, OrderedMap.getElem?_erase]
    split
    · rename_i hkey
      simp only [reduceCtorEq, false_iff, not_exists, not_and]
      intro found hfound hfoundKey
      obtain ⟨hne, hbefore⟩ := hother.mp hfound
      exact hne (h.distinct hbefore hlive (hfoundKey.trans hkey))
    · rename_i hkey
      rw [h.filed]
      constructor
      · rintro ⟨found, hfound, hfoundKey⟩
        refine ⟨found, hother.mpr ⟨?_, hfound⟩, hfoundKey⟩
        rintro rfl
        obtain rfl := Option.some.inj (hfound.1.symm.trans hlive.1)
        exact hkey hfoundKey.symm
      · rintro ⟨found, hfound, hfoundKey⟩
        exact ⟨found, (hother.mp hfound).2, hfoundKey⟩
  · intro first second found found' hfound hfound'
    exact h.alone first second found found' (hother.mp hfound).2 (hother.mp hfound').2
  · intro other found hfound
    rw [htickets, OrderedMap.getElem?_insert] at hfound
    split at hfound
    · rename_i heq
      obtain rfl := Option.some.inj hfound
      rw [hticket, heq]
      exact h.own id entry hlive.1
    · exact h.own other found hfound

theorem getElem?_foldl_erase {α : Type} (list : List α) (g : α → IdempotencyKey)
    (index : ExtTreeMap IdempotencyKey QueueTicketId) (key : IdempotencyKey) :
    (list.foldl (fun index a => index.erase (g a)) index)[key]? =
      if key ∈ list.map g then none else index[key]? := by
  induction list generalizing index with
  | nil => rfl
  | cons a rest ih =>
    rw [List.foldl_cons, ih, OrderedMap.getElem?_erase]
    by_cases hrest : key ∈ rest.map g
    · simp [hrest]
    · by_cases ha : key = g a <;> simp [hrest, ha]

theorem mem_newlyExpired {entry : TicketEntry} :
    entry ∈ controller.newlyExpired now ↔ ∃ id, controller.LiveAt id entry ∧
      (expireEntry controller.policy now entry).state = .expired := by
  unfold newlyExpired LiveAt
  simp only [List.mem_filter, List.mem_map, Prod.exists, ExtTreeMap.mem_toList_iff_getElem?_eq_some,
    exists_eq_right, Bool.and_eq_true, beq_iff_eq]
  constructor
  · rintro ⟨⟨id, hentry⟩, hlive, hexpired⟩
    exact ⟨id, ⟨hentry, hlive⟩, hexpired⟩
  · rintro ⟨id, ⟨hentry, hlive⟩, hexpired⟩
    exact ⟨⟨id, hentry⟩, hlive, hexpired⟩

/-- A ticket is live after the expiry exactly if it was live and is not due. -/
theorem liveAt_expireEntries {id : QueueTicketId} {entry : TicketEntry} :
    (controller.expireEntries now).LiveAt id entry ↔
      controller.LiveAt id entry ∧ expireEntry controller.policy now entry = entry := by
  unfold LiveAt
  rw [getElem?_expireEntries]
  constructor
  · rintro ⟨hentry, hlive⟩
    obtain ⟨before, hbefore, rfl⟩ := Option.map_eq_some_iff.mp hentry
    rcases @expireEntry_cases now controller.policy before with hsame | ⟨-, hexpired⟩
    · rw [hsame] at hlive ⊢
      exact ⟨⟨hbefore, hlive⟩, hsame⟩
    · rw [hexpired] at hlive
      cases hlive
  · rintro ⟨⟨hentry, hlive⟩, hsame⟩
    refine ⟨?_, hlive⟩
    rw [hentry, Option.map_some, hsame]

theorem TicketIndex.expireEntries (h : controller.TicketIndex) :
    (controller.expireEntries now).TicketIndex := by
  constructor
  · intro key id
    have hindex : (controller.expireEntries now).idempotencyIndex[key]? =
        if key ∈ (controller.newlyExpired now).map (fun entry => entry.ticket.idempotencyKey)
          then none else controller.idempotencyIndex[key]? :=
      getElem?_foldl_erase (controller.newlyExpired now) _ _ key
    rw [hindex]
    split
    · rename_i hgone
      obtain ⟨entry, hentry, rfl⟩ := List.mem_map.mp hgone
      obtain ⟨expired, hlive, hexpired⟩ := mem_newlyExpired.mp hentry
      simp only [reduceCtorEq, false_iff, not_exists, not_and]
      intro found hfound hkey
      obtain ⟨hbefore, hsame⟩ := liveAt_expireEntries.mp hfound
      obtain rfl := h.distinct hbefore hlive hkey
      obtain rfl := Option.some.inj (hbefore.1.symm.trans hlive.1)
      have hlive := hlive.2
      rw [← hsame, hexpired] at hlive
      cases hlive
    · rename_i hkept
      rw [h.filed]
      constructor
      · rintro ⟨entry, hlive, hkey⟩
        refine ⟨entry, liveAt_expireEntries.mpr ⟨hlive, ?_⟩, hkey⟩
        rcases @expireEntry_cases now controller.policy entry with hsame | ⟨-, hexpired⟩
        · exact hsame
        · exact absurd (List.mem_map.mpr ⟨entry, mem_newlyExpired.mpr ⟨id, hlive, hexpired⟩, hkey⟩)
            hkept
      · rintro ⟨entry, hlive, hkey⟩
        exact ⟨entry, (liveAt_expireEntries.mp hlive).1, hkey⟩
  · intro id other entry found hentry hfound
    exact h.alone id other entry found (liveAt_expireEntries.mp hentry).1
      (liveAt_expireEntries.mp hfound).1
  · intro id entry hentry
    rw [getElem?_expireEntries] at hentry
    obtain ⟨before, hbefore, rfl⟩ := Option.map_eq_some_iff.mp hentry
    rw [expireEntry_ticket]
    exact h.own id before hbefore

/-- A new ticket has a key that no live ticket has, and a principal that has no live ticket. -/
theorem TicketIndex.enterQueue {key : IdempotencyKey} {principal : PrincipalId}
    (h : controller.TicketIndex) (hnumbered : controller.Numbered)
    (hunfiled : controller.liveTicket key = none)
    (halone : controller.hasQueuedPrincipal principal = false) :
    (controller.enterQueue key principal now).2.TicketIndex := by
  have hlookup : ∀ id : QueueTicketId,
      (controller.enterQueue key principal now).2.tickets[id]? =
        if id = controller.nextTicket then some
          { ticket := (controller.enterQueue key principal now).1, created := now
            lastHeartbeat := now, state := .waiting }
        else controller.tickets[id]? := fun id => OrderedMap.getElem?_insert
  have hindex : ∀ other : IdempotencyKey,
      (controller.enterQueue key principal now).2.idempotencyIndex[other]? =
        if other = key then some controller.nextTicket
        else controller.idempotencyIndex[other]? := fun other => OrderedMap.getElem?_insert
  -- A live ticket is the new one or was live before, with another key and another principal.
  have hlive : ∀ {id entry}, (controller.enterQueue key principal now).2.LiveAt id entry →
      id = controller.nextTicket ∧ entry.ticket = (controller.enterQueue key principal now).1 ∨
        id < controller.nextTicket ∧ controller.LiveAt id entry := by
    rintro id entry ⟨hentry, hlive⟩
    rw [hlookup] at hentry
    split at hentry
    · rename_i hid
      obtain rfl := Option.some.inj hentry
      exact .inl ⟨hid, rfl⟩
    · exact .inr ⟨hnumbered id (OrderedMap.mem_of_getElem? hentry), hentry, hlive⟩
  have hkept : ∀ {id entry}, controller.LiveAt id entry →
      (controller.enterQueue key principal now).2.LiveAt id entry := by
    rintro id entry ⟨hentry, hlive⟩
    have hlt := hnumbered id (OrderedMap.mem_of_getElem? hentry)
    exact ⟨by rw [hlookup, if_neg (Nat.ne_of_lt hlt), hentry], hlive⟩
  constructor
  · intro other id
    rw [hindex]
    split
    · rename_i hother
      constructor
      · rintro ⟨⟩
        exact ⟨_, ⟨(hlookup _).trans (if_pos rfl), rfl⟩, hother.symm⟩
      · rintro ⟨entry, hentry, hkey⟩
        rcases hlive hentry with ⟨rfl, -⟩ | ⟨-, hbefore⟩
        · rfl
        · exact absurd (hkey.trans hother) (h.liveTicket_eq_none hunfiled hbefore)
    · rename_i hother
      rw [h.filed]
      constructor
      · rintro ⟨entry, hentry, hkey⟩
        exact ⟨entry, hkept hentry, hkey⟩
      · rintro ⟨entry, hentry, hkey⟩
        rcases hlive hentry with ⟨-, hticket⟩ | ⟨-, hbefore⟩
        · rw [hticket] at hkey
          exact absurd hkey.symm hother
        · exact ⟨entry, hbefore, hkey⟩
  · intro id other entry found hentry hfound hprincipal
    rcases hlive hentry with ⟨rfl, hticket⟩ | ⟨-, hbefore⟩ <;>
      rcases hlive hfound with ⟨rfl, hticket'⟩ | ⟨-, hbefore'⟩
    · rfl
    · rw [hticket] at hprincipal
      exact absurd hprincipal.symm (hasQueuedPrincipal_eq_false halone hbefore')
    · rw [hticket'] at hprincipal
      exact absurd hprincipal (hasQueuedPrincipal_eq_false halone hbefore)
    · exact h.alone id other entry found hbefore hbefore' hprincipal
  · intro id entry hentry
    rw [hlookup] at hentry
    split at hentry
    · rename_i hid
      obtain rfl := Option.some.inj hentry
      exact hid.symm
    · exact h.own id entry hentry

theorem AdmissionChange.ticketIndex (h : AdmissionChange op controller controller')
    (hnumbered : controller.Numbered) (hindex : controller.TicketIndex) :
    controller'.TicketIndex := by
  cases h with
  | expire => exact hindex.expireEntries
  | settle => exact hindex.of_eq applyPending_tickets.1 applyPending_tickets.2.2
  | promote => exact hindex.promoteAt
  | enqueue key asked unfiled alone full => exact hindex.enterQueue hnumbered unfiled alone
  | @heartbeat id now _ waits =>
    refine hindex.of_map (f := fun other entry =>
      if other = id then { entry with lastHeartbeat := now } else entry) ?_ ?_ ?_ ?_
    · exact fun _ => getElem?_heartbeat
    · rfl
    · intro id entry
      split <;> rfl
    · intro id entry
      split <;> rfl
  | @cancel id now _ entry found live =>
    apply TicketIndex.promoteAt
    exact @TicketIndex.settle controller (controller.cancelTicket id entry) id entry
      { entry with state := .cancelled } hindex ⟨found, live⟩ rfl rfl rfl rfl
  | @claim id now _ entry expires found offered =>
    have hlive : entry.state.isLive = true := by
      rw [offered]
      rfl
    exact @TicketIndex.settle controller
      ((controller.claimTicket id entry).admitAt entry.ticket.principal now).2 id entry
      { entry with state := .admitted } hindex ⟨found, hlive⟩ rfl rfl rfl rfl
  | release removed active found => exact hindex.of_eq removeLease_tickets.1 removeLease_tickets.2.2
  | _ => exact hindex.of_eq rfl rfl

/-! ## Runs -/

/-- What every state of a run has. -/
structure Ticketed (controller : AdmissionController) : Prop where
  numbered : controller.Numbered
  index : controller.TicketIndex

theorem new_ticketed (metadata : AdmissionMetadata) (policy : QueuePolicy)
    (capacity : CapacityUpdate) (counters : UsageCounters) :
    (new metadata policy capacity counters).Ticketed := by
  refine ⟨?_, ⟨?_, ?_, ?_⟩⟩
  · intro id hid
    simp [new] at hid
  · intro key id
    simp [new, LiveAt]
  · intro id other entry found hentry
    simp [new, LiveAt] at hentry
  · intro id entry hentry
    simp [new] at hentry

theorem Ticketed.step (h : controller.Ticketed) (op : AdmissionOp) :
    (controller.apply op).Ticketed ∧ MovesTickets controller (controller.apply op) := by
  refine (apply_changes controller op).invariant
    (P := fun after => after.Ticketed ∧ MovesTickets controller after) ?_ ⟨h, .refl⟩
  rintro middle after hchange ⟨⟨hnumbered, hindex⟩, hmoves⟩
  exact ⟨⟨hchange.numbered hnumbered, hchange.ticketIndex hnumbered hindex⟩,
    hmoves.trans (hchange.movesTickets hnumbered)⟩

theorem Ticketed.run (h : controller.Ticketed) (ops : List AdmissionOp) :
    (Transition.run apply controller ops).Ticketed ∧
      MovesTickets controller (Transition.run apply controller ops) := by
  induction ops generalizing controller with
  | nil => exact ⟨h, .refl⟩
  | cons op rest ih =>
    obtain ⟨hafter, hmoves⟩ := h.step op
    obtain ⟨hlast, hrest⟩ := ih hafter
    exact ⟨hlast, hmoves.trans hrest⟩

/-- In every state of a run the index names the live tickets under their keys and no principal has
two of them, and from there on tickets only move forward. -/
theorem run_tickets (metadata : AdmissionMetadata) (policy : QueuePolicy)
    (capacity : CapacityUpdate) (counters : UsageCounters) (ops later : List AdmissionOp) :
    let start := new metadata policy capacity counters
    (Transition.run apply start ops).TicketIndex ∧
      MovesTickets (Transition.run apply start ops) (Transition.run apply start (ops ++ later)) ∧
      ∀ state state', TicketMoves state state' → state.isLive = false → state' = state := by
  intro start
  have hstart : (Transition.run apply start ops).Ticketed :=
    ((new_ticketed metadata policy capacity counters).run ops).1
  refine ⟨hstart.index, ?_, fun _ _ hmoves => hmoves.eq_of_not_live⟩
  rw [Transition.run_append]
  exact (hstart.run later).2

end AdmissionController

end Signalweave
