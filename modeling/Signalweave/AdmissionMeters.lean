import Signalweave.AdmissionTickets
import Signalweave.UsageConnections

/-!
# What the usage counters say of a controller

Each active lease has an open connection in the usage counters, and every change of the leases or
of the queue leaves the gauges exact.
-/

open Std

namespace Signalweave

namespace AdmissionController

variable {controller controller' : AdmissionController} {op : AdmissionOp} {now : Instant}

/-! ## Connections of leases -/

/-- Active leases and open connections belong together one to one. -/
structure Connected (controller : AdmissionController) : Prop where
  handled : controller.counters.Handled
  owned : ∀ (id : Nat) (lease : ActiveLease), controller.active[id]? = some lease →
    { handle := lease.usageHandle, principal := lease.principal, started := lease.started } ∈
      controller.counters.active
  distinct : ∀ (id other : Nat) (lease found : ActiveLease), controller.active[id]? = some lease →
    controller.active[other]? = some found → lease.usageHandle = found.usageHandle → id = other
  leased : ∀ connection ∈ controller.counters.active, ∃ (id : Nat) (lease : ActiveLease),
    controller.active[id]? = some lease ∧ lease.usageHandle = connection.handle

/-- The gauges show the leases and the queue. -/
structure Gauged (controller : AdmissionController) : Prop where
  activeCcu : controller.counters.activeCcu = saturatingU32 controller.active.size
  queueDepth : controller.counters.queueDepth = saturatingU32 controller.queueDepth

/-- The queue lists tickets that have been issued. -/
def Lined (controller : AdmissionController) : Prop :=
  ∀ id ∈ controller.waiting, id < controller.nextTicket

theorem Connected.of_same (h : controller.Connected)
    (hactive : controller'.active = controller.active)
    (hopen : controller'.counters.active = controller.counters.active)
    (hnext : controller'.counters.nextHandle = controller.counters.nextHandle) :
    controller'.Connected := by
  refine ⟨⟨?_, ?_⟩, ?_, ?_, ?_⟩
  · rw [hopen]
    exact h.handled.distinct
  · rw [hopen, hnext]
    exact h.handled.issued
  · rw [hactive, hopen]
    exact h.owned
  · rw [hactive]
    exact h.distinct
  · rw [hactive, hopen]
    exact h.leased

/-- A lease is opened under a handle of its own. -/
theorem Connected.insert {id : Nat} {principal : PrincipalId} (h : controller.Connected)
    (hfresh : id ∉ controller.active)
    (hactive : controller'.active = controller.active.insert id
      { principal, started := now, usageHandle := controller.counters.nextHandle })
    (hopen : controller'.counters.active =
      (controller.counters.startConnection principal now).2.active)
    (hnext : controller'.counters.nextHandle = controller.counters.nextHandle + 1) :
    controller'.Connected := by
  have hhandled : (controller.counters.startConnection principal now).2.Handled :=
    h.handled.startConnection
  have hbelow : ∀ {other : Nat} {lease : ActiveLease}, controller.active[other]? = some lease →
      lease.usageHandle < controller.counters.nextHandle := by
    intro other lease hlease
    exact h.handled.issued _ (h.owned other lease hlease)
  have hat : ∀ other : Nat, controller'.active[other]? = if other = id then
      some { principal, started := now, usageHandle := controller.counters.nextHandle }
      else controller.active[other]? := by
    intro other
    rw [hactive, OrderedMap.getElem?_insert]
  refine ⟨⟨?_, ?_⟩, ?_, ?_, ?_⟩
  · rw [hopen]
    exact hhandled.distinct
  · rw [hopen, hnext]
    exact hhandled.issued
  · intro other lease hlease
    rw [hat] at hlease
    rw [hopen]
    split at hlease
    · obtain rfl := Option.some.inj hlease
      exact List.mem_append_right _ (List.mem_singleton.mpr rfl)
    · exact List.mem_append_left _ (h.owned other lease hlease)
  · intro first second lease found hlease hfound hsame
    rw [hat] at hlease hfound
    split at hlease
    · rename_i hfirst
      obtain rfl := Option.some.inj hlease
      split at hfound
      · rename_i hsecond
        exact hfirst.trans hsecond.symm
      · have hlt := hbelow hfound
        rw [← hsame] at hlt
        exact absurd hlt (Nat.lt_irrefl _)
    · split at hfound
      · obtain rfl := Option.some.inj hfound
        have hlt := hbelow hlease
        rw [hsame] at hlt
        exact absurd hlt (Nat.lt_irrefl _)
      · exact h.distinct first second lease found hlease hfound hsame
  · intro connection hin
    rw [hopen] at hin
    rcases List.mem_append.mp hin with hold | hnew
    · obtain ⟨other, lease, hlease, hhandle⟩ := h.leased connection hold
      refine ⟨other, lease, ?_, hhandle⟩
      rw [hat, if_neg, hlease]
      intro heq
      exact hfresh (heq ▸ OrderedMap.mem_of_getElem? hlease)
    · rw [List.mem_singleton.mp hnew]
      exact ⟨id, _, (hat id).trans (if_pos rfl), rfl⟩

/-- A lease is closed with its connection. -/
theorem Connected.erase {id : Nat} {removed : ActiveLease} (h : controller.Connected)
    (hfound : controller.active[id]? = some removed)
    (hactive : controller'.active = controller.active.erase id)
    (hopen : controller'.counters.active =
      (controller.counters.endConnection removed.usageHandle now).active)
    (hnext : controller'.counters.nextHandle =
      (controller.counters.endConnection removed.usageHandle now).nextHandle) :
    controller'.Connected := by
  have hhandled : (controller.counters.endConnection removed.usageHandle now).Handled :=
    h.handled.endConnection
  have hat : ∀ other : Nat, controller'.active[other]? =
      if other = id then none else controller.active[other]? := by
    intro other
    rw [hactive, OrderedMap.getElem?_erase]
  refine ⟨⟨?_, ?_⟩, ?_, ?_, ?_⟩
  · rw [hopen]
    exact hhandled.distinct
  · rw [hopen, hnext]
    exact hhandled.issued
  · intro other lease hlease
    rw [hat] at hlease
    obtain ⟨hne, hlease⟩ := Option.ite_none_left_eq_some.mp hlease
    rw [hopen, UsageCounters.mem_endConnection h.handled]
    refine ⟨h.owned other lease hlease, ?_⟩
    intro hsame
    exact hne (h.distinct other id lease removed hlease hfound hsame)
  · intro first second lease found hlease hfound
    rw [hat] at hlease hfound
    exact h.distinct first second lease found (Option.ite_none_left_eq_some.mp hlease).2
      (Option.ite_none_left_eq_some.mp hfound).2
  · intro connection hin
    rw [hopen, UsageCounters.mem_endConnection h.handled] at hin
    obtain ⟨other, lease, hlease, hhandle⟩ := h.leased connection hin.1
    refine ⟨other, lease, ?_, hhandle⟩
    rw [hat, if_neg, hlease]
    intro heq
    rw [heq, hfound] at hlease
    rw [← Option.some.inj hlease] at hhandle
    exact hin.2 hhandle.symm

/-- The lease tables alone decide whether the ids are in order. -/
theorem Leased.of_same (h : controller.Leased) (hactive : controller'.active = controller.active)
    (hreservations : ∀ id, id ∈ controller'.reservations → id ∈ controller.reservations)
    (hnext : controller'.nextLease = controller.nextLease) : controller'.Leased := by
  refine ⟨?_, ?_, ?_⟩
  · rw [hactive, hnext]
    exact h.active
  · intro id hid
    rw [hnext]
    exact h.reserved id (hreservations id hid)
  · rw [hactive]
    exact fun id hid hreserved => h.disjoint id hid (hreservations id hreserved)

theorem reviveLease_leased {token : ResumeToken} {principal : PrincipalId}
    {reservation : Reservation} (h : controller.Leased)
    (hreserved : controller.reservations[token]? = some reservation) :
    (controller.reviveLease token principal now).Leased := by
  have hin := OrderedMap.mem_of_getElem? hreserved
  refine ⟨?_, ?_, ?_⟩
  · intro id hid
    rcases OrderedMap.mem_insert.mp hid with rfl | hold
    · exact h.reserved id hin
    · exact h.active id hold
  · intro id hid
    exact h.reserved id (OrderedMap.mem_erase.mp hid).2
  · intro id hid hkept
    obtain ⟨hne, hkept⟩ := OrderedMap.mem_erase.mp hkept
    rcases OrderedMap.mem_insert.mp hid with rfl | hold
    · exact hne rfl
    · exact h.disjoint id hold hkept

/-- What a change of tickets, of the allocation or of counts does not touch. -/
structure SameLeases (controller controller' : AdmissionController) : Prop where
  active : controller'.active = controller.active
  reservations : controller'.reservations = controller.reservations
  nextLease : controller'.nextLease = controller.nextLease
  policy : controller'.policy = controller.policy
  opened : controller'.counters.active = controller.counters.active
  nextHandle : controller'.counters.nextHandle = controller.counters.nextHandle
  activeCcu : controller'.counters.activeCcu = controller.counters.activeCcu

theorem SameLeases.refl : SameLeases controller controller := ⟨rfl, rfl, rfl, rfl, rfl, rfl, rfl⟩

theorem promoteAt_sameLeases : SameLeases controller (controller.promoteAt now) := by
  have hloop : SameLeases controller (promoteLoop now controller.waiting controller) := by
    apply promoteLoop_induction (P := SameLeases controller) _ _ rfl .refl
    intro middle id rest _ h
    exact ⟨h.active, h.reservations, h.nextLease, h.policy, h.opened, h.nextHandle, h.activeCcu⟩
  exact ⟨hloop.active, hloop.reservations, hloop.nextLease, hloop.policy, hloop.opened,
    hloop.nextHandle, hloop.activeCcu⟩

theorem applyPending_sameLeases : SameLeases controller controller.applyPending := by
  unfold applyPending
  split
  · exact .refl
  · split
    · exact ⟨rfl, rfl, rfl, rfl, rfl, rfl, rfl⟩
    · exact .refl

theorem SameLeases.leased (h : SameLeases controller controller') (hleased : controller.Leased) :
    controller'.Leased := by
  refine hleased.of_same h.active ?_ h.nextLease
  intro id hid
  rw [← h.reservations]
  exact hid

theorem SameLeases.connected (h : SameLeases controller controller')
    (hconnected : controller.Connected) : controller'.Connected :=
  hconnected.of_same h.active h.opened h.nextHandle

theorem AdmissionChange.leased (h : AdmissionChange op controller controller')
    (hleased : controller.Leased) : controller'.Leased := by
  cases h with
  | count f counts => exact hleased.of_same rfl (fun _ hid => hid) rfl
  | expire => exact hleased.of_same rfl (fun _ hid => ExtTreeMap.mem_of_mem_filter hid) rfl
  | settle => exact applyPending_sameLeases.leased hleased
  | promote => exact promoteAt_sameLeases.leased hleased
  | grant key asked unfiled alone room => exact admitAt_leased hleased
  | @cancel id now _ entry found live =>
    have hcancelled : (controller.cancelTicket id entry).Leased :=
      hleased.of_same rfl (fun _ hid => hid) rfl
    exact promoteAt_sameLeases.leased hcancelled
  | @claim id now _ entry expires found offered =>
    have hclaimed : (controller.claimTicket id entry).Leased :=
      hleased.of_same rfl (fun _ hid => hid) rfl
    exact admitAt_leased hclaimed
  | release removed active found => exact removeLease_leased hleased found
  | resume reservation found own => exact reviveLease_leased hleased found
  | _ => exact hleased.of_same rfl (fun _ hid => hid) rfl

theorem Connected.admitAt {principal : PrincipalId} (h : controller.Connected)
    (hleased : controller.Leased) : (controller.admitAt principal now).2.Connected := by
  have hfresh : controller.nextLease ∉ controller.active :=
    fun hin => Nat.lt_irrefl _ (hleased.active _ hin)
  exact @Connected.insert controller (controller.admitAt principal now).2 now controller.nextLease
    principal h hfresh rfl rfl rfl

theorem Connected.removeLease {lease : AdmissionLease} {removed : ActiveLease}
    {reason : ReleaseReason} (h : controller.Connected)
    (hfound : controller.active[lease.id]? = some removed) :
    (controller.removeLease lease removed reason now).Connected := by
  apply @Connected.erase controller (controller.removeLease lease removed reason now) now lease.id
    removed h hfound
  · unfold AdmissionController.removeLease
    dsimp only
    split <;> rfl
  · unfold AdmissionController.removeLease
    dsimp only
    split <;> rfl
  · unfold AdmissionController.removeLease
    dsimp only
    split <;> rfl

theorem AdmissionChange.connected (h : AdmissionChange op controller controller')
    (hleased : controller.Leased) (hconnected : controller.Connected) : controller'.Connected := by
  cases h with
  | count f counts =>
    exact hconnected.of_same rfl (counts.active controller.counters)
      (counts.nextHandle controller.counters)
  | settle => exact applyPending_sameLeases.connected hconnected
  | promote => exact promoteAt_sameLeases.connected hconnected
  | grant key asked unfiled alone room => exact hconnected.admitAt hleased
  | @cancel id now _ entry found live =>
    have hcancelled : (controller.cancelTicket id entry).Connected :=
      hconnected.of_same rfl rfl rfl
    exact promoteAt_sameLeases.connected hcancelled
  | @claim id now _ entry expires found offered =>
    have hclaimed : (controller.claimTicket id entry).Connected := hconnected.of_same rfl rfl rfl
    have hleased' : (controller.claimTicket id entry).Leased :=
      hleased.of_same rfl (fun _ hid => hid) rfl
    exact hclaimed.admitAt hleased'
  | release removed active found => exact hconnected.removeLease found
  | @resume token principal now _ reservation found own =>
    have hfresh : token ∉ controller.active :=
      fun hin => hleased.disjoint token hin (OrderedMap.mem_of_getElem? found)
    exact @Connected.insert controller (controller.reviveLease token principal now) now token
      principal hconnected hfresh rfl rfl rfl
  | _ => exact hconnected.of_same rfl rfl rfl

/-! ## Gauges -/

theorem Gauged.of_same (h : controller.Gauged)
    (hactive : controller'.active = controller.active)
    (hdepth : controller'.queueDepth = controller.queueDepth)
    (hgauge : controller'.counters.activeCcu = controller.counters.activeCcu)
    (hqueue : controller'.counters.queueDepth = controller.counters.queueDepth) :
    controller'.Gauged := by
  refine ⟨?_, ?_⟩
  · rw [hgauge, hactive]
    exact h.activeCcu
  · rw [hqueue, hdepth]
    exact h.queueDepth

/-- A promotion ends with the gauge of the queue. -/
theorem promoteAt_gauged
    (hgauge : controller.counters.activeCcu = saturatingU32 controller.active.size) :
    (controller.promoteAt now).Gauged := by
  have hsame := @promoteAt_sameLeases controller now
  refine ⟨?_, rfl⟩
  rw [hsame.activeCcu, hsame.active]
  exact hgauge

theorem queueDepth_congr (hwaiting : controller'.waiting = controller.waiting)
    (hstates : ∀ id ∈ controller.waiting, controller'.isWaiting id = controller.isWaiting id) :
    controller'.queueDepth = controller.queueDepth := by
  unfold queueDepth
  rw [hwaiting, List.filter_congr hstates]

/-- The gauge of the queue is raised before the ticket comes. -/
theorem enterQueue_gauged {key : IdempotencyKey} {principal : PrincipalId} (h : controller.Gauged)
    (hlined : controller.Lined) :
    (controller.enterQueue key principal now).2.Gauged := by
  have hat : ∀ id : QueueTicketId, (controller.enterQueue key principal now).2.tickets[id]? =
      if id = controller.nextTicket then some
        { ticket := (controller.enterQueue key principal now).1, created := now
          lastHeartbeat := now, state := .waiting }
      else controller.tickets[id]? := fun id => OrderedMap.getElem?_insert
  have hnew : (controller.enterQueue key principal now).2.isWaiting controller.nextTicket = true :=
    isWaiting_iff.mpr ⟨_, (hat _).trans (if_pos rfl), rfl⟩
  have hold : ∀ id ∈ controller.waiting,
      (controller.enterQueue key principal now).2.isWaiting id = controller.isWaiting id := by
    intro id hid
    rw [isWaiting, isWaiting, hat, if_neg (Nat.ne_of_lt (hlined id hid))]
  have hdepth : (controller.enterQueue key principal now).2.queueDepth =
      controller.queueDepth + 1 := by
    show ((controller.waiting ++ [controller.nextTicket]).filter _).length = _
    rw [List.filter_append, List.length_append, List.filter_congr hold,
      List.filter_cons_of_pos hnew]
    rfl
  refine ⟨h.activeCcu, ?_⟩
  rw [hdepth]
  rfl

theorem promoteAt_lined (h : controller.Lined) : (controller.promoteAt now).Lined := by
  apply promoteAt_induction (P := Lined) _ (fun _ _ h => h) h
  intro middle id rest hwaiting hmiddle other hother
  exact hmiddle other (hwaiting ▸ List.mem_cons_of_mem _ hother)

theorem AdmissionChange.lined (h : AdmissionChange op controller controller')
    (hlined : controller.Lined) : controller'.Lined := by
  cases h with
  | expire => exact fun id hid => hlined id (List.mem_filter.mp hid).1
  | settle =>
    intro id hid
    rw [applyPending_tickets.2.1]
    apply hlined
    unfold applyPending at hid
    split at hid
    · exact hid
    · split at hid <;> exact hid
  | promote => exact promoteAt_lined hlined
  | enqueue key asked unfiled alone full =>
    intro id hid
    show id < controller.nextTicket + 1
    rcases List.mem_append.mp hid with hold | hnew
    · exact Nat.lt_succ_of_lt (hlined id hold)
    · rw [List.mem_singleton.mp hnew]
      exact Nat.lt_succ_self _
  | @cancel id now _ entry found live =>
    apply promoteAt_lined
    exact fun other hother => hlined other (List.mem_filter.mp hother).1
  | @release lease reason now _ removed active found =>
    unfold Lined
    rw [removeLease_same]
    exact hlined
  | _ => exact hlined

theorem AdmissionChange.gauged (h : AdmissionChange op controller controller')
    (hlined : controller.Lined) (hgauged : controller.Gauged) : controller'.Gauged := by
  cases h with
  | count f counts =>
    exact hgauged.of_same rfl rfl (counts.activeCcu controller.counters)
      (counts.queueDepth controller.counters)
  | expire => exact ⟨hgauged.activeCcu, rfl⟩
  | settle =>
    unfold applyPending
    split
    · exact hgauged
    · split
      · exact hgauged.of_same rfl rfl rfl rfl
      · exact hgauged
  | promote => exact promoteAt_gauged hgauged.activeCcu
  | grant key asked unfiled alone room => exact ⟨rfl, hgauged.queueDepth⟩
  | enqueue key asked unfiled alone full => exact enterQueue_gauged hgauged hlined
  | heartbeat waits =>
    exact hgauged.of_same rfl
      (queueDepth_congr rfl fun other _ => heartbeat_sameStates.isWaiting other) rfl rfl
  | @cancel id now _ entry found live =>
    exact @promoteAt_gauged (controller.cancelTicket id entry) now hgauged.activeCcu
  | @claim id now _ entry expires found offered =>
    have hdepth : (controller.claimTicket id entry).queueDepth = controller.queueDepth := by
      apply @queueDepth_congr controller (controller.claimTicket id entry) rfl
      intro other _
      show ((controller.tickets.insert id { entry with state := .admitted })[other]?).any _ = _
      rw [OrderedMap.getElem?_insert, isWaiting]
      split
      · rename_i hother
        rw [hother, found, Option.any_some, Option.any_some, offered]
        rfl
      · rfl
    refine ⟨rfl, ?_⟩
    show controller.counters.queueDepth = saturatingU32 (controller.claimTicket id entry).queueDepth
    rw [hdepth]
    exact hgauged.queueDepth
  | @release lease reason now _ removed active found =>
    have hcounters : ∀ handle, (controller.counters.endConnection handle now).queueDepth =
        controller.counters.queueDepth := by
      intro handle
      rcases @UsageCounters.endConnection_cases controller.counters now handle with
        ⟨-, hsame⟩ | ⟨ended, -, -, hsame⟩
      · rw [hsame]
      · rw [hsame]
    unfold removeLease
    dsimp only
    split
    · exact ⟨rfl, (hcounters removed.usageHandle).trans hgauged.queueDepth⟩
    · exact ⟨rfl, (hcounters removed.usageHandle).trans hgauged.queueDepth⟩
  | resume reservation found own => exact ⟨rfl, hgauged.queueDepth⟩
  | _ => exact hgauged.of_same rfl rfl rfl rfl

/-- What every state of a run has. -/
structure Metered (controller : AdmissionController) : Prop where
  leased : controller.Leased
  connected : controller.Connected
  lined : controller.Lined
  gauged : controller.Gauged

theorem Metered.step (h : controller.Metered) (op : AdmissionOp) :
    (controller.apply op).Metered := by
  refine (apply_changes controller op).invariant (P := Metered) ?_ h
  intro before after hchange hmetered
  exact ⟨hchange.leased hmetered.leased, hchange.connected hmetered.leased hmetered.connected,
    hchange.lined hmetered.lined, hchange.gauged hmetered.lined hmetered.gauged⟩

/-- Counters that no other controller uses start with nothing open. -/
theorem new_metered (metadata counted : AdmissionMetadata) (policy : QueuePolicy)
    (capacity : CapacityUpdate) :
    (new metadata policy capacity { metadata := counted }).Metered := by
  refine ⟨⟨?_, ?_, ?_⟩, ⟨⟨.nil, ?_⟩, ?_, ?_, ?_⟩, ?_, ⟨rfl, rfl⟩⟩
  · intro id hid
    simp [new] at hid
  · intro id hid
    simp [new] at hid
  · intro id hid
    simp [new] at hid
  · intro connection hin
    cases hin
  · intro id lease hlease
    simp [new] at hlease
  · intro id other lease found hlease
    simp [new] at hlease
  · intro connection hin
    cases hin
  · intro id hid
    cases hid

/-- The waiting tickets of the table. -/
def waitingTickets (controller : AdmissionController) : Nat :=
  (controller.tickets.toList.filter fun entry => entry.2.state == .waiting).length

/-- The queue lists all waiting tickets, each once. -/
theorem Queued.queueDepth_eq (h : controller.Queued) :
    controller.queueDepth = controller.waitingTickets := by
  have hwaiting : controller.waiting.filter controller.isWaiting = controller.waiting :=
    List.filter_eq_self.mpr fun id hid => (h.listed id).mp hid
  have hissued : controller.waiting.filter (· < controller.nextTicket) = controller.waiting := by
    apply List.filter_eq_self.mpr
    intro id hid
    obtain ⟨entry, hentry, -⟩ := isWaiting_iff.mp ((h.listed id).mp hid)
    exact decide_eq_true (h.ids id (OrderedMap.mem_of_getElem? hentry))
  have hahead : controller.ahead controller.nextTicket = controller.waitingTickets := by
    unfold ahead waitingTickets
    congr 1
    apply List.filter_congr
    intro entry hin
    have hlt := h.ids entry.1 (OrderedMap.mem_of_getElem?
      (ExtTreeMap.mem_toList_iff_getElem?_eq_some.mp hin))
    simp [hlt]
  rw [queueDepth, hwaiting, ← hahead, ← h.length_filter, hissued]

theorem saturatingU32_toNat_eq_min (n : Nat) : (saturatingU32 n).toNat = min n (2 ^ 32 - 1) := by
  rw [saturatingU32, UInt32.toNat_ofNat']
  omega

/-- The gauges in numbers. -/
theorem Gauged.exact (h : controller.Gauged) (horderly : controller.Orderly) :
    controller.counters.activeCcu.toNat = controller.active.size ∧
      controller.counters.queueDepth.toNat = min controller.waitingTickets (2 ^ 32 - 1) := by
  have hwithin := horderly.allotted.occupancy
  have hbound := controller.allocatedCcu.toNat_lt
  unfold occupancy at hwithin
  refine ⟨?_, ?_⟩
  · rw [h.activeCcu]
    exact saturatingU32_toNat (by omega)
  · rw [h.queueDepth, saturatingU32_toNat_eq_min, horderly.queued.queueDepth_eq]

end AdmissionController

end Signalweave
