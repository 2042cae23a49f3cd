import Signalweave.Core.Steps

/-!
# Losing a connection

A lost transport leaves its sessions one after the other, gives its pending leases back and is
then forgotten. Nothing on the way can fail.
-/

open Std

namespace Signalweave

open Stateful WovenCore

namespace WovenCore

/-- The connection after it has left all its sessions. -/
def leaveAll (core : WovenCore) (connection : ConnectionId) (clock : ReleaseClock) : WovenCore :=
  (core.connectionAt connection).memberships.toList.foldl
    (fun core key => core.leave connection key .unexpected (clock .unexpected connection key)) core

/-- The state `transport_lost` leaves. -/
def lose (core : WovenCore) (connection : ConnectionId) (clock : ReleaseClock) : WovenCore :=
  let core := (core.leaveAll connection clock).losePending connection clock
  { core with connections := core.connections.erase connection }

section Lost

variable {core : WovenCore} {connection c : ConnectionId} {clock : ReleaseClock}
  {key k : SessionKey} {reason : ReleaseReason} {now : Instant}

theorem connections_releaseSessionAdmission :
    (core.releaseSessionAdmission connection key reason now).connections = core.connections := by
  rw [releaseSessionAdmission_eq]

theorem memberships_leave :
    k ∈ ((core.leave connection key reason now).connectionAt c).memberships ↔
      k ∈ (core.connectionAt c).memberships ∧ (c = connection → k ≠ key) := by
  have hrelease : (core.releaseSessionAdmission connection key reason now).connectionAt c =
      core.connectionAt c := by
    rw [connectionAt, connections_releaseSessionAdmission, connectionAt]
  have hdropped : ∀ removal, (((core.releaseSessionAdmission connection key reason now).dropRemoved
      key removal).connectionAt c).memberships = (core.connectionAt c).memberships := by
    intro removal
    rw [memberships_dropRemoved, hrelease]
  have hiff : ∀ removal, c ∈ ((core.releaseSessionAdmission connection key reason now).dropRemoved
      key removal).connections ↔ c ∈ core.connections := by
    intro removal
    rw [mem_connections_dropRemoved, connections_releaseSessionAdmission]
  unfold WovenCore.leave detachConnectionFromSession removeEntitiesAndAnchoredSpaces dropMembership
  rw [connectionAt_modifyConnection, connectionAt_modifySession]
  by_cases hc : c = connection
  · subst hc
    by_cases hlive : c ∈ core.connections
    · rw [if_pos ⟨rfl, (hiff _).mpr hlive⟩]
      change k ∈ ExtTreeSet.erase _ key ↔ _
      rw [OrderedSet.mem_erase, hdropped, and_comm]
      simp
    · rw [if_neg fun hand => hlive ((hiff _).mp hand.2), hdropped, connectionAt_of_notMem hlive]
      simp
  · rw [if_neg fun hand => hc hand.1, hdropped]
    simp [hc]

theorem mem_connections_leave :
    c ∈ (core.leave connection key reason now).connections ↔ c ∈ core.connections := by
  unfold WovenCore.leave detachConnectionFromSession removeEntitiesAndAnchoredSpaces dropMembership
  rw [mem_connections_modifyConnection, connections_modifySession, mem_connections_dropRemoved,
    connections_releaseSessionAdmission]

/-- The leaves of a list of sessions, each of which the connection is a member of. -/
theorem foldl_leave {op : Op} {connection : ConnectionId} (hop : op.loses connection)
    (core : WovenCore) (clock : ReleaseClock) (keys : List SessionKey) (hnodup : keys.Nodup)
    (hmember : ∀ k ∈ keys, k ∈ (core.connectionAt connection).memberships) :
    let after := keys.foldl (fun core key =>
      core.leave connection key .unexpected (clock .unexpected connection key)) core
    Changes op core after ∧ (∀ c, c ∈ after.connections ↔ c ∈ core.connections) ∧
      ∀ k, k ∈ (after.connectionAt connection).memberships ↔
        k ∈ (core.connectionAt connection).memberships ∧ k ∉ keys := by
  induction keys generalizing core with
  | nil => exact ⟨.refl, fun _ => Iff.rfl, fun _ => by simp⟩
  | cons key rest ih =>
    obtain ⟨hfresh, hrest⟩ := List.nodup_cons.mp hnodup
    have hleave : Change op core (core.leave connection key .unexpected
        (clock .unexpected connection key)) :=
      .leave connection key _ _ (hop.detaches key) (hmember key List.mem_cons_self)
    obtain ⟨hchanges, hlive, hmemberships⟩ :=
      ih (core.leave connection key .unexpected (clock .unexpected connection key)) hrest
        (by
          intro k hk
          refine memberships_leave.mpr ⟨hmember k (List.mem_cons_of_mem _ hk), fun _ => ?_⟩
          rintro rfl
          exact hfresh hk)
    refine ⟨(Changes.single hleave).trans hchanges, ?_, ?_⟩
    · exact fun c => (hlive c).trans mem_connections_leave
    · intro k
      rw [List.foldl_cons, hmemberships, memberships_leave, List.mem_cons]
      simp only [forall_const]
      tauto

theorem leaveAll_changes {op : Op} {connection : ConnectionId} (hop : op.loses connection)
    (core : WovenCore) (clock : ReleaseClock) :
    Changes op core (core.leaveAll connection clock) ∧
      (∀ c, c ∈ (core.leaveAll connection clock).connections ↔ c ∈ core.connections) ∧
      ∀ k, k ∉ ((core.leaveAll connection clock).connectionAt connection).memberships := by
  obtain ⟨hchanges, hlive, hmemberships⟩ := foldl_leave hop core clock
    (core.connectionAt connection).memberships.toList
    ((core.connectionAt connection).memberships.distinct_toList.imp (by simp)) (by simp)
  refine ⟨hchanges, hlive, fun k hk => ?_⟩
  obtain ⟨hin, hnot⟩ := (hmemberships k).mp hk
  exact hnot (ExtTreeSet.mem_toList.mpr hin)

theorem connections_releasePendingAdmission :
    (core.releasePendingAdmission connection key now).connections = core.connections := by
  rw [releasePendingAdmission_eq]

theorem mem_pendingAdmissions_release {slot : ConnectionId × SessionKey} :
    slot ∈ (core.releasePendingAdmission connection key now).pendingAdmissions ↔
      slot ∈ core.pendingAdmissions ∧ slot ≠ (connection, key) := by
  unfold releasePendingAdmission
  cases hfound : core.pendingAdmissions[(connection, key)]? with
  | none =>
    refine ⟨fun hin => ⟨hin, ?_⟩, And.left⟩
    rintro rfl
    simp [ExtTreeMap.mem_iff_isSome_getElem?, hfound] at hin
  | some lease =>
    change slot ∈ core.pendingAdmissions.erase (connection, key) ↔ _
    rw [OrderedMap.mem_erase, and_comm]

theorem foldl_releasePending {op : Op} {connection : ConnectionId} (hop : op.loses connection)
    (core : WovenCore) (clock : ReleaseClock) (keys : List SessionKey) :
    let after := keys.foldl (fun core session =>
      core.releasePendingAdmission connection session (clock .intentional connection session)) core
    Changes op core after ∧ after.connections = core.connections ∧
      ∀ slot, slot ∈ after.pendingAdmissions ↔
        slot ∈ core.pendingAdmissions ∧ ∀ k ∈ keys, slot ≠ (connection, k) := by
  induction keys generalizing core with
  | nil => exact ⟨.refl, rfl, by simp⟩
  | cons key rest ih =>
    obtain ⟨hchanges, hconnections, hpending⟩ :=
      ih (core.releasePendingAdmission connection key (clock .intentional connection key))
    refine ⟨(Changes.single (.releasePending connection key _ hop)).trans hchanges, ?_, ?_⟩
    · rw [List.foldl_cons, hconnections, connections_releasePendingAdmission]
    · intro slot
      rw [List.foldl_cons, hpending, mem_pendingAdmissions_release]
      simp only [List.mem_cons, forall_eq_or_imp]
      tauto

theorem losePending_changes {op : Op} {connection : ConnectionId} (hop : op.loses connection)
    (core : WovenCore) (clock : ReleaseClock) :
    Changes op core (core.losePending connection clock) ∧
      (core.losePending connection clock).connections = core.connections ∧
      ∀ k, (connection, k) ∉ (core.losePending connection clock).pendingAdmissions := by
  obtain ⟨hchanges, hconnections, hpending⟩ := foldl_releasePending hop core clock
    (core.pendingSessions connection)
  refine ⟨hchanges, hconnections, fun k hk => ?_⟩
  obtain ⟨hin, hnot⟩ := (hpending _).mp hk
  refine hnot k ?_ rfl
  unfold pendingSessions
  refine List.mem_map.mpr ⟨(connection, k), List.mem_filter.mpr ⟨?_, by simp⟩, rfl⟩
  exact ExtTreeMap.mem_keys.mpr hin

theorem lose_changes {op : Op} {connection : ConnectionId} (hop : op.loses connection)
    (core : WovenCore) (clock : ReleaseClock) : Changes op core (core.lose connection clock) := by
  obtain ⟨hleaves, -, hleft⟩ := leaveAll_changes hop core clock
  obtain ⟨hpending, hconnections, hunbound⟩ :=
    losePending_changes hop (core.leaveAll connection clock) clock
  refine (hleaves.trans hpending).tail (.disconnect connection hop ?_ hunbound)
  intro k
  rw [connectionAt, hconnections]
  exact hleft k

theorem mem_connections_lose :
    c ∈ (core.lose connection clock).connections ↔ c ∈ core.connections ∧ c ≠ connection := by
  have hop : (Op.transportLost connection clock).loses connection := rfl
  obtain ⟨-, hlive, -⟩ := leaveAll_changes hop core clock
  obtain ⟨-, hconnections, -⟩ := losePending_changes hop (core.leaveAll connection clock) clock
  change c ∈ ExtTreeMap.erase _ connection ↔ _
  rw [OrderedMap.mem_erase, hconnections, hlive, and_comm]

/-- The membership loop leaves the core that the leaves leave. -/
theorem foldl_loseMembership (keys : List SessionKey) (summary : CleanupSummary) :
    (keys.foldl (loseMembership connection clock) (summary, core)).2 =
      keys.foldl (fun core key =>
        core.leave connection key .unexpected (clock .unexpected connection key)) core := by
  induction keys generalizing summary core with
  | nil => rfl
  | cons key rest ih =>
    rw [List.foldl_cons, List.foldl_cons]
    exact ih _

/-- A known connection is lost, whatever it holds; an unknown one changes nothing. -/
theorem transportLost_ends {Q : CleanupSummary → WovenCore → Prop}
    {E : CoreError → WovenCore → Prop}
    (hunknown : ∀ e, connection.get = 0 ∨ connection ∉ core.connections → E e core)
    (hlost : ∀ summary, connection ∈ core.connections → Q summary (core.lose connection clock)) :
    Ends (transportLost connection clock) core Q E := by
  simp [transportLost]
  refine ⟨fun _ => ⟨?_, fun hnone => hunknown _ (.inr hnone)⟩, fun e he => ?_⟩
  swap
  · refine hunknown e (.inl ?_)
    by_contra hzero
    rw [(validateConnectionId_eq_ok (u := ())).mpr hzero] at he
    cases he
  intro state hstate
  have hlive := OrderedMap.mem_of_getElem? hstate
  obtain rfl := connectionAt_of_some hstate
  rw [foldl_loseMembership]
  refine ⟨fun _ _ => hlost _ hlive, fun hgone => absurd ?_ hgone⟩
  have hop : (Op.transportLost connection clock).loses connection := rfl
  obtain ⟨-, hkept, -⟩ := leaveAll_changes hop core clock
  obtain ⟨-, hconnections, -⟩ := losePending_changes hop (core.leaveAll connection clock) clock
  change connection ∈ ((core.leaveAll connection clock).losePending connection clock).connections
  rwa [hconnections, hkept]

end Lost

end WovenCore

theorem transportLost_makes {core : WovenCore} {connection : ConnectionId}
    {clock : ReleaseClock} :
    Makes (.transportLost connection clock) (transportLost connection clock) core := by
  have hop : (Op.transportLost connection clock).loses connection := rfl
  exact transportLost_ends (fun _ _ => .refl) fun _ _ => lose_changes hop core clock

end Signalweave
