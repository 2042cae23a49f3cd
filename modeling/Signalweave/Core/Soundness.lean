import Signalweave.Core.Delivery

/-!
# Every reachable state is sound

Each operation is a list of changes, each change keeps the state sound, and a new core is sound.
-/

open Std

namespace Signalweave

open Stateful WovenCore

variable {core : WovenCore}

theorem publishAt_makes {request : PublishRequest} {now : Instant} {call : Nat}
    {clock : ReleaseClock} (h : core.Sound) :
    Makes (.publishAt request now call clock) (publishAt request now call clock) core := by
  apply publishAt_ends h
  · exact fun _ => .refl
  · exact fun _ limiter => .single (.limit request now call clock limiter)
  · intro limiter plan fan fanned _ hplan hfanned _
    have hcommit : Changes (.publishAt request now call clock) core
        ((core.limited request.connection limiter).commitPlan request.session plan) :=
      (Changes.single (.limit request now call clock limiter)).tail
        (.commit request now call clock plan hplan)
    have hop : ∀ connection, (Op.publishAt request now call clock).loses connection :=
      fun _ => trivial
    exact (hcommit.trans hfanned.changes).trans (loseAll_changes hop fanned _ clock)

/-- Every operation is made of changes, whichever way it ends. -/
theorem makes_call (h : core.Sound) (op : Op) : Makes op op.call core := by
  cases op with
  | registerChannel => exact registerChannel_makes
  | provisionSession => exact provisionSession_makes
  | configureSessionAdmission => exact configureSessionAdmission_makes
  | applySessionCapacityAt => exact ends_bind.mpr applySessionCapacityAt_makes
  | requestSessionAdmissionAt => exact ends_bind.mpr requestSessionAdmissionAt_makes
  | installSpace => exact installSpace_makes.makes
  | advanceSpaceEpoch => exact ends_bind.mpr (advanceSpaceEpoch_makes h.consistent)
  | transportConnected => exact ends_bind.mpr transportConnected_makes.makes
  | authenticate => exact ends_bind.mpr authenticate_makes.makes
  | joinSession => exact joinSession_makes
  | joinSessionWithAdmission => exact joinSessionWithAdmission_makes
  | leaveSession => exact ends_bind.mpr leaveSession_makes
  | subscribe => exact (subscribe_makes h.consistent).makes
  | unsubscribe => exact ends_bind.mpr unsubscribe_makes
  | spawnEntity => exact ends_bind.mpr spawnEntity_makes.makes
  | updateEntityPosition => exact updateEntityPosition_makes
  | removeEntity => exact ends_bind.mpr removeEntity_makes
  | transitionEntity => exact ends_bind.mpr transitionEntity_makes.makes
  | publishAt => exact ends_bind.mpr (publishAt_makes h)
  | drainOutbound => exact ends_bind.mpr drainOutbound_makes
  | popJournalRecord => exact ends_bind.mpr popJournalRecord_makes
  | transportLost => exact ends_bind.mpr transportLost_makes

theorem changes_step (h : core.Sound) (op : Op) : Changes op core (step core op) :=
  (makes_call h op).after

theorem sound_step (h : core.Sound) (op : Op) : (step core op).Sound := (changes_step h op).sound h

theorem Change.config {op : Op} {core' : WovenCore} (h : Change op core core') :
    core'.config = core.config := by
  cases h with
  | leave connection key reason now asked member =>
    show (core.releaseSessionAdmission connection key reason now).config = _
    rw [releaseSessionAdmission_eq]
  | releasePending connection key now asked =>
    rw [releasePendingAdmission_eq]
  | _ => rfl

theorem Changes.config {op : Op} {core' : WovenCore} (h : Changes op core core') :
    core'.config = core.config :=
  h.invariant (P := fun after => after.config = core.config)
    (fun _ _ hchange heq => hchange.config.trans heq) rfl

/-- A channel stays as it was registered. -/
theorem Change.channels {op : Op} {core' : WovenCore} (h : Change op core core') {id : ChannelId}
    {channel : ChannelDefinition} (hchannel : core.channels[id]? = some channel) :
    core'.channels[id]? = some channel := by
  cases h with
  | registerChannel added fresh room =>
    rw [OrderedMap.getElem?_insert, if_neg]
    · exact hchannel
    · rintro rfl
      exact fresh (OrderedMap.mem_of_getElem? hchannel)
  | leave connection key reason now asked member =>
    show (core.releaseSessionAdmission connection key reason now).channels[id]? = _
    rw [releaseSessionAdmission_eq]
    exact hchannel
  | releasePending connection key now asked =>
    rw [releasePendingAdmission_eq]
    exact hchannel
  | _ => exact hchannel

theorem channels_step (h : core.Sound) (op : Op) {id : ChannelId} {channel : ChannelDefinition}
    (hchannel : core.channels[id]? = some channel) :
    (step core op).channels[id]? = some channel :=
  (changes_step h op).invariant (P := fun after => after.channels[id]? = some channel)
    (fun _ _ hchange hin => hchange.channels hin) hchannel

/-- A core that has just been built. -/
structure Empty (core : WovenCore) : Prop where
  sessions : core.sessions = ∅
  connections : core.connections = ∅
  admissions : core.admissions = ∅
  pendingAdmissions : core.pendingAdmissions = ∅
  admissionLeases : core.admissionLeases = ∅
  nextConnectionId : core.nextConnectionId = 1
  nextEntityId : core.nextEntityId = 1

theorem Initial.empty (h : Initial core) : Empty core := by
  obtain ⟨authenticator, config, hnew⟩ := h
  simp only [WovenCore.new, Except.bind_eq_ok, Except.pure_eq_ok] at hnew
  obtain ⟨_, _, rfl⟩ := hnew
  exact ⟨rfl, rfl, rfl, rfl, rfl, rfl, rfl⟩

theorem Empty.sessionAt (h : Empty core) (key : SessionKey) : core.sessionAt key = {} := by
  rw [WovenCore.sessionAt, h.sessions]
  rfl

theorem Empty.connectionAt (h : Empty core) (connection : ConnectionId) :
    core.connectionAt connection = { outbound := { config := {} } } := by
  rw [WovenCore.connectionAt, h.connections]
  rfl

theorem Empty.sound (h : Empty core) : core.Sound := by
  refine ⟨⟨?_, ?_, ?_, ?_, ?_, ?_, ?_, ?_, ?_⟩, ?_, ?_⟩
  · intro key
    rw [h.sessionAt]
    exact SessionState.consistent_empty
  · intro connection key
    rw [h.sessionAt, h.connectionAt]
    simp
  · intro connection key space
    rw [h.sessionAt, h.connectionAt]
    simp [SessionState.subscribersOf]
  · intro connection spaceKey
    rw [h.connectionAt]
    simp
  · intro connection
    rw [h.connectionAt, ownedCount, h.sessions]
    rfl
  · intro connection hlive
    simp [h.connections] at hlive
  · rw [h.nextConnectionId]
    exact Nat.one_pos
  · intro key id hid
    rw [h.sessionAt] at hid
    simp at hid
  · rw [h.nextEntityId]
    exact Nat.one_pos
  · intro connection
    rw [h.connectionAt]
    exact OutboundQueue.wellFormed_start _
  · intro connection message hholds
    rw [h.connectionAt] at hholds
    exact absurd hholds OutboundQueue.not_holds_start

theorem config_run (h : core.Sound) (ops : List Op) :
    (Transition.run step core ops).config = core.config := by
  have hstep : ∀ (before : WovenCore) (op : Op), before.Sound ∧ before.config = core.config →
      (step before op).Sound ∧ (step before op).config = core.config := by
    intro before op hbefore
    exact ⟨sound_step hbefore.1 op, (changes_step hbefore.1 op).config.trans hbefore.2⟩
  exact (Transition.run_invariant hstep ⟨h, rfl⟩ ops).2

/-- What holds of a new core and is kept by every change of a sound state holds of every reachable
state. -/
theorem Reachable.induction {P : WovenCore → Prop} (hempty : ∀ core, Empty core → P core)
    (hchange : ∀ op core core', core.Sound → Change op core core' → P core → P core')
    (h : Reachable core) : P core := by
  have hboth : core.Sound ∧ P core := by
    refine Transition.Reachable.invariant (P := fun core => core.Sound ∧ P core) ?_ ?_ h
    · exact fun core hinit => ⟨hinit.empty.sound, hempty core hinit.empty⟩
    · rintro core op ⟨hsound, hp⟩
      have hchanges := changes_step hsound op
      refine hchanges.invariant (P := fun core => core.Sound ∧ P core) ?_ ⟨hsound, hp⟩
      rintro before after hstep ⟨hbefore, hpbefore⟩
      exact ⟨hstep.sound hbefore, hchange op before after hbefore hstep hpbefore⟩
  exact hboth.2

theorem Reachable.sound (h : Reachable core) : core.Sound :=
  Transition.Reachable.invariant (P := WovenCore.Sound) (fun _ hinit => hinit.empty.sound)
    (fun _ op hsound => sound_step hsound op) h

end Signalweave
