import Signalweave.Core.Effects
import Signalweave.Core.PermitChanges

/-!
# Identities

A connection is numbered when it is made and shows its principal once; an entity is numbered when
it is spawned and belongs to the connection that has spawned it. Numbers are handed out in
increasing order over all sessions and none is used again, and nothing that happens later changes
whose a connection or an entity is.
-/

open Std

namespace Signalweave

open Stateful WovenCore

variable {core core' core'' : WovenCore} {key : SessionKey} {op : Op}
  {c connection : ConnectionId} {id : EntityId}

/-! ## What an operation hands out -/

/-- What is fixed of an entity by its spawn. -/
structure SpawnedEntity where
  entity : EntityId
  session : SessionKey
  owner : ConnectionId
  principal : PrincipalId
  deriving DecidableEq

/-- The connection that an operation makes. -/
def Op.connects (core : WovenCore) : Op → List ConnectionId
  | .transportConnected =>
    match Signalweave.transportConnected core with
    | .ok connection _ => [connection]
    | .error _ _ => []
  | _ => []

/-- The principal that an operation finds a connection to act for. -/
def Op.signsIn (core : WovenCore) : Op → List (ConnectionId × AuthenticatedPrincipal)
  | .authenticate connection credentials =>
    match Signalweave.authenticate connection credentials core with
    | .ok _ core' => ((core'.connectionAt connection).authenticated.map (connection, ·)).toList
    | .error _ _ => []
  | _ => []

/-- The entity that an operation spawns, and whose it is. -/
def Op.spawns (core : WovenCore) : Op → List SpawnedEntity
  | .spawnEntity connection spaceKey epoch =>
    match Signalweave.spawnEntity connection spaceKey epoch core,
        core.authenticatedPrincipal connection with
    | .ok entity _, .ok principal =>
      [{ entity, session := spaceKey.session, owner := connection,
         principal := principal.principalId }]
    | _, _ => []
  | _ => []

/-- The core and everything it has handed out. -/
structure IdentityLog where
  core : WovenCore
  connections : List ConnectionId := []
  principals : List (ConnectionId × AuthenticatedPrincipal) := []
  entities : List SpawnedEntity := []

/-- An operation, with the numbers that it gives out. -/
def IdentityLog.step (log : IdentityLog) (op : Op) : IdentityLog :=
  { core := Signalweave.step log.core op
    connections := log.connections ++ op.connects log.core
    principals := log.principals ++ op.signsIn log.core
    entities := log.entities ++ op.spawns log.core }

/-- The operation hands out nothing. -/
def Op.anonymous : Op → Prop
  | .transportConnected | .authenticate .. | .spawnEntity .. => False
  | _ => True

theorem Op.anonymous.handsOut (h : op.anonymous) :
    op.connects core = [] ∧ op.signsIn core = [] ∧ op.spawns core = [] := by
  cases op <;> first | exact h.elim | exact ⟨rfl, rfl, rfl⟩

/-! ## What stays -/

/-- The connections and entities that are there were there before, and are whose they were. -/
structure Descends (core core' : WovenCore) : Prop where
  live : ∀ c ∈ core'.connections, c ∈ core.connections
  authenticated : ∀ c ∈ core'.connections,
    (core'.connectionAt c).authenticated = (core.connectionAt c).authenticated
  nextConnectionId : core.nextConnectionId ≤ core'.nextConnectionId
  entities : ∀ key (id : EntityId) record, (core'.sessionAt key).entities[id]? = some record →
    ∃ old, (core.sessionAt key).entities[id]? = some old ∧
      old.ownerConnection = record.ownerConnection ∧ old.ownerPrincipal = record.ownerPrincipal
  nextEntityId : core'.nextEntityId = core.nextEntityId

theorem Descends.refl (core : WovenCore) : Descends core core :=
  ⟨fun _ h => h, fun _ _ => rfl, Nat.le_refl _, fun _ _ record h => ⟨record, h, rfl, rfl⟩, rfl⟩

theorem Descends.trans (h : Descends core core') (h' : Descends core' core'') :
    Descends core core'' where
  live c hlive := h.live c (h'.live c hlive)
  authenticated c hlive := (h'.authenticated c hlive).trans (h.authenticated c (h'.live c hlive))
  nextConnectionId := Nat.le_trans h.nextConnectionId h'.nextConnectionId
  entities key id record hrecord := by
    obtain ⟨middle, hmiddle, hconnection, hprincipal⟩ := h'.entities key id record hrecord
    obtain ⟨old, hold, hconnection', hprincipal'⟩ := h.entities key id middle hmiddle
    exact ⟨old, hold, hconnection'.trans hconnection, hprincipal'.trans hprincipal⟩
  nextEntityId := h'.nextEntityId.trans h.nextEntityId

/-- A change of a session other than a spawn leaves the entities to their owners. -/
theorem SessionChange.owners {session : SessionState} (h : SessionChange core key op session)
    (hop : op.anonymous) {record : EntityRecord} (hrecord : session.entities[id]? = some record) :
    ∃ old, (core.sessionAt key).entities[id]? = some old ∧
      old.ownerConnection = record.ownerConnection ∧
        old.ownerPrincipal = record.ownerPrincipal := by
  cases h with
  | remove initial asked =>
    exact ⟨record, (SessionState.mem_dropRemoved_entities.mp hrecord).1, rfl, rfl⟩
  | leave connection initial asked =>
    exact ⟨record, (SessionState.mem_dropRemoved_entities.mp hrecord).1, rfl, rfl⟩
  | spawn => exact hop.elim
  | move connection entity position cell found descriptor entityFound spaceFound valid indexed =>
    rw [SessionState.moveToCell_eq] at hrecord
    replace hrecord : ((core.sessionAt key).entities.modify entity fun record =>
      { record with position := some position })[id]? = some record := hrecord
    rw [OrderedMap.getElem?_modify] at hrecord
    split at hrecord
    · obtain ⟨old, hold, rfl⟩ := Option.map_eq_some_iff.mp hrecord
      exact ⟨old, hold, rfl, rfl⟩
    · exact ⟨record, hrecord, rfl, rfl⟩
  | transition request addressed found checked moves =>
    rw [SessionState.transition_eq] at hrecord
    replace hrecord : ((core.sessionAt key).entities.modify request.entity
      request.place)[id]? = some record := hrecord
    rw [OrderedMap.getElem?_modify] at hrecord
    split at hrecord
    · obtain ⟨old, hold, rfl⟩ := Option.map_eq_some_iff.mp hrecord
      exact ⟨old, hold, rfl, rfl⟩
    · exact ⟨record, hrecord, rfl, rfl⟩
  | commit request addressed now call clock plan planned =>
    rw [SessionState.commit_eq] at hrecord
    exact ⟨record, hrecord, rfl, rfl⟩
  | _ => exact ⟨record, hrecord, rfl, rfl⟩

/-! ## The connections -/

theorem authenticated_modifyConnection {g : ConnectionState → ConnectionState}
    (hg : ∀ state, (g state).authenticated = state.authenticated) :
    ((core.modifyConnection connection g).connectionAt c).authenticated =
      (core.connectionAt c).authenticated := by
  rw [connectionAt_modifyConnection]
  split
  · exact hg _
  · rfl

theorem authenticated_spawn {spaceKey : SpaceKey} {epoch : SpaceEpoch}
    {principal : AuthenticatedPrincipal} :
    ((core.spawn connection spaceKey epoch principal).connectionAt c).authenticated =
      (core.connectionAt c).authenticated := authenticated_modifyConnection fun _ => rfl

/-- No connection has come and none has changed its principal. -/
structure Attached (core core' : WovenCore) : Prop where
  live : ∀ c ∈ core'.connections, c ∈ core.connections
  authenticated : ∀ c ∈ core'.connections,
    (core'.connectionAt c).authenticated = (core.connectionAt c).authenticated
  nextConnectionId : core'.nextConnectionId = core.nextConnectionId
  nextEntityId : core'.nextEntityId = core.nextEntityId

namespace Attached

theorem trans (h : Attached core core') (h' : Attached core' core'') : Attached core core'' where
  live c hlive := h.live c (h'.live c hlive)
  authenticated c hlive := (h'.authenticated c hlive).trans (h.authenticated c (h'.live c hlive))
  nextConnectionId := h'.nextConnectionId.trans h.nextConnectionId
  nextEntityId := h'.nextEntityId.trans h.nextEntityId

theorem of_connections (hconnections : core'.connections = core.connections)
    (hnext : core'.nextConnectionId = core.nextConnectionId)
    (hentity : core'.nextEntityId = core.nextEntityId) : Attached core core' where
  live _ hlive := by rwa [← hconnections]
  authenticated _ _ := by rw [connectionAt, hconnections, connectionAt]
  nextConnectionId := hnext
  nextEntityId := hentity

theorem modifySession {f : SessionState → SessionState} :
    Attached core (core.modifySession key f) := of_connections rfl rfl rfl

theorem modifyConnection {g : ConnectionState → ConnectionState}
    (hg : ∀ state, (g state).authenticated = state.authenticated) :
    Attached core (core.modifyConnection connection g) where
  live _ hlive := mem_connections_modifyConnection.mp hlive
  authenticated _ _ := authenticated_modifyConnection hg
  nextConnectionId := rfl
  nextEntityId := rfl

theorem mapConnections {g : ConnectionId → ConnectionState → ConnectionState}
    (hg : ∀ c state, (g c state).authenticated = state.authenticated) :
    Attached core (core.mapConnections g) where
  live _ hlive := mem_connections_mapConnections.mp hlive
  authenticated _ _ := authenticated_mapConnections hg
  nextConnectionId := rfl
  nextEntityId := rfl

theorem leave {reason : ReleaseReason} {now : Instant} :
    Attached core (core.leave connection key reason now) where
  live _ hlive := mem_connections_leave.mp hlive
  authenticated _ _ := authenticated_leave
  nextConnectionId := by
    show (core.releaseSessionAdmission connection key reason now).nextConnectionId = _
    rw [releaseSessionAdmission_eq]
  nextEntityId := by
    show (core.releaseSessionAdmission connection key reason now).nextEntityId = _
    rw [releaseSessionAdmission_eq]

theorem disconnect :
    Attached core { core with connections := core.connections.erase connection } where
  live _ hlive := (OrderedMap.mem_erase.mp hlive).2
  authenticated _ hlive := by
    have hne := (OrderedMap.mem_erase.mp hlive).1
    rw [connectionAt, OrderedMap.getElem?_erase, if_neg hne, ← connectionAt]
  nextConnectionId := rfl
  nextEntityId := rfl

end Attached

theorem Change.attached (h : Change op core core') (hop : op.anonymous) : Attached core core' := by
  cases h with
  | takeConnectionId | connect | authenticate | spawn => exact hop.elim
  | join connection key asked principal authenticated readsNamespace readsSession provisioned bound
      room =>
    refine Attached.trans ?_ .modifySession
    exact .modifyConnection fun _ => rfl
  | removeEntities key initial asked =>
    exact Attached.modifySession.trans (.mapConnections fun _ _ => rfl)
  | purgeSpace key space proposed gone => exact .mapConnections fun _ _ => rfl
  | advanceEpoch key space proposed descriptor found later empty =>
    refine Attached.trans ?_ .modifySession
    exact .mapConnections fun _ _ => rfl
  | leave connection key reason now asked member => exact .leave
  | subscribe connection spaceKey member installed room =>
    refine Attached.trans ?_ .modifySession
    exact .modifyConnection fun _ => rfl
  | unsubscribe connection spaceKey subscribed =>
    exact Attached.modifySession.trans (.modifyConnection fun _ => rfl)
  | transition request checked moves =>
    exact Attached.modifySession.trans (.mapConnections fun _ _ => rfl)
  | limit request now call clock limiter => exact .modifyConnection fun _ => rfl
  | deliver request now call clock message recipient principal result queue subscribed
      authenticated allowed scope pushed => exact .modifyConnection fun _ => rfl
  | drain connection => exact .modifyConnection fun _ => rfl
  | releasePending connection key now asked =>
    rw [releasePendingAdmission_eq]
    exact .of_connections rfl rfl rfl
  | disconnect connection asked left unbound => exact .disconnect
  | _ => exact .of_connections rfl rfl rfl

theorem Change.descends (h : Change op core core') (hop : op.anonymous) : Descends core core' := by
  have hattached := h.attached hop
  refine ⟨hattached.live, hattached.authenticated, Nat.le_of_eq hattached.nextConnectionId.symm, ?_,
    hattached.nextEntityId⟩
  intro key id record hrecord
  exact (h.session key).owners hop hrecord

theorem Changes.descends (h : Changes op core core') (hop : op.anonymous) : Descends core core' :=
  h.invariant (P := Descends core) (fun _ _ hchange hbefore => hbefore.trans (hchange.descends hop))
    (.refl core)

/-! ## The operations that hand something out -/

/-- A connection that is made gets the next number. -/
theorem transportConnected_connects : Ends transportConnected core
    (fun connection core' => connection = ⟨core.nextConnectionId⟩ ∧ ∃ outbound, core' =
      { core with
        nextConnectionId := core.nextConnectionId + 1
        connections := core.connections.insert connection { outbound } })
    fun _ core' => core' = core ∨
      core' = { core with nextConnectionId := core.nextConnectionId + 1 } := by
  simp [transportConnected]
  intro _ next hnext
  obtain rfl : next = core.nextConnectionId + 1 := by
    simp [checkedSucc] at hnext
    exact hnext.2.symm
  cases OutboundQueue.new core.config.outboundQueue with
  | error error => simp
  | ok outbound =>
    simp
    exact ⟨outbound, rfl⟩

/-- A connection that has no principal gets one. -/
theorem authenticate_signsIn {credentials : Credentials} :
    Ends (authenticate connection credentials) core
      (fun shown core' => connection ∈ core.connections ∧
        (core.connectionAt connection).authenticated = none ∧
          ∃ principal : AuthenticatedPrincipal,
            (core.authenticator.authenticate credentials = .ok principal ∧
              principal.principalId = shown) ∧
            core' = core.modifyConnection connection fun state =>
              { state with authenticated := some principal })
      fun _ core' => core' = core := by
  simp [authenticate, withConnection]
  intro _ state hstate hfresh
  have hlive := OrderedMap.mem_of_getElem? hstate
  obtain rfl := connectionAt_of_some hstate
  cases hvouched : core.authenticator.authenticate credentials with
  | error error => simp
  | ok principal =>
    simp
    intro _
    exact fun _ _ => ⟨hlive, hfresh⟩

/-! ## Over a run -/

namespace IdentityLog

variable {log : IdentityLog}

/-- The log has every number once, and whatever is in the core is whose the log says. -/
structure Lasting (log : IdentityLog) : Prop where
  sound : log.core.Sound
  connectionsRise : log.connections.Pairwise fun first second => first.get < second.get
  connectionsBelow : ∀ c ∈ log.connections, c.get < log.core.nextConnectionId
  live : ∀ c ∈ log.core.connections, c ∈ log.connections
  once : (log.principals.map Prod.fst).Nodup
  known : ∀ entry ∈ log.principals, entry.1 ∈ log.connections
  principal : ∀ c ∈ log.core.connections, ∀ principal,
    (log.core.connectionAt c).authenticated = some principal ↔ (c, principal) ∈ log.principals
  entitiesRise : (log.entities.map SpawnedEntity.entity).Pairwise fun first second =>
    first.get < second.get
  entitiesBelow : ∀ spawned ∈ log.entities, spawned.entity.get < log.core.nextEntityId
  owner : ∀ key (id : EntityId) record, (log.core.sessionAt key).entities[id]? = some record →
    ⟨id, key, record.ownerConnection, record.ownerPrincipal⟩ ∈ log.entities
  signed : ∀ spawned ∈ log.entities, ∃ principal, (spawned.owner, principal) ∈ log.principals ∧
    principal.principalId = spawned.principal

/-- An operation that hands nothing out. -/
theorem Lasting.descend (h : log.Lasting) (hsound : core'.Sound)
    (hdescends : Descends log.core core') : Lasting { log with core := core' } where
  sound := hsound
  connectionsRise := h.connectionsRise
  connectionsBelow c hc := Nat.lt_of_lt_of_le (h.connectionsBelow c hc) hdescends.nextConnectionId
  live c hlive := h.live c (hdescends.live c hlive)
  once := h.once
  known := h.known
  principal c hlive principal := by
    rw [hdescends.authenticated c hlive]
    exact h.principal c (hdescends.live c hlive) principal
  entitiesRise := h.entitiesRise
  entitiesBelow spawned hin := by
    rw [hdescends.nextEntityId]
    exact h.entitiesBelow spawned hin
  owner key id record hrecord := by
    obtain ⟨old, hold, hconnection, hprincipal⟩ := hdescends.entities key id record hrecord
    rw [← hconnection, ← hprincipal]
    exact h.owner key id old hold
  signed := h.signed

theorem Lasting.connect (h : log.Lasting) {outbound : OutboundQueue}
    (hcore : core' = { log.core with
      nextConnectionId := log.core.nextConnectionId + 1
      connections := log.core.connections.insert ⟨log.core.nextConnectionId⟩ { outbound } })
    (hsound : core'.Sound) :
    Lasting { log with
      core := core'
      connections := log.connections ++ [⟨log.core.nextConnectionId⟩] } := by
  subst hcore
  have hfresh : (⟨log.core.nextConnectionId⟩ : ConnectionId) ∉ log.connections :=
    fun hin => Nat.lt_irrefl _ (h.connectionsBelow _ hin)
  refine ⟨hsound, ?_, ?_, ?_, h.once, ?_, ?_, h.entitiesRise, h.entitiesBelow, h.owner, h.signed⟩
  · refine List.pairwise_append.mpr ⟨h.connectionsRise, List.pairwise_singleton _ _, ?_⟩
    intro c hc later hlater
    rw [List.mem_singleton.mp hlater]
    exact h.connectionsBelow c hc
  · intro c hc
    rcases List.mem_append.mp hc with hc | hc
    · exact Nat.lt_succ_of_lt (h.connectionsBelow c hc)
    · rw [List.mem_singleton.mp hc]
      exact Nat.lt_succ_self _
  · intro c hlive
    rcases OrderedMap.mem_insert.mp hlive with rfl | hlive
    · exact List.mem_append_right _ (List.mem_singleton_self _)
    · exact List.mem_append_left _ (h.live c hlive)
  · exact fun entry hin => List.mem_append_left _ (h.known entry hin)
  · intro c hlive principal
    rw [connectionAt, OrderedMap.getElem?_insert]
    split
    · -- Nobody has signed in over a connection that has just been made.
      rename_i hc
      subst hc
      refine iff_of_false (Option.some_ne_none principal).symm fun hin => hfresh (h.known _ hin)
    · rename_i hc
      rw [← connectionAt]
      exact h.principal c ((OrderedMap.mem_insert.mp hlive).resolve_left hc) principal

theorem Lasting.signIn (h : log.Lasting) {principal : AuthenticatedPrincipal}
    (hlive : connection ∈ log.core.connections)
    (hfresh : (log.core.connectionAt connection).authenticated = none)
    (hcore : core' = log.core.modifyConnection connection fun state =>
      { state with authenticated := some principal })
    (hsound : core'.Sound) :
    Lasting { log with
      core := core'
      principals := log.principals ++ [(connection, principal)] } := by
  subst hcore
  have hnew : ∀ principal, (connection, principal) ∉ log.principals := by
    intro principal hin
    have hsome := (h.principal connection hlive principal).mpr hin
    rw [hfresh] at hsome
    cases hsome
  refine ⟨hsound, h.connectionsRise, h.connectionsBelow, ?_, ?_, ?_, ?_, h.entitiesRise,
    h.entitiesBelow, h.owner, ?_⟩
  · exact fun c hc => h.live c (mem_connections_modifyConnection.mp hc)
  · rw [List.map_append]
    refine List.nodup_append.mpr ⟨h.once, List.nodup_singleton _, ?_⟩
    intro c hc other hother
    rw [List.mem_singleton.mp hother]
    rintro rfl
    obtain ⟨entry, hentry, rfl⟩ := List.mem_map.mp hc
    exact hnew entry.2 hentry
  · intro entry hin
    rcases List.mem_append.mp hin with hin | hin
    · exact h.known entry hin
    · rw [List.mem_singleton.mp hin]
      exact h.live connection hlive
  · intro c hc shown
    rw [connectionAt_modifyConnection, List.mem_append, List.mem_singleton, Prod.mk.injEq]
    split
    · rename_i hsame
      obtain rfl := hsame.1
      constructor
      · exact fun heq => Or.inr ⟨rfl, (Option.some.inj heq).symm⟩
      · rintro (hin | ⟨-, rfl⟩)
        · exact absurd hin (hnew shown)
        · rfl
    · rename_i hother
      rw [h.principal c (mem_connections_modifyConnection.mp hc) shown, or_iff_left]
      exact fun hsame => hother ⟨hsame.1, hlive⟩
  · intro spawned hin
    obtain ⟨shown, hshown, hprincipal⟩ := h.signed spawned hin
    exact ⟨shown, List.mem_append_left _ hshown, hprincipal⟩

theorem Lasting.spawn (h : log.Lasting) {spaceKey : SpaceKey} {epoch : SpaceEpoch}
    {principal : AuthenticatedPrincipal} (hkey : spaceKey.session ∈ log.core.sessions)
    (hprincipal : log.core.authenticatedPrincipal connection = .ok principal)
    (hcore : core' = log.core.spawn connection spaceKey epoch principal) (hsound : core'.Sound) :
    Lasting { log with
      core := core'
      entities := log.entities ++
        [⟨⟨log.core.nextEntityId⟩, spaceKey.session, connection, principal.principalId⟩] } := by
  subst hcore
  obtain ⟨state, hstate, hshown⟩ := authenticatedPrincipal_eq_ok.mp hprincipal
  rw [← connectionAt_of_some hstate] at hshown
  have hlive := OrderedMap.mem_of_getElem? hstate
  refine ⟨hsound, h.connectionsRise, h.connectionsBelow, ?_, h.once, h.known, ?_, ?_, ?_, ?_, ?_⟩
  · exact fun c hc => h.live c (mem_connections_modifyConnection.mp hc)
  · intro c hc shown
    show ((log.core.spawn connection spaceKey epoch principal).connectionAt c).authenticated = _ ↔ _
    rw [authenticated_spawn]
    exact h.principal c (mem_connections_modifyConnection.mp hc) shown
  · rw [List.map_append]
    refine List.pairwise_append.mpr ⟨h.entitiesRise, List.pairwise_singleton _ _, ?_⟩
    intro id hid later hlater
    obtain ⟨spawned, hspawned, rfl⟩ := List.mem_map.mp hid
    rw [List.mem_singleton.mp hlater]
    exact h.entitiesBelow spawned hspawned
  · intro spawned hin
    rcases List.mem_append.mp hin with hin | hin
    · exact Nat.lt_succ_of_lt (h.entitiesBelow spawned hin)
    · rw [List.mem_singleton.mp hin]
      exact Nat.lt_succ_self _
  · intro key id record hrecord
    rw [entities_spawn hkey] at hrecord
    split at hrecord
    · rename_i hnew
      obtain ⟨rfl, rfl⟩ := hnew
      obtain rfl := Option.some.inj hrecord
      exact List.mem_append_right _ (List.mem_singleton_self _)
    · exact List.mem_append_left _ (h.owner key id record hrecord)
  · intro spawned hin
    rcases List.mem_append.mp hin with hin | hin
    · exact h.signed spawned hin
    · rw [List.mem_singleton.mp hin]
      exact ⟨principal, (h.principal connection hlive principal).mp hshown, rfl⟩

theorem Lasting.step_transportConnected (h : log.Lasting) :
    (log.step .transportConnected).Lasting := by
  have hsound := sound_step h.sound .transportConnected
  have hstep : Signalweave.step log.core .transportConnected =
      after transportConnected log.core := after_discard _ _
  unfold IdentityLog.step
  rw [hstep] at hsound ⊢
  simp only [Op.connects, Op.signsIn, Op.spawns, List.append_nil]
  rcases returns_or_fails transportConnected log.core with ⟨c, hends⟩ | ⟨e, hends⟩
  · rw [show transportConnected log.core = .ok c _ from hends]
    obtain ⟨rfl, outbound, hcore⟩ := transportConnected_connects.returns hends
    exact h.connect hcore hsound
  · rw [show transportConnected log.core = .error e _ from hends]
    dsimp only
    rw [List.append_nil]
    apply h.descend hsound
    rcases transportConnected_connects.fails hends with heq | heq <;> rw [heq]
    · exact .refl _
    · exact ⟨fun _ hlive => hlive, fun _ _ => rfl, Nat.le_succ _,
        fun _ _ record hrecord => ⟨record, hrecord, rfl, rfl⟩, rfl⟩

theorem Lasting.step_authenticate (h : log.Lasting) {credentials : Credentials} :
    (log.step (.authenticate connection credentials)).Lasting := by
  have hsound := sound_step h.sound (.authenticate connection credentials)
  have hstep : Signalweave.step log.core (.authenticate connection credentials) =
      after (authenticate connection credentials) log.core := after_discard _ _
  unfold IdentityLog.step
  rw [hstep] at hsound ⊢
  simp only [Op.connects, Op.signsIn, Op.spawns, List.append_nil]
  rcases returns_or_fails (authenticate connection credentials) log.core with
    ⟨shown, hends⟩ | ⟨e, hends⟩
  · rw [show authenticate connection credentials log.core = .ok shown _ from hends]
    obtain ⟨hlive, hfresh, principal, -, hcore⟩ := authenticate_signsIn.returns hends
    have hnow : ((after (authenticate connection credentials) log.core).connectionAt
        connection).authenticated = some principal := by
      rw [hcore, connectionAt_modifyConnection, if_pos ⟨rfl, hlive⟩]
    dsimp only
    rw [hnow]
    exact h.signIn hlive hfresh hcore hsound
  · rw [show authenticate connection credentials log.core = .error e _ from hends]
    dsimp only
    rw [List.append_nil]
    apply h.descend hsound
    rw [authenticate_signsIn.fails hends]
    exact .refl _

theorem Lasting.step_spawnEntity (h : log.Lasting) {spaceKey : SpaceKey} {epoch : SpaceEpoch} :
    (log.step (.spawnEntity connection spaceKey epoch)).Lasting := by
  have hsound := sound_step h.sound (.spawnEntity connection spaceKey epoch)
  have hstep : Signalweave.step log.core (.spawnEntity connection spaceKey epoch) =
      after (spawnEntity connection spaceKey epoch) log.core := after_discard _ _
  unfold IdentityLog.step
  rw [hstep] at hsound ⊢
  simp only [Op.connects, Op.signsIn, Op.spawns, List.append_nil]
  rcases returns_or_fails (spawnEntity connection spaceKey epoch) log.core with
    ⟨id, hends⟩ | ⟨e, hends⟩
  · obtain ⟨rfl, hkey, ⟨principal, hprincipal, hcore⟩, -⟩ := spawnEntity_spawns.returns hends
    rw [show spawnEntity connection spaceKey epoch log.core = .ok _ _ from hends, hprincipal]
    exact h.spawn hkey hprincipal hcore hsound
  · rw [show spawnEntity connection spaceKey epoch log.core = .error e _ from hends]
    dsimp only
    rw [List.append_nil]
    apply h.descend hsound
    rw [spawnEntity_spawns.fails hends]
    exact .refl _

theorem Lasting.step (h : log.Lasting) (op : Op) : (log.step op).Lasting := by
  by_cases hop : op.anonymous
  · obtain ⟨hconnects, hsigns, hspawns⟩ := @Op.anonymous.handsOut log.core op hop
    have hnext := h.descend (sound_step h.sound op) ((changes_step h.sound op).descends hop)
    unfold IdentityLog.step
    rw [hconnects, hsigns, hspawns, List.append_nil, List.append_nil, List.append_nil]
    exact hnext
  · cases op with
    | transportConnected => exact h.step_transportConnected
    | authenticate connection credentials => exact h.step_authenticate
    | spawnEntity connection spaceKey epoch => exact h.step_spawnEntity
    | _ => exact absurd trivial hop

theorem lasting_start (h : Initial core) : Lasting { core } where
  sound := h.empty.sound
  connectionsRise := List.Pairwise.nil
  connectionsBelow := nofun
  live c hlive := by
    rw [h.empty.connections] at hlive
    exact absurd hlive ExtTreeMap.not_mem_empty
  once := List.nodup_nil
  known := nofun
  principal c hlive := by
    rw [h.empty.connections] at hlive
    exact absurd hlive ExtTreeMap.not_mem_empty
  entitiesRise := List.Pairwise.nil
  entitiesBelow := nofun
  owner key id record hrecord := by
    rw [h.empty.sessionAt] at hrecord
    simp at hrecord
  signed := nofun

end IdentityLog

/-- Over any run connections and entities are numbered in increasing order, so that no number is
used twice; a connection shows one principal, which it keeps; and every entity that is there is the
one that was spawned under its number, in the session and for the connection and the principal it
was spawned for. -/
theorem run_identities (h : Initial core) (ops : List Op) :
    let log := Transition.run IdentityLog.step { core } ops
    log.connections.Pairwise (fun first second => first.get < second.get) ∧
      (log.principals.map Prod.fst).Nodup ∧
      (log.entities.map SpawnedEntity.entity).Pairwise
        (fun first second => first.get < second.get) ∧
      (∀ c ∈ log.core.connections, c ∈ log.connections ∧ ∀ principal,
        (log.core.connectionAt c).authenticated = some principal ↔
          (c, principal) ∈ log.principals) ∧
      (∀ key (id : EntityId) record, (log.core.sessionAt key).entities[id]? = some record →
        ⟨id, key, record.ownerConnection, record.ownerPrincipal⟩ ∈ log.entities) ∧
      ∀ spawned ∈ log.entities, ∃ principal, (spawned.owner, principal) ∈ log.principals ∧
        principal.principalId = spawned.principal := by
  have hlasting : IdentityLog.Lasting (Transition.run IdentityLog.step { core } ops) :=
    Transition.run_invariant (fun _ op hlasting => hlasting.step op)
      (IdentityLog.lasting_start h) ops
  exact ⟨hlasting.connectionsRise, hlasting.once, hlasting.entitiesRise,
    fun c hlive => ⟨hlasting.live c hlive, hlasting.principal c hlive⟩, hlasting.owner,
    hlasting.signed⟩

namespace Sample

/-- Three entities, the first of them gone before the last one comes. -/
def respawned : List Op :=
  setup ++ [.spawnEntity ⟨1⟩ (spaceKey 1) ⟨1⟩, .spawnEntity ⟨1⟩ (spaceKey 1) ⟨1⟩,
    .removeEntity ⟨1⟩ session ⟨1⟩, .spawnEntity ⟨1⟩ (spaceKey 1) ⟨1⟩]

end Sample

theorem run_identities_respawned :
    let log := Transition.run IdentityLog.step { core := Sample.core } Sample.respawned
    log.entities.map SpawnedEntity.entity = [⟨1⟩, ⟨2⟩, ⟨3⟩] ∧
      (⟨1⟩ : EntityId) ∉ (log.core.sessionAt Sample.session).entities ∧
        (log.entities.map SpawnedEntity.entity).Pairwise
          fun first second => first.get < second.get :=
  ⟨by decide +kernel, by decide +kernel, (run_identities Sample.initial Sample.respawned).2.2.1⟩

end Signalweave
