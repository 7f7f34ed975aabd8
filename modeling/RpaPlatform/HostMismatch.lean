import RpaPlatform.AgentTeardown

namespace RpaPlatform.Agents

open Transition

/-!
# The status of an agent on an unexpected host

When a heartbeat names a host that is not the expected one, its handler stores
`hostname_mismatch` and leaves the session.  `cleanup_connection` runs next and
stores `registered` for the same agent, whatever its row says.
-/

namespace SocketSystem

def status (sys : SocketSystem) (agentId : String) : Option AgentStatus :=
  (sys.registry.getAgent agentId).map fun row => row.status

end SocketSystem

/--
The heartbeat handler has stored that the host is another one, and is about to
leave the session of an authenticated agent.
-/
structure AgentSession.RejectsHost
    (session : AgentSession)
    (agentId : String) : Prop where
  leaves :
    ∃ call,
      session.point = .upserting call .committing true ∧
        call.agentId = agentId ∧
        call.change.status = some .hostnameMismatch
  connection :
    session.connection = { clientId := some agentId, authenticated := true }
  /-- The handler stores nothing for an agent without a name. -/
  named : agentId ≠ ""

/--
The steps by which no handshake, heartbeat or deployment changes the status of
an agent.
-/
def LeavesStatus
    (agentId : String)
    (sys : SocketSystem) : SocketAction → Prop
  | .upsert socket true _ =>
    ∀ session ∈ sys.sessions[socket]?,
      ∀ call existing leaves,
        session.point = .upserting call (.writing existing) leaves →
        call.agentId ≠ agentId
  | .changeRegistry registry =>
    (registry.getAgent agentId).map (fun row => row.status) = sys.status agentId
  | _ => True

/-- The steps by which a clean-up executes its statement for an agent. -/
def StoresRegistered
    (agentId : String)
    (sys : SocketSystem) : SocketAction → Prop
  | .clean socket true _ =>
    ∃ session ∈ sys.sessions[socket]?,
      ∃ call existing,
        session.point = .cleaning call (.writing existing) ∧
          call.agentId = agentId
  | _ => False

/-! ### What a step does to the registry -/

namespace SocketSystem

/-- The registry after a step. -/
def registryAfter (sys : SocketSystem) : SocketAction → AgentRegistry
  | .upsert socket true _ =>
    match sys.sessions[socket]?.map AgentSession.point with
    | some (.upserting call (.writing existing) _) =>
      (sys.write call existing).registry
    | _ => sys.registry
  | .clean socket true _ =>
    match sys.sessions[socket]?.map AgentSession.point with
    | some (.cleaning call (.writing existing)) =>
      (sys.write call existing).registry
    | _ => sys.registry
  | .changeRegistry registry => registry
  | _ => sys.registry

variable
    (sys : SocketSystem)
    (socket : Nat)
    (session : AgentSession)

@[simp]
theorem registry_startCleanup (now : Int) :
    (sys.startCleanup socket session now).registry = sys.registry := by
  unfold startCleanup
  split <;> rfl

@[simp]
theorem registry_judge
    (clientId : String)
    (now : Int)
    (verdict : Verdict) :
    (sys.judge socket session clientId now verdict).registry =
      sys.registry := by
  cases verdict with
  | rejected expired =>
    cases expired with
    | none => exact sys.registry_startCleanup socket session now
    | some deploymentId => rfl
  | _ => rfl

@[simp]
theorem registry_register
    (clientId : String)
    (now : Int) :
    (sys.register socket session clientId now).registry = sys.registry := by
  unfold register
  dsimp only
  split
  · rfl
  · split <;> rfl

@[simp]
theorem registry_heartbeat
    (library : TextLibrary)
    (payload : HeartbeatData)
    (now : Int) :
    (sys.heartbeat library socket session payload now).registry =
      sys.registry := by
  unfold heartbeat
  dsimp only
  split
  · split <;> rfl
  · exact sys.registry_startCleanup socket session now

@[simp]
theorem registry_record
    (clientId : String)
    (metrics : JsonObject)
    (now : Int)
    (check : HostCheck) :
    (sys.record socket session clientId metrics now check).registry =
      sys.registry := by
  cases check <;> rfl

end SocketSystem

section Steps

variable
    {library : TextLibrary}
    {before after : SocketSystem}
    {action : SocketAction}
    {agentId : String}

variable
    {socket : Nat}
    {session : AgentSession}
    {call : UpsertCall}

/-- A session's step changes the registry only as `registryAfter` says. -/
theorem registry_of_sessionStep
    (isSocket : action.socket = some socket)
    (isSession : before.sessions[socket]? = some session)
    (went : sessionStep? library before socket session action = some after) :
    after.registry = before.registryAfter action := by
  cases sessionTaken went with
  | @upsert _ done now call stage leaves isUpserting =>
    cases isSocket
    cases done with
    | false =>
      rfl
    | true =>
      dsimp only [SocketSystem.registryAfter]
      rw [isSession, Option.map_some, isUpserting, if_pos rfl]
      cases stage with
      | reading =>
        rfl
      | writing existing =>
        rfl
      | committing =>
        cases leaves with
        | true => exact before.registry_startCleanup _ session now
        | false => rfl
  | @clean _ done now call stage isCleaning =>
    cases isSocket
    cases done with
    | false =>
      rfl
    | true =>
      dsimp only [SocketSystem.registryAfter]
      rw [isSession, Option.map_some, isCleaning, if_pos rfl]
      cases stage with
      | reading => rfl
      | writing existing => rfl
      | committing => rfl
  | @authorize _ _ verdict now =>
    exact before.registry_judge _ session _ now verdict
  | @greeted _ _ sent now =>
    cases sent with
    | true => exact before.registry_register _ session _ now
    | false => rfl
  | @receiveHeartbeat _ payload now =>
    exact before.registry_heartbeat _ session library payload now
  | @checkHost _ _ check now =>
    exact before.registry_record _ session _ _ now check
  | @disconnect _ now =>
    exact before.registry_startCleanup _ session now
  | receiveHandshake | replaced | resume =>
    rfl

theorem registry_of_step
    (taken : socketStep? library before action = some after) :
    after.registry = before.registryAfter action := by
  unfold socketStep? at taken
  split at taken
  · rename_i socket isSocket
    obtain ⟨session, isSession, went⟩ := Option.bind_eq_some_iff.mp taken
    exact registry_of_sessionStep isSocket isSession went
  · split at taken
    all_goals
      cases taken
      try rfl

theorem status_write_other
    (other : call.agentId ≠ agentId)
    (existing : Option AgentRecord) :
    (before.write call existing).status agentId = before.status agentId := by
  unfold SocketSystem.status
  refine congrArg (Option.map _) ?_
  exact (KeyedTable.find?_upsert _ _ _ _ agentId).trans (if_neg other)

theorem status_write_cleanup
    {stage : UpsertStage}
    (stores : session.StoresOffline)
    (isCleaning : session.point = .cleaning call stage)
    (existing : Option AgentRecord) :
    (before.write call existing).status call.agentId = some .registered := by
  obtain ⟨_, time, isChange⟩ := stores call stage isCleaning
  have written :
      (before.write call existing).presence call.agentId =
        some (.registered, .offline, some time) :=
    presence_write isChange existing
  obtain ⟨row, found, told⟩ := Option.map_eq_some_iff.mp written
  unfold SocketSystem.status
  rw [found, Option.map_some, (Prod.mk.inj told).1]

theorem status_of_storesRegistered
    (holds : CleansUpOwn before)
    (taken : socketStep? library before action = some after)
    (stores : StoresRegistered agentId before action) :
    after.status agentId = some .registered := by
  have changed := registry_of_step taken
  cases action with
  | clean socket done now =>
    cases done with
    | false =>
      exact stores.elim
    | true =>
      obtain ⟨session, isSession, call, existing, isCleaning, rfl⟩ := stores
      dsimp only [SocketSystem.registryAfter] at changed
      rw [Option.mem_def.mp isSession, Option.map_some, isCleaning] at changed
      unfold SocketSystem.status
      rw [changed]
      exact
        status_write_cleanup (holds socket session isSession) isCleaning
          existing
  | _ => exact stores.elim

theorem status_of_not_storesRegistered
    (taken : socketStep? library before action = some after)
    (leaves : LeavesStatus agentId before action)
    (spares : ¬ StoresRegistered agentId before action) :
    after.status agentId = before.status agentId := by
  have changed := registry_of_step taken
  have same :
      after.registry = before.registry →
        after.status agentId = before.status agentId :=
    fun equal => by rw [SocketSystem.status, equal]; rfl
  cases action with
  | upsert socket done now =>
    cases done with
    | false =>
      exact same changed
    | true =>
      dsimp only [SocketSystem.registryAfter] at changed
      split at changed
      · rename_i call existing leavesSession found
        obtain ⟨session, isSession, isUpserting⟩ :=
          Option.map_eq_some_iff.mp found
        have other :=
          leaves session isSession call existing leavesSession isUpserting
        unfold SocketSystem.status
        rw [changed]
        exact status_write_other other existing
      · exact same changed
  | clean socket done now =>
    cases done with
    | false =>
      exact same changed
    | true =>
      dsimp only [SocketSystem.registryAfter] at changed
      split at changed
      · rename_i call existing found
        obtain ⟨session, isSession, isCleaning⟩ :=
          Option.map_eq_some_iff.mp found
        have other : call.agentId ≠ agentId := fun equal =>
          spares ⟨session, isSession, call, existing, isCleaning, equal⟩
        unfold SocketSystem.status
        rw [changed]
        exact status_write_other other existing
      · exact same changed
  | changeRegistry registry =>
    unfold SocketSystem.status
    rw [changed]
    exact leaves
  | _ => exact same changed

theorem sessions_of_step_other
    (taken : socketStep? library before action = some after)
    (isSession : before.sessions[socket]? = some session)
    (other : action.socket ≠ some socket) :
    after.sessions[socket]? = some session := by
  have moved :
      ∀ {position : Nat} {next : AgentSession},
        action.socket = some position →
        (before.sessions.set position next)[socket]? = some session := by
    intro position next isSocket
    have different : position ≠ socket := fun equal =>
      other (isSocket.trans (congrArg some equal))
    exact (List.getElem?_set_ne different).trans isSession
  unfold socketStep? at taken
  split at taken
  · rename_i position isSocket
    obtain ⟨current, _, went⟩ := Option.bind_eq_some_iff.mp taken
    rcases sessionStep_cases went with
      ⟨_, done, now, call, stage, _, _, rfl⟩ | ⟨now, rfl⟩ |
        ⟨next, _, same | ⟨same, _⟩⟩
    · cases done with
      | false =>
        exact moved isSocket
      | true =>
        rw [if_pos rfl]
        obtain ⟨point, same⟩ := before.sessions_stepCleanup call now stage
        rw [same]
        exact moved isSocket
    · obtain ⟨point, same⟩ := before.sessions_startCleanup now
      rw [same]
      exact moved isSocket
    · rw [same]
      exact moved isSocket
    · rw [same]
      exact isSession
  · split at taken
    · cases taken
      rw [List.getElem?_append_left (List.getElem?_eq_some_iff.mp isSession).1]
      exact isSession
    all_goals
      cases taken
      try exact isSession

/-! ### The clean-up of the session -/

/-- What the status is known to be where a clean-up is. -/
def KnownStatus (status : Option AgentStatus) : SessionPoint → Prop
  | .cleaning _ .committing => status = some .registered
  | .cleaning _ _ => True
  | .ended cleanedUp => cleanedUp = true → status = some .registered
  | _ => False

/-- The session of an agent is being cleaned up, or has been. -/
structure CleansUp
    (agentId : String)
    (socket : Nat)
    (sys : SocketSystem) : Prop where
  own : CleansUpOwn sys
  session :
    ∃ session,
      sys.sessions[socket]? = some session ∧
        session.connection.clientId = some agentId ∧
        KnownStatus (sys.status agentId) session.point

theorem KnownStatus.changed
    {status later : Option AgentStatus}
    {point : SessionPoint}
    (known : KnownStatus status point)
    (kept : later = status ∨ later = some .registered) :
    KnownStatus later point := by
  rcases kept with rfl | registered
  · exact known
  · cases point with
    | cleaning call stage =>
      cases stage with
      | committing => exact registered
      | reading => trivial
      | writing existing => trivial
    | ended cleanedUp => exact fun _ => registered
    | _ => exact known.elim

theorem status_of_step
    (holds : CleansUpOwn before)
    (taken : socketStep? library before action = some after)
    (leaves : LeavesStatus agentId before action) :
    after.status agentId = before.status agentId ∨
      after.status agentId = some .registered := by
  by_cases stores : StoresRegistered agentId before action
  · exact .inr (status_of_storesRegistered holds taken stores)
  · exact .inl (status_of_not_storesRegistered taken leaves stores)

theorem clean_of_tearsDown
    (tearsDown : session.point.tearsDown = true)
    (went : sessionStep? library before socket session action = some after) :
    ∃ position done now call stage,
      action = .clean position done now ∧
        session.point = .cleaning call stage ∧
        after = if done then
            before.stepCleanup socket session call now stage
          else
            before.goTo socket session (.ended false) := by
  obtain ⟨connection, point⟩ := session
  cases point with
  | cleaning call stage =>
    cases action with
    | clean position done now =>
      cases went
      exact ⟨position, done, now, call, stage, rfl, rfl, rfl⟩
    | _ => cases went
  | ended cleanedUp =>
    cases action <;> cases went
  | _ => cases tearsDown

theorem KnownStatus.tearsDown
    {status : Option AgentStatus}
    {point : SessionPoint}
    (known : KnownStatus status point) :
    point.tearsDown = true := by
  cases point with
  | cleaning => rfl
  | ended => rfl
  | _ => exact known.elim

theorem CleansUp.clean
    {stage : UpsertStage}
    {now : Int}
    (own : CleansUpOwn before)
    (taken :
      socketStep? library before (.clean socket true now) =
        some (before.stepCleanup socket session call now stage))
    (isSession : before.sessions[socket]? = some session)
    (isClient : session.connection.clientId = some agentId)
    (isCleaning : session.point = .cleaning call stage)
    (known : KnownStatus (before.status agentId) session.point) :
    CleansUp agentId socket
      (before.stepCleanup socket session call now stage) := by
  have itsAgent : call.agentId = agentId :=
    Option.some.inj
      (((own socket session isSession call stage isCleaning).1).symm.trans
        isClient)
  have placed :
      ∀ {next : AgentSession},
        (before.sessions.set socket next)[socket]? = some next :=
    List.getElem?_set_self (List.getElem?_eq_some_iff.mp isSession).1
  refine ⟨own.step taken, ?_⟩
  cases stage with
  | reading =>
    exact ⟨_, placed, isClient, trivial⟩
  | writing existing =>
    refine ⟨_, placed, isClient, ?_⟩
    exact
      status_of_storesRegistered own taken
        ⟨session, isSession, call, existing, isCleaning, itsAgent⟩
  | committing =>
    rw [isCleaning] at known
    exact ⟨_, placed, isClient, fun _ => known⟩

theorem CleansUp.step
    (holds : CleansUp agentId socket before)
    (taken : socketStep? library before action = some after)
    (leaves : LeavesStatus agentId before action) :
    CleansUp agentId socket after := by
  obtain ⟨own, session, isSession, isClient, known⟩ := holds
  by_cases here : action.socket = some socket
  · have went := taken
    unfold socketStep? at went
    rw [here] at went
    dsimp only at went
    rw [isSession, Option.bind_some] at went
    obtain ⟨position, done, now, call, stage, rfl, isCleaning, rfl⟩ :=
      clean_of_tearsDown known.tearsDown went
    cases here
    cases done with
    | true =>
      exact .clean own taken isSession isClient isCleaning known
    | false =>
      refine ⟨own.step taken, { session with point := .ended false }, ?_,
        isClient, nofun⟩
      exact List.getElem?_set_self (List.getElem?_eq_some_iff.mp isSession).1
  · exact
      ⟨own.step taken, session, sessions_of_step_other taken isSession here,
        isClient, known.changed (status_of_step own taken leaves)⟩

theorem AgentSession.RejectsHost.cleansUp
    {now : Int}
    (rejects : session.RejectsHost agentId)
    (own : CleansUpOwn before)
    (isSession : before.sessions[socket]? = some session)
    (ends : socketStep? library before (.upsert socket true now) = some after) :
    CleansUp agentId socket after ∧
      after.status agentId = before.status agentId := by
  refine ⟨⟨own.step ends, ?_⟩, ?_⟩
  · obtain ⟨⟨call, isPoint, _, _⟩, isConnection, named⟩ := rejects
    have placed :
        ∀ {next : AgentSession},
          (before.sessions.set socket next)[socket]? = some next :=
      List.getElem?_set_self (List.getElem?_eq_some_iff.mp isSession).1
    obtain ⟨connection, point⟩ := session
    obtain rfl : connection = _ := isConnection
    obtain rfl : point = _ := isPoint
    have left : after = before.startCleanup socket
            { connection :=
                { clientId := some agentId, authenticated := true }
              point := .upserting call .committing true }
            now := by
      unfold socketStep? SocketAction.socket at ends
      dsimp only at ends
      rw [isSession] at ends
      exact (Option.some.inj ends).symm
    rw [left]
    unfold SocketSystem.startCleanup
    dsimp only
    rw [Option.filter_some, if_pos (decide_eq_true named)]
    exact ⟨_, placed, rfl, trivial⟩
  · refine status_of_not_storesRegistered ends ?_ fun stores => stores.elim
    intro current isCurrent call existing leaves isWriting
    obtain ⟨⟨_, isPoint, _, _⟩, _, _⟩ := rejects
    rw [isSession] at isCurrent
    cases isCurrent
    rw [isPoint] at isWriting
    cases isWriting

theorem registered_of_run
    {actions : List SocketAction}
    (run :
      Run (Guarded (Fires (socketStep? library)) (LeavesStatus agentId))
        before actions after)
    (own : CleansUpOwn before)
    (registered : before.status agentId = some .registered) :
    after.status agentId = some .registered := by
  have both : CleansUpOwn after ∧ after.status agentId = some .registered := by
    refine
      @Run.preserves _ _ _
        (fun sys =>
          CleansUpOwn sys ∧ sys.status agentId = some .registered)
        ?_ _ _ _ run ⟨own, registered⟩
    rintro before action after ⟨taken, leaves⟩ ⟨own, registered⟩
    refine ⟨own.step taken, ?_⟩
    rcases status_of_step own taken leaves with same | stored
    · exact same.trans registered
    · exact stored
  exact both.2

theorem hostnameMismatch_iff_of_run
    {actions : List SocketAction}
    (run :
      Run (Guarded (Fires (socketStep? library)) (LeavesStatus agentId))
        before actions after)
    (own : CleansUpOwn before)
    (stored : before.status agentId = some .hostnameMismatch) :
    after.status agentId = some .hostnameMismatch ↔
      Run
        (Guarded (Fires (socketStep? library))
          fun sys action => ¬ StoresRegistered agentId sys action)
        before actions after := by
  induction run with
  | nil state =>
    exact iff_of_true stored (.nil state)
  | @cons before middle after action rest guarded later inductionHypothesis =>
    obtain ⟨taken, leaves⟩ := guarded
    by_cases stores : StoresRegistered agentId before action
    · have registered :=
        registered_of_run later (own.step taken)
          (status_of_storesRegistered own taken stores)
      refine iff_of_false (by rw [registered]; decide) ?_
      intro spared
      cases spared with
      | cons first _ => exact first.2 stores
    · have kept := status_of_not_storesRegistered taken leaves stores
      refine
        (inductionHypothesis (own.step taken)
          (kept.trans stored)).trans ⟨fun spared => ?_, fun spared => ?_⟩
      · exact .cons ⟨taken, stores⟩ spared
      · cases spared with
        | cons first spared =>
          obtain rfl :=
            Option.some.inj (first.1.symm.trans taken)
          exact spared

/--
A heartbeat from an unexpected host ends the session of an authenticated agent,
and no handshake, heartbeat or deployment changes the agent's status after
that.  It stays `hostname_mismatch` exactly as long as no clean-up executes its
statement for the agent.  Where the clean-up of the session has run to its end
it is `registered`.
-/
theorem hostnameMismatch_kept_iff
    {registry : AgentRegistry}
    {left : SocketSystem}
    {session : AgentSession}
    {socket : Nat}
    {now : Int}
    {earlier actions : List SocketAction}
    (run : Run (Fires (socketStep? library)) (.started registry) earlier before)
    (isSession : before.sessions[socket]? = some session)
    (rejects : session.RejectsHost agentId)
    (stored : before.status agentId = some .hostnameMismatch)
    (ends : Fires (socketStep? library) before (.upsert socket true now) left)
    (goesOn :
      Run (Guarded (Fires (socketStep? library)) (LeavesStatus agentId))
        left actions after) :
    (after.status agentId = some .hostnameMismatch ↔
        Run
          (Guarded (Fires (socketStep? library))
            fun sys action => ¬ StoresRegistered agentId sys action)
          left actions after) ∧
      (after.cleanedUp socket = true →
        after.status agentId = some .registered) := by
  have own : CleansUpOwn before := by
    refine run.preserves ?_ fun _ _ => nofun
    exact fun _ _ _ step holds => holds.step step
  obtain ⟨starts, kept⟩ := rejects.cleansUp own isSession ends
  constructor
  · exact hostnameMismatch_iff_of_run goesOn starts.own (kept.trans stored)
  · intro cleanedUp
    have holds : CleansUp agentId socket after :=
      goesOn.preserves
        (fun _ _ _ guarded holds => holds.step guarded.1 guarded.2) starts
    obtain ⟨_, current, isCurrent, _, known⟩ := holds
    obtain ⟨_, isSame, ended⟩ := SocketSystem.cleanedUp_iff.mp cleanedUp
    rw [isCurrent] at isSame
    cases isSame
    rw [ended] at known
    exact known rfl

end Steps

/-- The condition, with the session read once. -/
def LeavesStatusSimply
    (agentId : String)
    (sys : SocketSystem) : SocketAction → Prop
  | .upsert socket true _ =>
    sys.sessions[socket]?.all
      (fun session =>
        match session.point with
        | .upserting call (.writing _) _ => call.agentId ≠ agentId
        | _ => true) =
      true
  | .changeRegistry _ => False
  | _ => True

instance
    (agentId : String)
    (sys : SocketSystem)
    (action : SocketAction) :
    Decidable (LeavesStatusSimply agentId sys action) := by
  unfold LeavesStatusSimply
  split <;> infer_instance

theorem LeavesStatusSimply.leavesStatus
    {agentId : String}
    {sys : SocketSystem}
    {action : SocketAction}
    (simply : LeavesStatusSimply agentId sys action) :
    LeavesStatus agentId sys action := by
  unfold LeavesStatus
  split
  · rename_i socket now
    intro session isSession call existing leaves isWriting
    dsimp only [LeavesStatusSimply] at simply
    rw [Option.mem_def.mp isSession, Option.all_some, isWriting] at simply
    exact of_decide_eq_true simply
  · exact simply.elim
  · trivial

/-- Whether the heartbeat handler is about to leave the session. -/
def AgentSession.rejectsHost
    (agentId : String)
    (session : AgentSession) : Bool :=
  (match session.point with
    | .upserting call .committing true =>
      call.agentId = agentId && call.change.status = some .hostnameMismatch
    | _ => false) &&
  session.connection.clientId = some agentId &&
  session.connection.authenticated &&
  agentId ≠ ""

theorem AgentSession.rejectsHost_spec
    {agentId : String}
    {session : AgentSession}
    (rejects : session.rejectsHost agentId = true) :
    session.RejectsHost agentId := by
  obtain ⟨⟨clientId, authenticated⟩, point⟩ := session
  simp only [rejectsHost, Bool.and_eq_true, decide_eq_true_eq] at rejects
  obtain ⟨⟨⟨isPoint, rfl⟩, rfl⟩, named⟩ := rejects
  split at isPoint
  · rename_i call
    rw [Bool.and_eq_true, decide_eq_true_eq, decide_eq_true_eq] at isPoint
    exact ⟨⟨call, rfl, isPoint.1, isPoint.2⟩, rfl, named⟩
  · cases isPoint

/-- A heartbeat names no host, but one is expected. -/
def unexpectedHost : List SocketAction :=
  .connect :: acceptedHandshake 0 "a" 0 ++
    [.receiveHeartbeat 0 { clientId := "a" } 1,
      .checkHost 0 (.unexpected "host") 1, .upsert 0 true 1,
      .upsert 0 true 1]

def cleanedUpAfterwards : List SocketAction :=
  [.clean 0 true 2, .clean 0 true 2, .clean 0 true 2]

theorem unexpectedHost_run :
    ∃ before left after session,
      Run (Fires (socketStep? asciiTextLibrary)) (.started .empty)
          unexpectedHost before ∧
        before.sessions[0]? = some session ∧
        session.RejectsHost "a" ∧
        before.status "a" = some .hostnameMismatch ∧
        Fires (socketStep? asciiTextLibrary) before (.upsert 0 true 1) left ∧
        Run
          (Guarded (Fires (socketStep? asciiTextLibrary)) (LeavesStatus "a"))
          left cleanedUpAfterwards after ∧
        after.cleanedUp 0 = true ∧
        after.status "a" = some .registered := by
  obtain ⟨before, left, run, ends, isBefore, isLeft⟩ :=
    exists_runs_of_execute
      (show (execute (socketStep? asciiTextLibrary) (.started .empty)
          unexpectedHost).any
          (fun sys : SocketSystem =>
            sys.status "a" = some .hostnameMismatch &&
              sys.sessions[0]?.any (·.rejectsHost "a")) = true by
        decide +kernel)
      (show (execute (socketStep? asciiTextLibrary) (.started .empty)
          (unexpectedHost ++ [.upsert 0 true 1])).any
          (fun sys : SocketSystem =>
            (execute
              (checked (socketStep? asciiTextLibrary) (LeavesStatusSimply "a"))
              sys cleanedUpAfterwards).any
            fun after =>
              after.cleanedUp 0 &&
                after.status "a" = some .registered) = true by
        decide +kernel)
  rw [Bool.and_eq_true, decide_eq_true_eq, Option.any_eq_true] at isBefore
  obtain ⟨stored, session, isSession, rejects⟩ := isBefore
  obtain ⟨after, goesOn, isAfter⟩ := exists_run_of_execute isLeft
  rw [Bool.and_eq_true, decide_eq_true_eq] at isAfter
  cases ends with
  | cons taken rest =>
    cases rest
    exact ⟨before, left, after, session, run, isSession,
      AgentSession.rejectsHost_spec rejects, stored, taken,
      goesOn.guarded_of_checked.relax fun _ _ =>
        LeavesStatusSimply.leavesStatus,
      isAfter⟩

/-- That session's clean-up stores `registered`. -/
theorem unexpectedHost_registered :
    ∃ left after,
      Run
          (Guarded (Fires (socketStep? asciiTextLibrary)) (LeavesStatus "a"))
          left cleanedUpAfterwards after ∧
        after.cleanedUp 0 = true ∧
        after.status "a" = some .registered := by
  obtain ⟨_, left, after, _, run, isSession, rejects, stored, ends, goesOn,
    cleanedUp, _⟩ := unexpectedHost_run
  have kept :=
    hostnameMismatch_kept_iff run isSession rejects stored ends goesOn
  exact ⟨left, after, goesOn, cleanedUp, kept.2 cleanedUp⟩

/--
The status of an agent on an unexpected host stays while no handshake, no
heartbeat and no deployment changes it.
-/
def HostnameMismatchSurvives
    (step : SocketSystem → SocketAction → SocketSystem → Prop) : Prop :=
  ∀ {registry : AgentRegistry} {before left after : SocketSystem}
    {session : AgentSession} {socket : Nat} {agentId : String} {now : Int}
    {earlier actions : List SocketAction},
    Run step (.started registry) earlier before →
    before.sessions[socket]? = some session →
    session.RejectsHost agentId →
    before.status agentId = some .hostnameMismatch →
    step before (.upsert socket true now) left →
    Run (Guarded step (LeavesStatus agentId)) left actions after →
    after.cleanedUp socket = true →
    after.status agentId = some .hostnameMismatch

theorem not_hostnameMismatchSurvives :
    ¬ HostnameMismatchSurvives (Fires (socketStep? asciiTextLibrary)) := by
  intro survives
  obtain ⟨_, left, after, _, run, isSession, rejects, stored, ends, goesOn,
    cleanedUp, registered⟩ := unexpectedHost_run
  have claimed :=
    survives run isSession rejects stored ends goesOn cleanedUp
  rw [registered] at claimed
  cases claimed

end RpaPlatform.Agents
