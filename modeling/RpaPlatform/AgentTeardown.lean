import RpaPlatform.AgentSocketOwner

namespace RpaPlatform.Agents

open Transition

/-!
# The teardown of a connection that was replaced

When an agent connects again, the session of its earlier connection is still to
be torn down, and the two overlap in any order.  `unregister_agent` looks at
which websocket is registered.  `cleanup_connection` stores before that that
the agent is offline, and does not look.
-/

/-- Whether a session is being torn down. -/
def SessionPoint.tearsDown : SessionPoint → Bool
  | cleaning .. => true
  | ended _ => true
  | _ => false

namespace SocketSystem

/-- What an agent's row says of its presence. -/
def presence
    (sys : SocketSystem)
    (agentId : String) :
    Option (AgentStatus × ConnectionStatus × Option Int) :=
  (sys.registry.getAgent agentId).map fun row =>
    (row.status, row.connectionStatus, row.lastSeenAt)

/-- The runtime state and the presence of an agent are as before. -/
structure Undisturbed
    (agentId : String)
    (before after : SocketSystem) : Prop where
  latestStats :
    after.runtime.latestStats.lookup agentId =
      before.runtime.latestStats.lookup agentId
  activeAgents : after.active agentId = before.active agentId
  prevProcessStates :
    after.runtime.prevProcessStates.lookup agentId =
      before.runtime.prevProcessStates.lookup agentId
  presence : after.presence agentId = before.presence agentId

end SocketSystem

/--
No step that starts or continues the teardown of a session disturbs the
session's agent while another websocket is registered for it.
-/
def StaleTeardownInert
    (step : SocketSystem → SocketAction → SocketSystem → Prop) : Prop :=
  ∀ {registry : AgentRegistry} {before after : SocketSystem}
    {actions : List SocketAction} {action : SocketAction},
    Run step (.started registry) actions before →
    step before action after →
    ∀ {socket registered : Nat} {session : AgentSession}
      {agentId : String},
      action.socket = some socket →
      after.sessions[socket]? = some session →
      session.point.tearsDown = true →
      session.connection.clientId = some agentId →
      before.active agentId = some registered →
      registered ≠ socket →
      before.Undisturbed agentId after

/--
The condition under which a teardown is inert.  When it stores that the agent
is offline, either no other websocket is registered for the agent, or the row
says just that already.
-/
def TearsDownAlone (sys : SocketSystem) : SocketAction → Prop
  | .clean socket true _ =>
    ∀ session ∈ sys.sessions[socket]?,
      ∀ call existing,
        session.point = .cleaning call (.writing existing) →
        (∀ registered,
            sys.active call.agentId = some registered →
            registered = socket) ∨
          sys.presence call.agentId =
            some (.registered, .offline, call.change.lastSeenAt)
  | _ => True

/-! ### The steps of a teardown -/

section Steps

variable
    {library : TextLibrary}
    {before after : SocketSystem}
    {socket : Nat}
    {session : AgentSession}

/-- A session goes on, or stays where it is, outside of a teardown. -/
def GoesOn
    (before after : SocketSystem)
    (socket : Nat)
    (session : AgentSession) : Prop :=
  ∃ next : AgentSession,
    next.point.tearsDown = false ∧
      (after.sessions = before.sessions.set socket next ∨
        after.sessions = before.sessions ∧ next = session)

/-- A session starts its teardown, or goes on. -/
def LeavesOrGoesOn
    (before after : SocketSystem)
    (socket : Nat)
    (session : AgentSession) : Prop :=
  (∃ now, after = before.startCleanup socket session now) ∨
    GoesOn before after socket session

theorem goesOn_goTo
    (same : after.sessions = before.sessions)
    {point : SessionPoint}
    (quiet : point.tearsDown = false) :
    GoesOn before (after.goTo socket session point) socket session := by
  refine ⟨{ session with point }, quiet, .inl ?_⟩
  rw [← same]
  rfl

theorem judge_cases
    (clientId : String)
    (now : Int)
    (verdict : Verdict) :
    LeavesOrGoesOn before
      (before.judge socket session clientId now verdict) socket session := by
  cases verdict with
  | accepted =>
    exact .inr ⟨_, rfl, .inl rfl⟩
  | rejected expired =>
    cases expired with
    | none =>
      exact .inl ⟨now, rfl⟩
    | some deploymentId =>
      exact .inr (goesOn_goTo rfl rfl)
  | unexpectedHost | raises =>
    exact .inr (goesOn_goTo rfl rfl)

theorem register_goesOn
    (clientId : String)
    (now : Int) :
    GoesOn before (before.register socket session clientId now) socket
      session := by
  unfold SocketSystem.register
  dsimp only
  split
  · exact goesOn_goTo rfl rfl
  · split
    · exact goesOn_goTo rfl rfl
    · exact goesOn_goTo rfl rfl

theorem heartbeat_cases
    (isReceiving : session.point = .receiving)
    (payload : HeartbeatData)
    (now : Int) :
    LeavesOrGoesOn before
      (before.heartbeat library socket session payload now) socket
      session := by
  unfold SocketSystem.heartbeat
  split
  · dsimp only
    split
    · refine .inr ⟨session, ?_, .inr ⟨rfl, rfl⟩⟩
      rw [isReceiving]
      rfl
    · exact .inr (goesOn_goTo rfl rfl)
  · exact .inl ⟨now, rfl⟩

theorem record_goesOn
    (clientId : String)
    (metrics : JsonObject)
    (now : Int)
    (check : HostCheck) :
    GoesOn before
      (before.record socket session clientId metrics now check) socket
      session := by
  cases check with
  | expected | unexpected | raises =>
    exact goesOn_goTo rfl rfl

theorem stepUpsert_cases
    (call : UpsertCall)
    (leaves : Bool)
    (now : Int)
    (stage : UpsertStage) :
    LeavesOrGoesOn before
      (before.stepUpsert socket session call leaves now stage) socket
      session := by
  cases stage with
  | reading | writing =>
    exact .inr (goesOn_goTo rfl rfl)
  | committing =>
    cases leaves with
    | true =>
      exact .inl ⟨now, rfl⟩
    | false =>
      exact .inr (goesOn_goTo rfl rfl)

/-- A step of a session continues its teardown, starts it, or goes on. -/
theorem sessionStep_cases
    {action : SocketAction}
    (taken : sessionStep? library before socket session action = some after) :
    (∃ position done now call stage,
        action = .clean position done now ∧
          session.point = .cleaning call stage ∧
          after = if done then
              before.stepCleanup socket session call now stage
            else
              before.goTo socket session (.ended false)) ∨
      LeavesOrGoesOn before after socket session := by
  cases sessionTaken taken with
  | @clean position done now call stage isCleaning =>
    exact .inl ⟨position, done, now, call, stage, rfl, isCleaning, rfl⟩
  | receiveHandshake | replaced =>
    exact .inr (.inr (goesOn_goTo rfl rfl))
  | @authorize _ _ verdict now =>
    exact .inr (judge_cases _ now verdict)
  | @greeted _ _ sent now =>
    cases sent with
    | true =>
      exact .inr (.inr (register_goesOn _ now))
    | false =>
      exact .inr (.inr (goesOn_goTo rfl rfl))
  | @receiveHeartbeat _ payload now isReceiving =>
    exact .inr (heartbeat_cases isReceiving payload now)
  | @checkHost _ _ check now =>
    exact .inr (.inr (record_goesOn _ _ now check))
  | @upsert _ done now =>
    cases done with
    | true =>
      exact .inr (stepUpsert_cases _ _ now _)
    | false =>
      exact .inr (.inr (goesOn_goTo rfl rfl))
  | @disconnect _ now =>
    exact .inr (.inl ⟨now, rfl⟩)
  | resume isReceiving =>
    refine .inr (.inr ⟨session, ?_, .inr ⟨rfl, rfl⟩⟩)
    rw [isReceiving]
    rfl

end Steps

/-! ### What a clean-up stores -/

/-- A session that cleans up stores that its agent is offline. -/
def AgentSession.StoresOffline (session : AgentSession) : Prop :=
  ∀ call stage,
    session.point = .cleaning call stage →
    session.connection.clientId = some call.agentId ∧
      ∃ time,
        call.change =
          { status := some .registered
            connectionStatus := some .offline
            lastSeenAt := some time }

def CleansUpOwn (sys : SocketSystem) : Prop :=
  ∀ (socket : Nat) session,
    sys.sessions[socket]? = some session → session.StoresOffline

section Invariant

variable
    {library : TextLibrary}
    {before after : SocketSystem}
    {socket : Nat}
    {session : AgentSession}

theorem AgentSession.storesOffline_of_quiet
    (quiet : session.point.tearsDown = false) :
    session.StoresOffline := by
  intro call stage isCleaning
  rw [isCleaning] at quiet
  cases quiet

section Keeping

variable
    (holds : CleansUpOwn before)
include holds

theorem CleansUpOwn.set
    {next : AgentSession}
    (moved : after.sessions = before.sessions.set socket next)
    (stores : next.StoresOffline) :
    CleansUpOwn after := by
  intro position current isCurrent
  rw [moved] at isCurrent
  rcases getElem?_set_cases isCurrent with ⟨_, rfl⟩ | ⟨_, unchanged⟩
  · exact stores
  · exact holds position current unchanged

theorem CleansUpOwn.startCleanup
    (now : Int) :
    CleansUpOwn (before.startCleanup socket session now) := by
  unfold SocketSystem.startCleanup
  split
  · exact holds.set rfl fun _ _ => nofun
  · rename_i agentId named
    refine holds.set rfl ?_
    intro call stage isCleaning
    cases isCleaning
    exact ⟨(Option.filter_eq_some_iff.mp named).1, now, rfl⟩

theorem CleansUpOwn.stepCleanup
    {call : UpsertCall}
    {stage : UpsertStage}
    (isSession : before.sessions[socket]? = some session)
    (isCleaning : session.point = .cleaning call stage)
    (now : Int) :
    CleansUpOwn (before.stepCleanup socket session call now stage) := by
  have stores := holds socket session isSession call stage isCleaning
  cases stage with
  | reading | writing existing =>
    refine holds.set rfl ?_
    intro next point continues
    cases continues
    exact stores
  | committing =>
    exact holds.set rfl fun _ _ => nofun

theorem CleansUpOwn.goesOn
    (goesOn : GoesOn before after socket session) :
    CleansUpOwn after := by
  obtain ⟨next, quiet, moved | ⟨same, _⟩⟩ := goesOn
  · exact holds.set moved (AgentSession.storesOffline_of_quiet quiet)
  · intro position current isCurrent
    rw [same] at isCurrent
    exact holds position current isCurrent

theorem CleansUpOwn.sessionStep
    (isSession : before.sessions[socket]? = some session)
    {action : SocketAction}
    (taken : sessionStep? library before socket session action = some after) :
    CleansUpOwn after := by
  rcases sessionStep_cases taken with
    ⟨_, done, now, call, stage, _, isCleaning, rfl⟩ | ⟨now, rfl⟩ | goesOn
  · cases done with
    | true =>
      exact holds.stepCleanup isSession isCleaning now
    | false =>
      exact holds.set rfl fun _ _ => nofun
  · exact holds.startCleanup now
  · exact holds.goesOn goesOn

theorem CleansUpOwn.step
    {action : SocketAction}
    (taken : socketStep? library before action = some after) :
    CleansUpOwn after := by
  unfold socketStep? at taken
  split at taken
  · obtain ⟨session, isSession, went⟩ := Option.bind_eq_some_iff.mp taken
    exact holds.sessionStep isSession went
  · split at taken
    · cases taken
      intro socket session isSession
      rcases getElem?_append_cases isSession with rfl | earlier
      · exact AgentSession.storesOffline_of_quiet rfl
      · exact holds socket session earlier
    · cases taken
      exact holds
    · cases taken
      exact holds
    · cases taken
      exact holds
    · cases taken
      exact holds
    · cases taken
      exact holds
    · cases taken

end Keeping

end Invariant

/-! ### A teardown beside another connection -/

section Teardown

variable
    {before after : SocketSystem}
    {socket registered : Nat}
    {session : AgentSession}
    {agentId : String}

theorem undisturbed_finishCleanup
    (named : ∀ clientId ∈ session.connection.clientId, clientId = agentId)
    (isActive : before.active agentId = some registered)
    (different : registered ≠ socket)
    (now : Int) :
    before.Undisturbed agentId (before.finishCleanup socket session now) := by
  have unchanged :
      (before.runtime.unregisterAgent session.connection.clientId socket
          now).1.changed =
        before.runtime := by
    unfold AgentRuntime.unregisterAgent
    split
    · rfl
    · rename_i clientId isClient
      obtain rfl := named clientId (Option.filter_eq_some_iff.mp isClient).1
      unfold SocketSystem.active at isActive
      rw [isActive]
      dsimp only
      rw [if_pos different]
  constructor
  · exact congrArg (·.latestStats.lookup agentId) unchanged
  · exact congrArg (·.activeAgents.lookup agentId) unchanged
  · exact congrArg (·.prevProcessStates.lookup agentId) unchanged
  · rfl

theorem SocketSystem.sessions_startCleanup
    (sys : SocketSystem)
    (now : Int) :
    ∃ point,
      (sys.startCleanup socket session now).sessions =
        sys.sessions.set socket { session with point } := by
  unfold SocketSystem.startCleanup
  split
  · exact ⟨_, rfl⟩
  · exact ⟨_, rfl⟩

theorem SocketSystem.sessions_stepCleanup
    (sys : SocketSystem)
    (call : UpsertCall)
    (now : Int)
    (stage : UpsertStage) :
    ∃ point,
      (sys.stepCleanup socket session call now stage).sessions =
        sys.sessions.set socket { session with point } := by
  cases stage with
  | reading | writing | committing =>
    exact ⟨_, rfl⟩

theorem undisturbed_goTo (point : SessionPoint) :
    before.Undisturbed agentId (before.goTo socket session point) :=
  ⟨rfl, rfl, rfl, rfl⟩

theorem undisturbed_startCleanup
    (named : ∀ clientId ∈ session.connection.clientId, clientId = agentId)
    (isActive : before.active agentId = some registered)
    (different : registered ≠ socket)
    (now : Int) :
    before.Undisturbed agentId (before.startCleanup socket session now) := by
  unfold SocketSystem.startCleanup
  split
  · exact undisturbed_finishCleanup named isActive different now
  · exact undisturbed_goTo _

theorem presence_write
    {call : UpsertCall}
    {time : Int}
    (isChange :
      call.change =
        { status := some .registered
          connectionStatus := some .offline
          lastSeenAt := some time })
    (existing : Option AgentRecord) :
    (before.write call existing).presence call.agentId =
      some (.registered, .offline, some time) := by
  have written :=
    before.registry.getAgent_writeAgent
      (mergeAgent call.agentId existing call.change call.time)
  unfold SocketSystem.presence SocketSystem.write
  rw [show
      (before.registry.writeAgent
          (mergeAgent call.agentId existing call.change
            call.time)).getAgent call.agentId =
        _ from written]
  rw [isChange, Option.map_some]
  generalize before.registry.getAgent _ = stored
  cases stored with
  | none | some =>
    rfl

theorem undisturbed_write
    {call : UpsertCall}
    {existing : Option AgentRecord}
    (isCleaning : session.point = .cleaning call (.writing existing))
    (stores : session.StoresOffline)
    (isClient : session.connection.clientId = some agentId)
    (isActive : before.active agentId = some registered)
    (different : registered ≠ socket)
    (alone :
      (∀ registered,
          before.active call.agentId = some registered →
          registered = socket) ∨
        before.presence call.agentId =
          some (.registered, .offline, call.change.lastSeenAt))
    (point : SessionPoint) :
    before.Undisturbed agentId
      ((before.write call existing).goTo socket session point) := by
  obtain ⟨named, time, isChange⟩ := stores call _ isCleaning
  obtain rfl : agentId = call.agentId :=
    Option.some.inj (isClient.symm.trans named)
  rcases alone with unregistered | already
  · exact (different (unregistered registered isActive)).elim
  · refine ⟨rfl, rfl, rfl, ?_⟩
    rw [already, isChange]
    exact presence_write isChange existing

end Teardown

/--
Where the condition is met, the teardown of a connection that was replaced
leaves the agent as it is.
-/
theorem staleTeardownInert_of_tearsDownAlone (library : TextLibrary) :
    StaleTeardownInert
      (Guarded (Fires (socketStep? library)) TearsDownAlone) := by
  rintro registry before after actions action run ⟨taken, alone⟩ socket
    registered next agentId isSocket isNext isTornDown isClient isActive
    different
  have holds : CleansUpOwn before := by
    refine run.preserves ?_ fun _ _ => nofun
    exact fun _ _ _ step holds => holds.step step.1
  unfold Fires socketStep? at taken
  rw [isSocket] at taken
  obtain ⟨session, isSession, went⟩ := Option.bind_eq_some_iff.mp taken
  have placed :
      ∀ {later : AgentSession},
        (before.sessions.set socket later)[socket]? = some later :=
    List.getElem?_set_self (List.getElem?_eq_some_iff.mp isSession).1
  -- The step leaves the connection of the session as it is.
  have kept :
      ∀ {point : SessionPoint},
        after.sessions = before.sessions.set socket { session with point } →
        session.connection.clientId = some agentId := by
    intro point moved
    rw [moved, placed] at isNext
    cases isNext
    exact isClient
  rcases sessionStep_cases went with
    ⟨position, done, now, call, stage, rfl, isCleaning, rfl⟩ |
      ⟨now, rfl⟩ | ⟨later, quiet, moved | ⟨same, rfl⟩⟩
  · cases isSocket
    cases done with
    | false =>
      exact undisturbed_goTo _
    | true =>
      obtain ⟨point, moved⟩ := before.sessions_stepCleanup call now stage
      have isOwner := kept moved
      cases stage with
      | reading =>
        exact undisturbed_goTo _
      | writing existing =>
        exact undisturbed_write isCleaning
          (holds socket session isSession) isOwner isActive different
          (alone session isSession call existing isCleaning) _
      | committing =>
        refine undisturbed_finishCleanup ?_ isActive different now
        intro clientId named
        rw [isOwner] at named
        exact (Option.some.inj named).symm
  · obtain ⟨point, moved⟩ := before.sessions_startCleanup now
    refine undisturbed_startCleanup ?_ isActive different now
    intro clientId named
    rw [kept moved] at named
    exact (Option.some.inj named).symm
  · rw [moved, placed] at isNext
    cases isNext
    rw [quiet] at isTornDown
    cases isTornDown
  · rw [same, isSession] at isNext
    cases isNext
    rw [quiet] at isTornDown
    cases isTornDown

/-- The condition, with the registered websocket read once. -/
def TearsDownAloneSimply (sys : SocketSystem) : SocketAction → Prop
  | .clean socket true _ =>
    sys.sessions[socket]?.all
      (fun session =>
        match session.point with
        | .cleaning call (.writing _) =>
          (sys.active call.agentId).all (· = socket)
        | _ => true) =
      true
  | _ => True

instance (sys : SocketSystem) (action : SocketAction) :
    Decidable (TearsDownAloneSimply sys action) := by
  unfold TearsDownAloneSimply
  split <;> infer_instance

theorem TearsDownAloneSimply.tearsDownAlone
    {sys : SocketSystem}
    {action : SocketAction}
    (simply : TearsDownAloneSimply sys action) :
    TearsDownAlone sys action := by
  unfold TearsDownAlone
  split
  · rename_i socket now
    intro session isSession call existing isCleaning
    left
    intro registered isActive
    dsimp only [TearsDownAloneSimply] at simply
    rw [Option.mem_def.mp isSession, Option.all_some, isCleaning] at simply
    dsimp only at simply
    rw [isActive, Option.all_some] at simply
    exact of_decide_eq_true simply
  · trivial

/--
The earlier connection stores that the agent is offline; the agent's new
connection is registered, and stores that it is online.
-/
def overlappingTeardown : List SocketAction :=
  .connect :: acceptedHandshake 0 "a" 0 ++
    [.connect, .receiveHandshake 1 "a", .authorize 1 .accepted 1,
      .disconnect 0 2, .clean 0 true 2, .clean 0 true 2,
      .greeted 1 true 2, .replaced 1 2, .upsert 1 true 2,
      .upsert 1 true 3]

theorem overlappingTeardown_inert :
    ∃ before after,
      Run
        (Guarded (Fires (socketStep? asciiTextLibrary)) TearsDownAlone)
        (.started .empty) overlappingTeardown before ∧
        Guarded (Fires (socketStep? asciiTextLibrary)) TearsDownAlone before
          (.clean 0 true 3) after ∧
        after.cleanedUp 0 = true ∧
        after.active "a" = some 1 ∧
        after.presence "a" = some (.registered, .online, some 2) := by
  obtain ⟨before, after, checkedRun, checkedStep, isBefore, isAfter⟩ :=
    exists_runs_of_execute
      (show (execute
          (checked (socketStep? asciiTextLibrary) TearsDownAloneSimply)
          (.started .empty) overlappingTeardown).any
          (fun sys : SocketSystem =>
            sys.active "a" = some 1 &&
              sys.presence "a" = some (.registered, .online, some 2)) =
            true by
        decide)
      (show (execute
          (checked (socketStep? asciiTextLibrary) TearsDownAloneSimply)
          (.started .empty)
          (overlappingTeardown ++ [.clean 0 true 3])).any
          (fun sys : SocketSystem =>
            sys.cleanedUp 0 &&
              sys.sessions[0]?.any (·.connection.clientId = some "a")) = true by
        decide)
  have run :=
    checkedRun.guarded_of_checked.relax fun _ _ =>
      TearsDownAloneSimply.tearsDownAlone
  have later :=
    checkedStep.guarded_of_checked.relax fun _ _ =>
      TearsDownAloneSimply.tearsDownAlone
  cases later with
  | cons taken rest =>
    cases rest
    rw [Bool.and_eq_true, decide_eq_true_eq, decide_eq_true_eq] at isBefore
    rw [Bool.and_eq_true, Option.any_eq_true] at isAfter
    obtain ⟨cleanedUp, session, isSession, named⟩ := isAfter
    obtain ⟨_, isSame, ended⟩ := SocketSystem.cleanedUp_iff.mp cleanedUp
    rw [isSession] at isSame
    cases isSame
    have undisturbed :=
      staleTeardownInert_of_tearsDownAlone asciiTextLibrary run taken
        (show SocketAction.socket (.clean 0 true 3) = some 0 from rfl)
        isSession (by rw [ended]; rfl) (of_decide_eq_true named)
        isBefore.1 (by decide)
    exact ⟨before, _, run, taken, cleanedUp,
      undisturbed.activeAgents.trans isBefore.1,
      undisturbed.presence.trans isBefore.2⟩

/-- The earlier connection is lost after the new one has been stored. -/
def lateTeardown : List SocketAction :=
  .connect :: acceptedHandshake 0 "a" 0 ++
    [.connect, .receiveHandshake 1 "a", .authorize 1 .accepted 1,
      .greeted 1 true 1, .replaced 1 2, .upsert 1 true 2,
      .upsert 1 true 2, .disconnect 0 3, .clean 0 true 3]

/--
Without the condition the clean-up of the earlier connection stores that the
agent is offline, although it is connected again.
-/
theorem not_staleTeardownInert :
    ¬ StaleTeardownInert (Fires (socketStep? asciiTextLibrary)) := by
  intro claimed
  obtain ⟨before, after, run, later, isBefore, isAfter⟩ :=
    exists_runs_of_execute
      (show (execute (socketStep? asciiTextLibrary) (.started .empty)
          lateTeardown).any
          (fun sys : SocketSystem =>
            sys.active "a" = some 1 &&
              sys.presence "a" = some (.registered, .online, some 2)) =
            true by
        decide)
      (show (execute (socketStep? asciiTextLibrary) (.started .empty)
          (lateTeardown ++ [.clean 0 true 3])).any
          (fun sys : SocketSystem =>
            sys.presence "a" = some (.registered, .offline, some 3) &&
              sys.sessions[0]?.any fun session =>
                session.point.tearsDown &&
                  session.connection.clientId = some "a") = true by
        decide)
  rw [Bool.and_eq_true, decide_eq_true_eq, decide_eq_true_eq] at isBefore
  rw [Bool.and_eq_true, decide_eq_true_eq, Option.any_eq_true] at isAfter
  obtain ⟨isOffline, session, isSession, torn⟩ := isAfter
  rw [Bool.and_eq_true, decide_eq_true_eq] at torn
  cases later with
  | cons taken rest =>
    cases rest
    have undisturbed :=
      claimed run taken
        (show SocketAction.socket (.clean 0 true 3) = some 0 from rfl)
        isSession torn.1 torn.2 isBefore.1 (by decide)
    have same := undisturbed.presence
    rw [isOffline, isBefore.2] at same
    exact absurd same (by decide)

end RpaPlatform.Agents
