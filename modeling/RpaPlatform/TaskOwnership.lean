import RpaPlatform.TaskCoherence

namespace RpaPlatform.Tasks

open TaskDB Transition

/-!
# What an agent's session can touch

The event handlers reach task rows, pipeline runs and log files through the
task id in the message alone; the session's agent is recorded as the actor and
never compared with the task's agent.  This module states that a session
leaves the tasks of other agents alone, shows that a single message can refute
it, and proves it for sessions whose messages name no task of another agent
and whose log paths open no log of another agent's task.
-/

def Foreign (db : TaskDB) (agentId taskId : String) : Prop :=
  ∃ row, db.getTask taskId = some row ∧ row.agentId ≠ agentId

/-- What a step leaves alone of the tasks of other agents. -/
structure LeavesForeign
    (server : Server)
    (agentId : String)
    (before after : TaskSystem) : Prop where
  rows :
    ∀ taskId row,
      before.db.getTask taskId = some row →
      row.agentId ≠ agentId →
      after.db.getTask taskId = some row
  runs :
    ∀ taskId row runId,
      before.db.getTask taskId = some row →
      row.agentId ≠ agentId →
      row.pipelineRunId = some runId →
      after.db.pipelineRuns.find? runId =
          before.db.pipelineRuns.find? runId ∧
        after.db.taskIdentities.filter
            (fun task => decide (task.pipelineRunId = some runId)) =
          before.db.taskIdentities.filter
            fun task => decide (task.pipelineRunId = some runId)
  logs :
    ∀ taskId file,
      Foreign before.db agentId taskId →
      server.logs.logFile taskId = some file →
      after.files file = before.files file

/--
The slots in `session` are the sessions that authenticated as the agent: they
act on its messages only, and no other coroutine is started there.
-/
def SessionActs
    (agentId : String)
    (session : Nat → Prop) : Action → Prop
  | .taskStatus slot clientId _ _ =>
    session slot → clientId = some agentId
  | .taskOutput _ _ => True
  | .resume _ answer => ¬ session answer.background
  | .createTask slot .. => ¬ session slot
  | .submitDeployment slot .. => ¬ session slot
  | .cancelTask slot .. => ¬ session slot
  | .createPipeline slot .. => ¬ session slot
  | .runPipeline slot .. => ¬ session slot

/--
The messages of the sessions name no task of another agent, neither when the
report is stored nor when the pipeline is looked up, and their log paths open
no log of another agent's task.
-/
def NamesOwn
    (server : Server)
    (agentId : String)
    (session : Nat → Prop)
    (sys : TaskSystem) : Action → Prop
  | .taskStatus slot _ data _ =>
    session slot → ¬ Foreign sys.db agentId data.taskId
  | .taskOutput slot data =>
    session slot →
    ∀ taskId file,
      Foreign sys.db agentId taskId →
      server.logs.logFile taskId = some file →
      server.logs.logFile data.taskId ≠ some file
  | .resume slot _ =>
    session slot →
    ∀ taskId status,
      sys.frames slot = .statusBroadcast taskId status →
      ¬ Foreign sys.db agentId taskId
  | _ => True

/--
Every step of an agent's sessions, in every run of the subsystem that is
admitted, leaves the tasks of other agents alone.
-/
def TaskOwnership
    (server : Server)
    (admitted : String → (Nat → Prop) → TaskSystem → Action → Prop) : Prop :=
  ∀ {files : Files} {agentId : String} {session : Nat → Prop}
    {before after : TaskSystem}
    {actions : List Action} {action : Action},
    Run (Guarded (Fires (step? server)) (admitted agentId session))
        (.started .empty files) actions before →
    Guarded (Fires (step? server)) (admitted agentId session)
        before action after →
    session action.slot →
    LeavesForeign server agentId before after

/-- What a session's coroutine is suspended on concerns its own agent. -/
def SessionFrame (db : TaskDB) (agentId : String) : Frame → Prop
  | .idle => True
  | .statusBroadcast _ _ => True
  | .advanceTask _ none => True
  | .advanceTask _ (some task) => task.agentId = agentId
  | .advanceRun _ task _ => task.agentId = agentId
  | .advancePipeline _ task _ _ => task.agentId = agentId
  | .creating task _ _ => task.agentId = agentId
  | .dispatching task _ => task.agentId = agentId
  | .deploying task _ => task.agentId = agentId
  | .sending task _ _ => task.agentId = agentId
  | .refusing runId _ =>
    ∃ run ∈ db.runIdentities, run.id = runId ∧ run.agentId = agentId
  | _ => False

/-- A statement that concerns the agent's own tasks and runs. -/
def OwnStatement (db : TaskDB) (agentId : String) : Statement → Prop
  | .createTask task =>
    ∀ runId,
      task.pipelineRunId = some runId →
      ∃ run ∈ db.runIdentities, run.id = runId ∧ run.agentId = agentId
  | .updateTaskStatus taskId _ _ _ =>
    ¬ Foreign db agentId taskId
  | .updatePipelineRunStatus runId _ _ =>
    ∃ run ∈ db.runIdentities, run.id = runId ∧ run.agentId = agentId
  | _ => False

section Session

variable
    {server : Server}
    {agentId : String}
    {before : TaskSystem}

theorem Foreign.otherRun
    (coherent : Coherent before)
    {taskId runId : String}
    {row : TaskRow}
    {run : RunIdentity}
    (found : before.db.getTask taskId = some row)
    (foreign : row.agentId ≠ agentId)
    (belongs : row.pipelineRunId = some runId)
    (member : run ∈ before.db.runIdentities)
    (owned : run.agentId = agentId) :
    run.id ≠ runId := by
  rintro rfl
  obtain ⟨fitting, _, _, fittingMember, sameId, sameAgent, _⟩ :=
    coherent.tasks row.identity (identity_mem_of_getTask found).1 run.id belongs
  have same : fitting = run :=
    runIdentity_unique fittingMember member sameId
  subst fitting
  exact foreign (sameAgent.symm.trans owned)

variable
    {db : TaskDB}
    {statement : Statement}
    {frame : Frame}

theorem not_foreign_of_mem
    {task : TaskIdentity}
    (member : task ∈ db.taskIdentities)
    (owned : task.agentId = agentId) :
    ¬ Foreign db agentId task.id := by
  rintro ⟨row, found, foreign⟩
  obtain ⟨rowMember, rowId⟩ := identity_mem_of_getTask found
  have same : row.identity = task :=
    taskIdentity_unique rowMember member rowId
  exact foreign ((congrArg TaskIdentity.agentId same).trans owned)

theorem ReadFor.sameAgent
    (coherent : Coherent before)
    {task : TaskRow}
    {run : PipelineRun}
    (read : ReadFor before.db task run) :
    run.agentId = task.agentId := by
  obtain ⟨fitting, _, _, fittingMember, sameId, sameAgent, _⟩ :=
    coherent.tasks task.identity read.1 run.id read.2.1
  have same : fitting = run.toPipelineRunRow.identity :=
    runIdentity_unique fittingMember read.2.2 sameId
  subst fitting
  exact sameAgent

theorem FitsRun.run
    {task : TaskIdentity}
    {runId : String}
    (fits : FitsRun db task)
    (belongs : task.pipelineRunId = some runId) :
    ∃ run ∈ db.runIdentities, run.id = runId ∧ run.agentId = task.agentId := by
  obtain ⟨run, _, _, member, named, owned, _⟩ := fits runId belongs
  exact ⟨run, member, named, owned⟩

/-- A statement on the agent's own tasks leaves those of others alone. -/
theorem OwnStatement.leavesForeign
    (coherent : Coherent before)
    {now : Int}
    (own : OwnStatement before.db agentId statement)
    (executed : before.db.execute now statement = some db)
    {taskId : String}
    {row : TaskRow}
    (found : before.db.getTask taskId = some row)
    (foreign : row.agentId ≠ agentId) :
    db.getTask taskId = some row ∧
      ∀ runId,
        row.pipelineRunId = some runId →
        db.pipelineRuns.find? runId =
            before.db.pipelineRuns.find? runId ∧
          db.taskIdentities.filter
              (fun task => decide (task.pipelineRunId = some runId)) =
            before.db.taskIdentities.filter
              fun task => decide (task.pipelineRunId = some runId) := by
  cases statement with
  | createTask task =>
    refine ⟨?_, fun runId belongs => ⟨?_, ?_⟩⟩
    · have different : task.id ≠ taskId := by
        rintro rfl
        rw [getTask_eq_none_of_createTask executed] at found
        cases found
      rw [getTask_createTask executed, if_neg different, found]
    · obtain ⟨_, _, _, runs⟩ := createTask_eq_some executed
      rw [runs]
    · have otherRun : task.pipelineRunId ≠ some runId := by
        intro ofRun
        obtain ⟨run, member, named, owned⟩ := own runId ofRun
        exact Foreign.otherRun coherent found foreign belongs member owned named
      rw [taskIdentities_createTask executed, List.filter_append]
      simp [TaskSpec.identity, otherRun]
  | updateTaskStatus updated status detail actor =>
    cases executed
    have different : updated ≠ taskId := by
      rintro rfl
      exact own ⟨row, found, foreign⟩
    refine ⟨?_, fun runId belongs => ⟨rfl, ?_⟩⟩
    · rw [getTask_updateTaskStatus, if_neg different, found]
    · rw [taskIdentities_updateTaskStatus]
  | updatePipelineRunStatus updated status currentStep =>
    cases executed
    refine ⟨found, fun runId belongs => ⟨?_, rfl⟩⟩
    obtain ⟨run, member, rfl, owned⟩ := own
    rw [find?_updatePipelineRunStatus, if_neg
      (Foreign.otherRun coherent found foreign belongs member owned)]
  | createPipeline | createPipelineRun =>
    cases own

theorem recordTurn_own
    {task : TaskSpec}
    (result : TaskDispatchResult)
    {refusal : Option (String × Nat)}
    (stored : StoredFor db task.identity refusal)
    (owned : task.agentId = agentId)
    (issues : (recordTurn task result refusal).statement = some statement) :
    OwnStatement db agentId statement := by
  simp only [recordTurn, Option.map_eq_some_iff] at issues
  obtain ⟨_, _, rfl⟩ := issues
  exact not_foreign_of_mem stored.1 owned

theorem recordTurn_sessionFrame
    (coherent : Coherent before)
    {task : TaskSpec}
    (result : TaskDispatchResult)
    {refusal : Option (String × Nat)}
    (stored : StoredFor before.db task.identity refusal)
    (owned : task.agentId = agentId) :
    SessionFrame before.db agentId (recordTurn task result refusal).next := by
  unfold recordTurn
  dsimp only
  split
  · trivial
  · cases refusal with
    | none =>
      trivial
    | some failing =>
      obtain ⟨run, member, named, sameAgent⟩ :=
        (coherent.tasks task.identity stored.1).run stored.2
      exact ⟨run, member, named, sameAgent.trans owned⟩

theorem Resumed.ownStatement
    (coherent : Coherent before)
    {answer : Answer}
    {turn : Turn}
    (resumed : Resumed server before.db answer frame turn)
    (knows : FrameCoherent before.db frame)
    (concerns : SessionFrame before.db agentId frame)
    (issues : turn.statement = some statement) :
    OwnStatement before.db agentId statement := by
  cases resumed with
  | @advanced status task run pipeline =>
    have ownRun :
        ∃ owned ∈ before.db.runIdentities,
          owned.id = run.id ∧ owned.agentId = agentId :=
      ⟨run.toPipelineRunRow.identity, knows.1.2.2, rfl,
        (knows.1.sameAgent coherent).trans concerns⟩
    unfold advanceTurn at issues
    split at issues <;> cases issues <;> exact ownRun
  | created =>
    cases issues
    intro runId belongs
    obtain ⟨run, member, named, sameAgent⟩ := knows.2.run belongs
    exact ⟨run, member, named, sameAgent.trans concerns⟩
  | @turnedDown task refusal error refused =>
    exact recordTurn_own (refusedResult error) knows concerns issues
  | @deployed task refusal =>
    exact recordTurn_own acceptedResult knows concerns issues
  | @sent task sent refusal =>
    exact recordTurn_own (agentResult sent) knows concerns issues
  | refused =>
    cases issues
    exact concerns
  | runStarted | runLaunched | cancelSent | packaged | prepareFailed =>
    cases concerns
  | _ =>
    cases issues

/-- A session's coroutine stays with its own agent's tasks. -/
theorem Resumed.sessionFrame
    (coherent : Coherent before)
    {answer : Answer}
    {turn : Turn}
    (resumed : Resumed server before.db answer frame turn)
    (knows : FrameCoherent before.db frame)
    (concerns : SessionFrame before.db agentId frame)
    (own :
      ∀ taskId status,
        frame = .statusBroadcast taskId status →
        ¬ Foreign before.db agentId taskId) :
    SessionFrame before.db agentId turn.next := by
  cases resumed with
  | @reportAdvances taskId status =>
    cases found : before.db.getTask taskId with
    | none =>
      trivial
    | some row =>
      by_contra foreign
      exact own taskId status rfl ⟨row, found, foreign⟩
  | taskFound | runLive | created =>
    exact concerns
  | @advanced status task run pipeline =>
    have sameAgent : run.agentId = agentId :=
      (knows.1.sameAgent coherent).trans concerns
    unfold advanceTurn
    split
    · trivial
    · trivial
    · exact (TaskFactory.createPipelineStepTask_agentId ..).trans sameAgent
  | @handed task refusal accepted =>
    unfold handlerFrame
    split
    · split
      · exact concerns
      · trivial
    · exact concerns
  | @turnedDown task refusal error refused =>
    exact recordTurn_sessionFrame coherent (refusedResult error) knows concerns
  | @deployed task refusal =>
    exact recordTurn_sessionFrame coherent acceptedResult knows concerns
  | @sent task sent refusal =>
    exact recordTurn_sessionFrame coherent (agentResult sent) knows concerns
  | runLaunched | runStarted | cancelAllowed | packaged | packagingRaised
  | preparedRaised =>
    cases concerns
  | _ =>
    trivial

theorem SessionFrame.mono
    {db after : TaskDB}
    (grows : Extends db after)
    (concerns : SessionFrame db agentId frame) :
    SessionFrame after agentId frame := by
  cases frame with
  | refusing runId currentStep =>
    obtain ⟨run, member, rest⟩ := concerns
    exact ⟨run, grows.runs.subset member, rest⟩
  | advanceTask status task =>
    cases task <;> exact concerns
  | _ =>
    exact concerns

/-- Every session of the agent is suspended on its own agent's tasks. -/
def SessionsOwn
    (agentId : String)
    (session : Nat → Prop)
    (sys : TaskSystem) : Prop :=
  ∀ slot, session slot → SessionFrame sys.db agentId (sys.frames slot)

variable
    {session : Nat → Prop}
    {after : TaskSystem}
    {action : Action}
    {turn : Turn}

theorem start_session
    (acts : SessionActs agentId session action)
    (own : NamesOwn server agentId session before action)
    (inSession : session action.slot)
    (starts : start before action = some turn) :
    SessionFrame before.db agentId turn.next ∧
      ∀ statement,
        turn.statement = some statement →
        OwnStatement before.db agentId statement := by
  cases action with
  | taskStatus slot clientId data now =>
    cases starts
    refine ⟨trivial, ?_⟩
    intro statement issues
    cases issues
    exact own inSession
  | taskOutput slot data =>
    cases starts
    refine ⟨trivial, ?_⟩
    intro statement issues
    cases issues
  | resume =>
    cases starts
  | _ =>
    exact (acts inSession).elim

theorem session_ownStatement
    (coherent : Coherent before)
    (sessions : SessionsOwn agentId session before)
    (acts : SessionActs agentId session action)
    (own : NamesOwn server agentId session before action)
    (inSession : session action.slot)
    (begins : Tasks.turn server before action = some turn)
    (issues : turn.statement = some statement) :
    OwnStatement before.db agentId statement := by
  rcases turn_cases begins with ⟨slot, answer, rfl, resumed⟩ | ⟨_, starts⟩
  · exact resumed.ownStatement coherent (coherent.frames slot)
      (sessions slot inSession) issues
  · exact (start_session acts own inSession starts).2 statement issues

theorem turn_output
    {taskId data : String}
    (begins : Tasks.turn server before action = some turn)
    (writes : turn.output = some (taskId, data)) :
    ∃ slot message,
      action = .taskOutput slot message ∧ message.taskId = taskId := by
  rcases turn_cases begins with ⟨slot, answer, rfl, resumed⟩ | ⟨_, starts⟩
  · generalize before.frames slot = frame at resumed
    cases resumed with
    | advanced =>
      unfold advanceTurn at writes
      split at writes <;> cases writes
    | _ =>
      cases writes
  · cases action with
    | taskOutput slot message =>
      cases starts
      cases writes
      exact ⟨slot, message, rfl, rfl⟩
    | resume =>
      cases starts
    | _ =>
      cases starts
      cases writes

theorem Took.files
    (took : Took server before action turn after) :
    after.files = turn.write server.logs before.files ∨
      after.files = before.files := by
  cases took with
  | raised => exact .inr rfl
  | passed => exact .inl rfl
  | spawned => exact .inl rfl

section Sessions

variable
    (coherent : Coherent before)
    (sessions : SessionsOwn agentId session before)
    (acts : SessionActs agentId session action)
    (own : NamesOwn server agentId session before action)
include coherent sessions acts own

theorem SessionsOwn.step
    (begins : Tasks.turn server before action = some turn)
    (took : Took server before action turn after) :
    SessionsOwn agentId session after := by
  intro slot inSession
  rcases took.frame slot with
    ⟨_, kept⟩ | ⟨_, idle, _⟩ | ⟨rfl, reached, _⟩ |
    ⟨_, rfl, _, prepares, _⟩
  · rw [kept]
    exact (sessions slot inSession).mono took.extends_db
  · rw [idle]
    trivial
  · rw [reached]
    refine SessionFrame.mono took.extends_db ?_
    rcases turn_cases begins with
      ⟨slot, answer, rfl, resumed⟩ | ⟨_, starts⟩
    · exact resumed.sessionFrame coherent (coherent.frames slot)
        (sessions slot inSession) (own inSession)
    · exact (start_session acts own inSession starts).1
  · obtain ⟨_, _, _, _, rfl, _⟩ := prepares_running begins prepares
    exact (acts inSession).elim

/-- A step in a session leaves the tasks of other agents alone. -/
theorem session_leavesForeign
    (inSession : session action.slot)
    (begins : Tasks.turn server before action = some turn)
    (took : Took server before action turn after) :
    LeavesForeign server agentId before after := by
  have database :
      ∀ taskId row,
        before.db.getTask taskId = some row →
        row.agentId ≠ agentId →
        after.db.getTask taskId = some row ∧
          ∀ runId,
            row.pipelineRunId = some runId →
            after.db.pipelineRuns.find? runId =
                before.db.pipelineRuns.find? runId ∧
              after.db.taskIdentities.filter
                  (fun task => decide (task.pipelineRunId = some runId)) =
                before.db.taskIdentities.filter
                  fun task => decide (task.pipelineRunId = some runId) := by
    intro taskId row found foreign
    rcases took.executed with same | ⟨statement, issues, _, executed⟩
    · rw [same]
      exact ⟨found, fun _ _ => ⟨rfl, rfl⟩⟩
    · exact (session_ownStatement coherent sessions acts own inSession
        begins issues).leavesForeign coherent executed found foreign
  refine ⟨?_, ?_, ?_⟩
  · exact fun taskId row found foreign =>
      (database taskId row found foreign).1
  · exact fun taskId row runId found foreign =>
      (database taskId row found foreign).2 runId
  · intro taskId file foreign located
    rcases took.files with written | same
    · rw [written]
      unfold Turn.write
      cases writes : turn.output with
      | none =>
        rfl
      | some output =>
        obtain ⟨logged, data⟩ := output
        obtain ⟨slot, message, rfl, rfl⟩ := turn_output begins writes
        exact server.logs.appendLog_other _ _ _
          (own inSession taskId file foreign located)
    · rw [same]

end Sessions

end Session

/--
An agent's sessions leave the tasks of other agents alone as long as their
messages name no task of another agent.
-/
theorem taskOwnership_of_namesOwn (server : Server) :
    TaskOwnership server fun agentId session sys action =>
      SessionActs agentId session action ∧
        NamesOwn server agentId session sys action := by
  intro files agentId session before after actions action run step inSession
  let keeps : TaskSystem → Prop :=
    fun sys => Coherent sys ∧ SessionsOwn agentId session sys
  have start : keeps (.started .empty files) :=
    ⟨coherent_started files, fun _ _ => trivial⟩
  have kept : keeps before := by
    refine run.preserves ?_ start
    rintro before action after ⟨taken, acts, own⟩ ⟨coherent, sessions⟩
    obtain ⟨turn, begins, took⟩ := step_cases taken
    exact ⟨coherent.step begins took,
      sessions.step coherent acts own begins took⟩
  obtain ⟨taken, acts, own⟩ := step
  obtain ⟨turn, begins, took⟩ := step_cases taken
  exact session_leavesForeign kept.1 kept.2 acts own inSession begins took

/-- A session that reports on its own task leaves another agent's task alone. -/
theorem ownReport_leavesForeign :
    ∃ before after,
      Fires (step? exampleServer) before
          (.taskStatus 1 (some "a")
            { taskId := "t", status := "completed" } 5) after ∧
        (before.db.getTask "u").map TaskRow.agentId = some "b" ∧
        LeavesForeign exampleServer "a" before after := by
  let creates : List Action :=
    [.createTask 0 exampleTaskRequest "" "t" 0,
      .createTask 2
        { exampleTaskRequest with
          agentId := "b", agentIdNonempty := by decide } "" "u" 0]
  let report : Action :=
    .taskStatus 1 (some "a") { taskId := "t", status := "completed" } 5
  let admitted : TaskSystem → Action → Prop :=
    fun sys action =>
      SessionActs "a" (· = 1) action ∧
        NamesOwn exampleServer "a" (· = 1) sys action
  obtain ⟨before, run, stored⟩ :
      ∃ before,
        Run (Guarded (Fires (step? exampleServer)) admitted)
            (.started .empty fun _ => none) creates before ∧
          (before.db.getTask "t").map TaskRow.agentId = some "a" ∧
          (before.db.getTask "u").map TaskRow.agentId = some "b" ∧
          (step? exampleServer before report).isSome = true :=
    ⟨_,
      .cons ⟨rfl, Nat.zero_ne_one, trivial⟩
        (.single ⟨rfl, (by decide : ¬ 2 = 1), trivial⟩),
      by decide⟩
  obtain ⟨owner, other, fires⟩ := stored
  obtain ⟨after, taken⟩ := Option.isSome_iff_exists.mp fires
  refine ⟨before, after, taken, other, ?_⟩
  refine taskOwnership_of_namesOwn exampleServer run
    ⟨taken, fun _ => rfl, ?_⟩ rfl
  rintro _ ⟨row, found, foreign⟩
  rw [found] at owner
  exact foreign (Option.some.inj owner)

/--
Without the condition one message suffices: a session of agent `b` completes a
task of agent `a`.
-/
theorem not_taskOwnership :
    ¬ TaskOwnership exampleServer fun agentId session _ action =>
        SessionActs agentId session action := by
  intro owned
  let create : Action :=
    .createTask 0 exampleTaskRequest "" "t" 0
  let report : Action :=
    .taskStatus 1 (some "b") { taskId := "t", status := "completed" } 5
  let before : TaskSystem :=
    (step? exampleServer (.started .empty fun _ => none) create).get (by decide)
  let after : TaskSystem :=
    (step? exampleServer before report).get (by decide)
  have run :
      Run
        (Guarded (Fires (step? exampleServer)) fun _ action =>
          SessionActs "b" (· = 1) action)
        (.started .empty fun _ => none) [create] before :=
    .single ⟨(Option.some_get _).symm, Nat.zero_ne_one⟩
  have leaves : LeavesForeign exampleServer "b" before after :=
    owned run ⟨(Option.some_get _).symm, fun _ => rfl⟩ rfl
  have stored :
      (before.db.getTask "t").map
        (fun row => (row.agentId, row.status)) = some ("a", .queued) := by
    decide
  rw [Option.map_eq_some_iff] at stored
  obtain ⟨row, found, columns⟩ := stored
  obtain ⟨owner, queued⟩ := Prod.mk.inj columns
  have kept : after.db.getTask "t" = some row := by
    refine leaves.rows "t" row found ?_
    rw [owner]
    decide
  have completed : after.statusOf "t" = some .completed := by
    decide
  rw [TaskSystem.statusOf, kept, Option.map_some, queued] at completed
  cases completed

end RpaPlatform.Tasks
