import RpaPlatform.TaskStore
import RpaPlatform.Transition

namespace RpaPlatform.Tasks

open TaskDB

/-!
# The coroutines of the task service

The handlers that change tasks and pipeline runs, as coroutines that are
suspended at their `await` points: the agent event handlers,
`advance_pipeline`, `dispatch`, the cancel and run endpoints, and the
background `_run_prepare` of a deployment.  A `Frame` says where a coroutine
is suspended and what it has read so far.  A `Turn` is what it does when it is
resumed, up to its next `await`: at most one statement on the database, at
most one append to a log.  Any suspended coroutine may be resumed next, so a
run of the system is an arbitrary interleaving.

A statement takes effect when it is issued; a `SELECT` is answered from the
state in which it is issued, and its answer waits in the frame.
-/

/-- What a handler returns to `TaskService.dispatch`. -/
structure TaskDispatchResult where
  accepted : Bool
  status : Option TaskStatus := none
  error : Option String := none

/-- The data of an agent's `task_status` event. -/
structure TaskStatusData where
  taskId : String := ""
  status : String := "queued"
  pid : Option Int := none
  exitCode : Option Int := none
  error : Option String := none

/-- The data of an agent's `task_output` event. -/
structure TaskOutputData where
  taskId : String := ""
  stream : String := "stdout"
  data : String := ""
  seq : Int := 0

/-- The server's fixed environment. -/
structure Server where
  /-- The kinds with a registered handler. -/
  handlers : List TaskKind
  /-- The disk that holds the task logs. -/
  logs : LogHost

/-- Where a coroutine is suspended. -/
inductive Frame where
  /-- No coroutine runs in this slot. -/
  | idle
  /-- `_handle_task_status`, broadcasting the stored report. -/
  | statusBroadcast (taskId : String) (status : TaskStatus)
  /-- `advance_pipeline`, reading the task. -/
  | advanceTask (status : TaskStatus) (task : Option TaskRow)
  /-- `advance_pipeline`, reading the run. -/
  | advanceRun
      (status : TaskStatus)
      (task : TaskRow)
      (run : Option PipelineRun)
  /-- `advance_pipeline`, past the check of the run, reading the pipeline. -/
  | advancePipeline
      (status : TaskStatus)
      (task : TaskRow)
      (run : PipelineRun)
      (pipeline : Option Pipeline)
  /-- `api_run_pipeline`, reading the pipeline. -/
  | runPipeline
      (body : RunPipelineRequest)
      (requestedFrom : String)
      (pipeline : Option Pipeline)
  /-- `api_run_pipeline`, having inserted the run. -/
  | runCreated
      (body : RunPipelineRequest)
      (requestedFrom runId : String)
      (first : PipelineStepRow)
  /-- The run is set to running and its next task is about to be created. -/
  | creating (task : TaskSpec) (runId : String) (currentStep : Nat)
  /-- `dispatch`, about to call the handler of a stored task. -/
  | dispatching (task : TaskSpec) (refusal : Option (String × Nat))
  /-- The deployment handler, updating the deployment. -/
  | deploying (task : TaskSpec) (refusal : Option (String × Nat))
  /-- `dispatch`, while the agent handler sends the task. -/
  | sending
      (task : TaskSpec)
      (sent : Bool)
      (refusal : Option (String × Nat))
  /-- The dispatch was refused and the run is about to fail. -/
  | refusing (runId : String) (currentStep : Nat)
  /-- `api_cancel_task`, reading the task. -/
  | cancelTask (taskId actor : String) (task : Option TaskRow)
  /-- `api_cancel_task`, sending the cancellation to the agent. -/
  | cancelSending (taskId actor : String)
  /-- `_run_prepare`, preparing the package. -/
  | preparing (taskId : String)
  /-- `_run_prepare`, past its completed status. -/
  | prepared (taskId : String)
  /-- `_run_prepare`, handling an exception. -/
  | prepareFailed (taskId error : String)

/-- What a coroutine does between two suspensions. -/
structure Turn where
  /-- The statement it issues. -/
  statement : Option Statement := none
  /-- The task log it appends to, and the text. -/
  output : Option (String × String) := none
  /-- Where it is suspended next. -/
  next : Frame := .idle
  /-- The task whose preparation it starts in the background. -/
  prepares : Option String := none
  /-- The report on which it moves a live run on. -/
  advances : Option (String × TaskStatus) := none
  /-- The task that it hands to the dispatcher. -/
  dispatches : Option String := none
  /-- The task whose dispatch it sees refused. -/
  refuses : Option String := none

namespace Turn

def finish : Turn :=
  {}

def await (next : Frame) : Turn :=
  { next }

def last (statement : Statement) : Turn :=
  { statement := some statement }

end Turn

/-- The environment's answer to what a coroutine waits for. -/
structure Answer where
  now : Int := 0
  /-- The next value of `uuid4`. -/
  freshId : String := ""
  /-- What `send_to_agent` returned. -/
  sent : Bool := true
  /-- Why the deployment handler rejects the task, if it does. -/
  rejects : Option String := none
  /-- The exception that the awaited work raised, if it did. -/
  raises : Option String := none
  /-- The slot of a background task that is started. -/
  background : Nat := 0

/-- What `advance_pipeline` decides from the report and the definition. -/
inductive AdvanceDecision where
  | fail
  | complete
  | launch (step : PipelineStepRow)

/-- The failure policy of the step with an index. -/
def onFailAt
    (steps : List PipelineStepRow)
    (stepIndex : Nat) : OnFail :=
  match steps.find? fun step => decide (step.stepIndex = stepIndex) with
  | some step =>
    step.onFail
  | none =>
    .stop

/-- The branch of `advance_pipeline` for a live run. -/
def advanceDecision
    (status : TaskStatus)
    (steps : List PipelineStepRow)
    (currentStep : Nat) : AdvanceDecision :=
  if status.failing = true ∧ onFailAt steps currentStep = .stop then
    .fail
  else
    match steps.find? fun step =>
        decide (step.stepIndex = currentStep + 1) with
    | none =>
      .complete
    | some step =>
      .launch step

theorem advanceDecision_fail
    {status : TaskStatus}
    {steps : List PipelineStepRow}
    {currentStep : Nat} :
    advanceDecision status steps currentStep = .fail ↔
      status.failing = true ∧ onFailAt steps currentStep = .stop := by
  unfold advanceDecision
  split
  · rename_i stops
    exact iff_of_true rfl stops
  · rename_i moves
    refine iff_of_false ?_ moves
    split <;> exact AdvanceDecision.noConfusion

theorem advanceDecision_launch
    {status : TaskStatus}
    {steps : List PipelineStepRow}
    {currentStep : Nat}
    {step : PipelineStepRow}
    (decided : advanceDecision status steps currentStep = .launch step) :
    step ∈ steps ∧ step.stepIndex = currentStep + 1 := by
  unfold advanceDecision at decided
  split at decided
  · cases decided
  · split at decided
    · cases decided
    · rename_i found
      cases decided
      exact ⟨List.mem_of_find?_eq_some found,
        by simpa using List.find?_some found⟩

theorem advanceDecision_complete
    {status : TaskStatus}
    {steps : List PipelineStepRow}
    {currentStep : Nat}
    (decided : advanceDecision status steps currentStep = .complete) :
    ∀ step ∈ steps, step.stepIndex ≠ currentStep + 1 := by
  unfold advanceDecision at decided
  split at decided
  · cases decided
  · split at decided
    · rename_i absent
      intro step member
      simpa using List.find?_eq_none.mp absent step member
    · cases decided

/-- `advance_pipeline`, from the pipeline's definition on. -/
def advanceTurn
    (status : TaskStatus)
    (task : TaskRow)
    (run : PipelineRun)
    (pipeline : Pipeline)
    (freshId : String) : Turn :=
  match advanceDecision status pipeline.steps task.stepIndex with
  | .fail =>
    .last <| .updatePipelineRunStatus run.id .failed (some task.stepIndex)
  | .complete =>
    .last <| .updatePipelineRunStatus run.id .completed (some task.stepIndex)
  | .launch step =>
    { statement :=
        some <| .updatePipelineRunStatus run.id .running
          (some (task.stepIndex + 1))
      next :=
        .creating
          (TaskFactory.createPipelineStepTask run.agentId run.session
            run.id step "pipeline" "server" freshId).val
          run.id (task.stepIndex + 1) }

/-- Store the result of a dispatch; a refused step fails its run next. -/
def recordTurn
    (task : TaskSpec)
    (result : TaskDispatchResult)
    (refusal : Option (String × Nat)) : Turn where
  statement :=
    result.status.map fun status =>
      .updateTaskStatus task.id status { error := result.error } "server"
  next :=
    if result.accepted then
      .idle
    else
      match refusal with
      | none => .idle
      | some (runId, currentStep) => .refusing runId currentStep
  refuses :=
    if result.accepted then none else some task.id

def acceptedResult : TaskDispatchResult where
  accepted := true
  status := some .running

/-- The result of a dispatch that was refused. -/
def refusedResult (error : String) : TaskDispatchResult where
  accepted := false
  status := some .failed
  error := some error

def agentResult (sent : Bool) : TaskDispatchResult :=
  if sent then acceptedResult else refusedResult "Agent not connected"

/-- Why a task is refused before its handler is first suspended, if it is. -/
def refusedAtOnce
    (server : Server)
    (task : TaskSpec)
    (answer : Answer) : Option String :=
  if task.kind ∈ server.handlers then
    match task.kind with
    | .agent => none
    | .deployment => answer.rejects
  else
    some <| "No handler registered for task kind '" ++ task.kind.text ++ "'"

/-- Where the handler of a task is first suspended, unless it raises. -/
def handlerFrame
    (task : TaskSpec)
    (refusal : Option (String × Nat))
    (answer : Answer) : Frame :=
  match task.kind with
  | .agent =>
    if (task.getComponent "execution").isSome then
      .sending task answer.sent refusal
    else
      .idle
  | .deployment =>
    .deploying task refusal

/-- `TaskDispatcher.dispatch`, up to the handler's first suspension. -/
def dispatchTurn
    (server : Server)
    (task : TaskSpec)
    (refusal : Option (String × Nat))
    (answer : Answer) : Turn :=
  match refusedAtOnce server task answer with
  | some error =>
    { recordTurn task (refusedResult error) refusal with
      dispatches := some task.id }
  | none =>
    { next := handlerFrame task refusal answer
      dispatches := some task.id }

/-- What the coroutine of a frame does when it is resumed. -/
def resume
    (server : Server)
    (db : TaskDB)
    (answer : Answer) : Frame → Option Turn
  | .idle =>
    none
  | .statusBroadcast taskId status =>
    some <| if status.advances then
        .await (.advanceTask status (db.getTask taskId))
      else
        .finish
  | .advanceTask _ none =>
    some .finish
  | .advanceTask status (some task) =>
    match task.pipelineRunId with
    | none =>
      some .finish
    | some runId =>
      some <| if runId = "" then
          .finish
        else
          .await (.advanceRun status task (db.getPipelineRun runId))
  | .advanceRun _ _ none =>
    some .finish
  | .advanceRun status task (some run) =>
    some <| if run.status.live then
        { next :=
            .advancePipeline status task run (db.getPipeline run.pipelineId)
          advances := some (task.id, status) }
      else
        .finish
  | .advancePipeline _ _ _ none =>
    some .finish
  | .advancePipeline status task run (some pipeline) =>
    some (advanceTurn status task run pipeline answer.freshId)
  | .runPipeline _ _ none =>
    -- "Pipeline not found"
    some .finish
  | .runPipeline body requestedFrom (some pipeline) =>
    match pipeline.steps with
    | [] =>
      -- "Pipeline has no steps"
      some .finish
    | first :: _ =>
      some {
        statement :=
          some <| .createPipelineRun answer.freshId pipeline.row.id
            body.agentId body.session body.requestedBy requestedFrom
        next :=
          .runCreated body requestedFrom answer.freshId first }
  | .runCreated body requestedFrom runId first =>
    some {
      statement :=
        some <| .updatePipelineRunStatus runId .running (some 0)
      next :=
        .creating
          (TaskFactory.createPipelineStepTask body.agentId body.session
            runId first body.requestedBy requestedFrom
            answer.freshId).val
          runId 0 }
  | .creating task runId currentStep =>
    some {
      statement := some (.createTask task)
      next := .dispatching task (some (runId, currentStep)) }
  | .dispatching task refusal =>
    some (dispatchTurn server task refusal answer)
  | .deploying task refusal =>
    some {
      recordTurn task acceptedResult refusal with
      prepares := some task.id }
  | .sending task sent refusal =>
    some (recordTurn task (agentResult sent) refusal)
  | .refusing runId currentStep =>
    some <| .last <| .updatePipelineRunStatus runId .failed (some currentStep)
  | .cancelTask _ _ none =>
    -- "Not found"
    some .finish
  | .cancelTask taskId actor (some task) =>
    some <| if task.status.cancellable then
        .await (.cancelSending taskId actor)
      else
        -- "Cannot cancel task in status …"
        .finish
  | .cancelSending taskId actor =>
    some <| if answer.sent then
        .last (.updateTaskStatus taskId .cancelled {} actor)
      else
        .finish
  | .preparing taskId =>
    some <|
      match answer.raises with
      | none =>
        { statement :=
            some (.updateTaskStatus taskId .completed {} "server")
          next := .prepared taskId }
      | some error =>
        .await (.prepareFailed taskId error)
  | .prepared taskId =>
    some <|
      match answer.raises with
      | none =>
        .finish
      | some error =>
        .await (.prepareFailed taskId error)
  | .prepareFailed taskId error =>
    some <| .last <|
      .updateTaskStatus taskId .failed { error := some error } "server"

/-- The state of the task subsystem. -/
structure TaskSystem where
  db : TaskDB
  /-- The coroutine in each slot. -/
  frames : Nat → Frame
  /-- The files on the server's disk. -/
  files : Files
  /-- The reports on which a live run was moved on, in order. -/
  advanced : List (String × TaskStatus)
  /-- The tasks handed to the dispatcher, in order. -/
  dispatched : List String
  /-- The tasks whose dispatch was refused, in order. -/
  refused : List String

/-- What happens next. -/
inductive Action where
  /-- An agent's `task_status` event reaches a session. -/
  | taskStatus
      (slot : Nat)
      (clientId : Option String)
      (data : TaskStatusData)
      (now : Int)
  /-- An agent's `task_output` event reaches a session. -/
  | taskOutput (slot : Nat) (data : TaskOutputData)
  /-- A request to create a task. -/
  | createTask
      (slot : Nat)
      (body : CreateTaskRequest)
      (requestedFrom freshId : String)
      (now : Int)
  /-- A deployment submits its task. -/
  | submitDeployment
      (slot : Nat)
      (body : PrepareSubmission)
      (freshId : String)
      (now : Int)
  /-- A request to cancel a task. -/
  | cancelTask (slot : Nat) (taskId actor : String)
  /-- A request to store a pipeline definition. -/
  | createPipeline
      (slot : Nat)
      (freshId : String)
      (body : CreatePipelineRequest)
      (now : Int)
  /-- A request to run a pipeline. -/
  | runPipeline
      (slot : Nat)
      (pipelineId : String)
      (body : RunPipelineRequest)
      (requestedFrom : String)
  /-- The coroutine in a slot is resumed. -/
  | resume (slot : Nat) (answer : Answer)

namespace Action

/-- The slot of the coroutine that acts. -/
def slot : Action → Nat
  | taskStatus slot .. => slot
  | taskOutput slot _ => slot
  | createTask slot .. => slot
  | submitDeployment slot .. => slot
  | cancelTask slot .. => slot
  | createPipeline slot .. => slot
  | runPipeline slot .. => slot
  | resume slot _ => slot

/-- The time at which a statement of the action is issued. -/
def now : Action → Int
  | taskStatus _ _ _ now => now
  | createTask _ _ _ _ now => now
  | submitDeployment _ _ _ now => now
  | createPipeline _ _ _ now => now
  | resume _ answer => answer.now
  | _ => 0

def background : Action → Nat
  | resume _ answer => answer.background
  | _ => 0

end Action

/-- `context.client_id or "agent"`. -/
def actorOf : Option String → String
  | none =>
    "agent"
  | some clientId =>
    if clientId = "" then "agent" else clientId

/-- The first turn of the coroutine that an action starts. -/
def start (sys : TaskSystem) : Action → Option Turn
  | .taskStatus _ clientId data _ =>
    some {
      statement :=
        some <| .updateTaskStatus data.taskId (.ofText data.status)
          { pid := data.pid, exitCode := data.exitCode,
            error := data.error } (actorOf clientId)
      next := .statusBroadcast data.taskId (.ofText data.status) }
  | .taskOutput _ data =>
    some { output := some (data.taskId, data.data) }
  | .createTask _ body requestedFrom freshId _ =>
    let task :=
      (TaskFactory.createAgentTaskFromRequest body requestedFrom freshId).val
    some {
      statement := some (.createTask task)
      next := .dispatching task none }
  | .submitDeployment _ body freshId _ =>
    let task := (prepareTask body freshId).val
    some {
      statement := some (.createTask task)
      next := .dispatching task none }
  | .cancelTask _ taskId actor =>
    some (.await (.cancelTask taskId actor (sys.db.getTask taskId)))
  | .createPipeline _ freshId body _ =>
    some (.last (.createPipeline freshId body))
  | .runPipeline _ pipelineId body requestedFrom =>
    some <| .await <|
      .runPipeline body requestedFrom (sys.db.getPipeline pipelineId)
  | .resume _ _ =>
    none

def Frame.isIdle : Frame → Bool
  | .idle => true
  | _ => false

theorem Frame.eq_idle_of_isIdle
    {frame : Frame}
    (free : frame.isIdle = true) :
    frame = .idle := by
  cases frame with
  | idle => rfl
  | _ => cases free

/-- The turn that an action stands for, where it can happen. -/
def turn
    (server : Server)
    (sys : TaskSystem)
    (action : Action) : Option Turn :=
  match action with
  | .resume slot answer =>
    resume server sys.db answer (sys.frames slot)
  | _ =>
    if (sys.frames action.slot).isIdle then
      start sys action
    else
      none

/-- Run the statement of a turn, if it has one. -/
def Turn.perform
    (turn : Turn)
    (db : TaskDB)
    (now : Int) : Option TaskDB :=
  match turn.statement with
  | none => some db
  | some statement => db.execute now statement

/-- Append the log output of a turn, if it has one. -/
def Turn.write
    (turn : Turn)
    (logs : LogHost)
    (files : Files) : Files :=
  match turn.output with
  | none => files
  | some (taskId, data) => logs.appendLog files taskId data

/-- The state after a turn whose statement succeeded. -/
def TaskSystem.after
    (sys : TaskSystem)
    (server : Server)
    (slot : Nat)
    (turn : Turn)
    (db : TaskDB) : TaskSystem where
  db := db
  frames := Function.update sys.frames slot turn.next
  files := turn.write server.logs sys.files
  advanced := sys.advanced ++ turn.advances.toList
  dispatched := sys.dispatched ++ turn.dispatches.toList
  refused := sys.refused ++ turn.refuses.toList

/-- Start a background preparation in a slot. -/
def TaskSystem.spawn
    (sys : TaskSystem)
    (slot : Nat)
    (taskId : String) : TaskSystem :=
  { sys with
    frames := Function.update sys.frames slot (.preparing taskId) }

/--
Take a turn.  A statement that raises ends the coroutine; a background task
needs a free slot.
-/
def take
    (server : Server)
    (sys : TaskSystem)
    (action : Action)
    (turn : Turn) : Option TaskSystem :=
  match turn.perform sys.db action.now with
  | none =>
    some {
      sys with
      frames := Function.update sys.frames action.slot .idle }
  | some db =>
    let next := sys.after server action.slot turn db
    match turn.prepares with
    | none =>
      some next
    | some taskId =>
      if (next.frames action.background).isIdle &&
          (sys.frames action.background).isIdle then
        some (next.spawn action.background taskId)
      else
        none

/-- One step of the task subsystem. -/
def step?
    (server : Server)
    (sys : TaskSystem)
    (action : Action) : Option TaskSystem :=
  (turn server sys action).bind (take server sys action)

/-- The subsystem over a database, before any coroutine runs. -/
def TaskSystem.started (db : TaskDB) (files : Files) : TaskSystem where
  db := db
  frames := fun _ => .idle
  files := files
  advanced := []
  dispatched := []
  refused := []

/-- The status of a task, where it is stored. -/
def TaskSystem.statusOf
    (sys : TaskSystem)
    (taskId : String) : Option TaskStatus :=
  (sys.db.getTask taskId).map TaskRow.status

/-- A server with both handlers, whose log paths name their own files. -/
def exampleServer : Server where
  handlers := [.agent, .deployment]
  logs :=
    { logsDir := "logs/tasks"
      locate := fun path => some (Paths.Flavour.posix.text path) }

/-- A request for a task of agent `a`. -/
def exampleTaskRequest : CreateTaskRequest where
  agentId := "a"
  script := "run"
  agentIdNonempty := by decide
  scriptNonempty := by decide
  timeoutPositive := by decide

/-! ### What a step can do -/

/--
The branches of `resume`, one constructor for each: which frame is resumed,
what was decided there, and the turn that follows.
-/
inductive Resumed
    (server : Server)
    (db : TaskDB)
    (answer : Answer) : Frame → Turn → Prop where
  | reportAdvances {taskId : String} {status : TaskStatus} :
      status.advances = true →
      Resumed server db answer (.statusBroadcast taskId status)
        (.await (.advanceTask status (db.getTask taskId)))
  | reportEnds {taskId : String} {status : TaskStatus} :
      status.advances = false →
      Resumed server db answer (.statusBroadcast taskId status) .finish
  | taskFound
      {status : TaskStatus} {task : TaskRow} {runId : String} :
      task.pipelineRunId = some runId →
      runId ≠ "" →
      Resumed server db answer (.advanceTask status (some task))
        (.await (.advanceRun status task (db.getPipelineRun runId)))
  | taskMissing {status : TaskStatus} :
      Resumed server db answer (.advanceTask status none) .finish
  | taskStandalone {status : TaskStatus} {task : TaskRow} :
      task.pipelineRunId = none ∨ task.pipelineRunId = some "" →
      Resumed server db answer (.advanceTask status (some task)) .finish
  | runLive
      {status : TaskStatus} {task : TaskRow} {run : PipelineRun} :
      run.status.live = true →
      Resumed server db answer (.advanceRun status task (some run))
        { next :=
            .advancePipeline status task run (db.getPipeline run.pipelineId)
          advances := some (task.id, status) }
  | runMissing {status : TaskStatus} {task : TaskRow} :
      Resumed server db answer (.advanceRun status task none) .finish
  | runOver
      {status : TaskStatus} {task : TaskRow} {run : PipelineRun} :
      run.status.live = false →
      Resumed server db answer (.advanceRun status task (some run)) .finish
  | advanced
      {status : TaskStatus} {task : TaskRow} {run : PipelineRun}
      {pipeline : Pipeline} :
      Resumed server db answer
        (.advancePipeline status task run (some pipeline))
        (advanceTurn status task run pipeline answer.freshId)
  | pipelineMissing
      {status : TaskStatus} {task : TaskRow} {run : PipelineRun} :
      Resumed server db answer (.advancePipeline status task run none) .finish
  | runStarted
      {body : RunPipelineRequest} {requestedFrom : String}
      {pipeline : Pipeline} {first : PipelineStepRow}
      {rest : List PipelineStepRow} :
      pipeline.steps = first :: rest →
      Resumed server db answer
        (.runPipeline body requestedFrom (some pipeline))
        { statement :=
            some <| .createPipelineRun answer.freshId pipeline.row.id
              body.agentId body.session body.requestedBy requestedFrom
          next :=
            .runCreated body requestedFrom answer.freshId first }
  | runUndefined
      {body : RunPipelineRequest} {requestedFrom : String} :
      Resumed server db answer (.runPipeline body requestedFrom none) .finish
  | runEmpty
      {body : RunPipelineRequest} {requestedFrom : String}
      {pipeline : Pipeline} :
      pipeline.steps = [] →
      Resumed server db answer
        (.runPipeline body requestedFrom (some pipeline)) .finish
  | runLaunched
      {body : RunPipelineRequest} {requestedFrom runId : String}
      {first : PipelineStepRow} :
      Resumed server db answer
        (.runCreated body requestedFrom runId first)
        { statement :=
            some <| .updatePipelineRunStatus runId .running (some 0)
          next :=
            .creating
              (TaskFactory.createPipelineStepTask body.agentId
                body.session runId first body.requestedBy requestedFrom
                answer.freshId).val
              runId 0 }
  | created {task : TaskSpec} {runId : String} {currentStep : Nat} :
      Resumed server db answer (.creating task runId currentStep)
        { statement := some (.createTask task)
          next := .dispatching task (some (runId, currentStep)) }
  | handed {task : TaskSpec} {refusal : Option (String × Nat)} :
      refusedAtOnce server task answer = none →
      Resumed server db answer (.dispatching task refusal)
        { next := handlerFrame task refusal answer
          dispatches := some task.id }
  | turnedDown
      {task : TaskSpec} {refusal : Option (String × Nat)}
      {error : String} :
      refusedAtOnce server task answer = some error →
      Resumed server db answer (.dispatching task refusal)
        { recordTurn task (refusedResult error) refusal with
          dispatches := some task.id }
  | deployed {task : TaskSpec} {refusal : Option (String × Nat)} :
      Resumed server db answer (.deploying task refusal)
        { recordTurn task acceptedResult refusal with
          prepares := some task.id }
  | sent
      {task : TaskSpec} {sent : Bool}
      {refusal : Option (String × Nat)} :
      Resumed server db answer (.sending task sent refusal)
        (recordTurn task (agentResult sent) refusal)
  | refused {runId : String} {currentStep : Nat} :
      Resumed server db answer (.refusing runId currentStep)
        (.last <| .updatePipelineRunStatus runId .failed (some currentStep))
  | cancelAllowed {taskId actor : String} {task : TaskRow} :
      task.status.cancellable = true →
      Resumed server db answer (.cancelTask taskId actor (some task))
        (.await (.cancelSending taskId actor))
  | cancelMissing {taskId actor : String} :
      Resumed server db answer (.cancelTask taskId actor none) .finish
  | cancelDenied {taskId actor : String} {task : TaskRow} :
      task.status.cancellable = false →
      Resumed server db answer (.cancelTask taskId actor (some task)) .finish
  | cancelSent {taskId actor : String} :
      answer.sent = true →
      Resumed server db answer (.cancelSending taskId actor)
        (.last (.updateTaskStatus taskId .cancelled {} actor))
  | cancelUnsent {taskId actor : String} :
      answer.sent = false →
      Resumed server db answer (.cancelSending taskId actor) .finish
  | packaged {taskId : String} :
      answer.raises = none →
      Resumed server db answer (.preparing taskId)
        { statement :=
            some (.updateTaskStatus taskId .completed {} "server")
          next := .prepared taskId }
  | packagingRaised {taskId error : String} :
      answer.raises = some error →
      Resumed server db answer (.preparing taskId)
        (.await (.prepareFailed taskId error))
  | prepareEnds {taskId : String} :
      answer.raises = none →
      Resumed server db answer (.prepared taskId) .finish
  | preparedRaised {taskId error : String} :
      answer.raises = some error →
      Resumed server db answer (.prepared taskId)
        (.await (.prepareFailed taskId error))
  | prepareFailed {taskId error : String} :
      Resumed server db answer (.prepareFailed taskId error)
        (.last <| .updateTaskStatus taskId .failed
          { error := some error } "server")

variable {server : Server}

/-- Resuming a frame takes one of the branches. -/
theorem resume_cases
    {db : TaskDB}
    {answer : Answer}
    {frame : Frame}
    {turn : Turn}
    (resumes : resume server db answer frame = some turn) :
    Resumed server db answer frame turn := by
  cases frame with
  | idle =>
    cases resumes
  | statusBroadcast taskId status =>
    cases resumes
    split
    · rename_i advances
      exact .reportAdvances advances
    · rename_i ends
      exact .reportEnds (Bool.eq_false_iff.mpr ends)
  | advanceTask status task =>
    cases task with
    | none =>
      cases resumes
      exact .taskMissing
    | some task =>
      simp only [resume] at resumes
      split at resumes
      · rename_i standalone
        cases resumes
        exact .taskStandalone (.inl standalone)
      · rename_i runId belongs
        cases resumes
        split
        · rename_i blank
          exact .taskStandalone (.inr (blank ▸ belongs))
        · rename_i named
          exact .taskFound belongs named
  | advanceRun status task run =>
    cases run with
    | none =>
      cases resumes
      exact .runMissing
    | some run =>
      cases resumes
      split
      · rename_i live
        exact .runLive live
      · rename_i ended
        exact .runOver (Bool.eq_false_iff.mpr ended)
  | advancePipeline status task run pipeline =>
    cases pipeline with
    | none =>
      cases resumes
      exact .pipelineMissing
    | some pipeline =>
      cases resumes
      exact .advanced
  | runPipeline body requestedFrom pipeline =>
    cases pipeline with
    | none =>
      cases resumes
      exact .runUndefined
    | some pipeline =>
      simp only [resume] at resumes
      split at resumes
      · rename_i empty
        cases resumes
        exact .runEmpty empty
      · rename_i steps
        cases resumes
        exact .runStarted steps
  | runCreated body requestedFrom runId first =>
    cases resumes
    exact .runLaunched
  | creating task runId currentStep =>
    cases resumes
    exact .created
  | dispatching task refusal =>
    cases resumes
    unfold dispatchTurn
    split
    · rename_i refused
      exact .turnedDown refused
    · rename_i accepted
      exact .handed accepted
  | deploying task refusal =>
    cases resumes
    exact .deployed
  | sending task sent refusal =>
    cases resumes
    exact .sent
  | refusing runId currentStep =>
    cases resumes
    exact .refused
  | cancelTask taskId actor task =>
    cases task with
    | none =>
      cases resumes
      exact .cancelMissing
    | some task =>
      cases resumes
      split
      · rename_i allowed
        exact .cancelAllowed allowed
      · rename_i denied
        exact .cancelDenied (Bool.eq_false_iff.mpr denied)
  | cancelSending taskId actor =>
    cases resumes
    split
    · rename_i sent
      exact .cancelSent sent
    · rename_i unsent
      exact .cancelUnsent (Bool.eq_false_iff.mpr unsent)
  | preparing taskId =>
    cases resumes
    split
    · rename_i quiet
      exact .packaged quiet
    · rename_i raised
      exact .packagingRaised raised
  | prepared taskId =>
    cases resumes
    split
    · rename_i quiet
      exact .prepareEnds quiet
    · rename_i raised
      exact .preparedRaised raised
  | prepareFailed taskId error =>
    cases resumes
    exact .prepareFailed

theorem recordTurn_next
    (task : TaskSpec)
    (result : TaskDispatchResult)
    (refusal : Option (String × Nat)) :
    (recordTurn task result refusal).next = .idle ∨
      ∃ runId currentStep,
        result.accepted = false ∧
          refusal = some (runId, currentStep) ∧
          (recordTurn task result refusal).next =
            .refusing runId currentStep := by
  unfold recordTurn
  dsimp only
  split
  · exact .inl rfl
  · rename_i refused
    cases refusal with
    | none =>
      exact .inl rfl
    | some failing =>
      exact .inr ⟨_, _, Bool.eq_false_iff.mpr refused, rfl, rfl⟩

theorem turn_cases
    {sys : TaskSystem}
    {action : Action}
    {turn : Turn}
    (begins : Tasks.turn server sys action = some turn) :
    (∃ slot answer,
      action = .resume slot answer ∧
        Resumed server sys.db answer (sys.frames slot) turn) ∨
      ((sys.frames action.slot).isIdle = true ∧
        start sys action = some turn) := by
  unfold Tasks.turn at begins
  split at begins
  · rename_i slot answer
    exact .inl ⟨slot, answer, rfl, resume_cases begins⟩
  · split at begins
    · rename_i free
      exact .inr ⟨free, begins⟩
    · cases begins

/-- The ways in which a turn is taken. -/
inductive Took
    (server : Server)
    (sys : TaskSystem)
    (action : Action)
    (turn : Turn) : TaskSystem → Prop where
  /-- The statement raised, which ends the coroutine. -/
  | raised :
      turn.perform sys.db action.now = none →
      Took server sys action turn
        { sys with
          frames := Function.update sys.frames action.slot .idle }
  /-- The coroutine reached its next suspension. -/
  | passed (db : TaskDB) :
      turn.perform sys.db action.now = some db →
      turn.prepares = none →
      Took server sys action turn (sys.after server action.slot turn db)
  /-- It also started a background preparation. -/
  | spawned (db : TaskDB) (taskId : String) :
      turn.perform sys.db action.now = some db →
      turn.prepares = some taskId →
      (sys.frames action.background).isIdle = true →
      Took server sys action turn
        ((sys.after server action.slot turn db).spawn action.background taskId)

theorem step_cases
    {before after : TaskSystem}
    {action : Action}
    (taken : step? server before action = some after) :
    ∃ turn,
      Tasks.turn server before action = some turn ∧
        Took server before action turn after := by
  unfold step? at taken
  rw [Option.bind_eq_some_iff] at taken
  obtain ⟨turn, begins, taken⟩ := taken
  refine ⟨turn, begins, ?_⟩
  unfold take at taken
  cases performed : turn.perform before.db action.now with
  | none =>
    simp only [performed, Option.some.injEq] at taken
    subst after
    exact .raised performed
  | some db =>
    simp only [performed] at taken
    cases prepares : turn.prepares with
    | none =>
      simp only [prepares, Option.some.injEq] at taken
      subst after
      exact .passed db performed prepares
    | some taskId =>
      simp only [prepares] at taken
      split at taken
      · rename_i free
        cases taken
        rw [Bool.and_eq_true] at free
        exact .spawned db taskId performed prepares free.2
      · cases taken

theorem prepares_running
    {before : TaskSystem}
    {action : Action}
    {turn : Turn}
    (begins : Tasks.turn server before action = some turn)
    {taskId : String}
    (prepares : turn.prepares = some taskId) :
    ∃ slot answer task refusal,
      action = .resume slot answer ∧
        before.frames slot = .deploying task refusal ∧
        task.id = taskId ∧
        turn.statement =
          some (.updateTaskStatus taskId .running {} "server") := by
  rcases turn_cases begins with ⟨slot, answer, rfl, resumed⟩ | ⟨_, starts⟩
  · generalize suspended : before.frames slot = frame at resumed
    cases resumed with
    | @deployed task refusal =>
      cases prepares
      exact ⟨slot, answer, task, refusal, rfl, suspended, rfl, rfl⟩
    | advanced =>
      unfold advanceTurn at prepares
      split at prepares <;> cases prepares
    | _ =>
      cases prepares
  · cases action with
    | resume =>
      cases starts
    | _ =>
      cases starts
      cases prepares

theorem Turn.extends_perform
    {turn : Turn}
    {db after : TaskDB}
    {now : Int}
    (performed : turn.perform db now = some after) :
    Extends db after := by
  unfold Turn.perform at performed
  split at performed
  · rw [← Option.some.inj performed]
    exact .refl _
  · exact extends_execute performed

namespace Took

variable
    {server : Server}
    {before after : TaskSystem}
    {action : Action}
    {turn : Turn}

section Turns

variable
    (took : Took server before action turn after)
include took

theorem db :
    turn.perform before.db action.now = some after.db ∨
      (turn.perform before.db action.now = none ∧ after.db = before.db) := by
  cases took with
  | raised performed =>
    exact .inr ⟨performed, rfl⟩
  | passed db performed _ =>
    exact .inl performed
  | spawned db taskId performed _ _ =>
    exact .inl performed

/-- The rows are as they were, or a statement has executed on them. -/
theorem executed :
    after.db = before.db ∨
      ∃ statement,
        turn.statement = some statement ∧
          turn.perform before.db action.now = some after.db ∧
            before.db.execute action.now statement = some after.db := by
  rcases took.db with performed | ⟨_, same⟩
  · cases issues : turn.statement with
    | none =>
      simp only [Turn.perform, issues, Option.some.injEq] at performed
      exact .inl performed.symm
    | some statement =>
      have executes := performed
      simp only [Turn.perform, issues] at executes
      exact .inr ⟨statement, rfl, performed, executes⟩
  · exact .inl same

theorem extends_db :
    Extends before.db after.db := by
  rcases took.executed with same | ⟨_, _, _, executes⟩
  · rw [same]
    exact .refl _
  · exact extends_execute executes

/--
The frame in a slot after a step: a coroutine that did not act is where it
was, the one that acted is at the end of its turn or has ended, and a
background preparation may have started in a free slot.
-/
theorem frame
    (slot : Nat) :
    (slot ≠ action.slot ∧ after.frames slot = before.frames slot) ∨
      (slot = action.slot ∧ after.frames slot = .idle ∧
        turn.perform before.db action.now = none) ∨
      (slot = action.slot ∧ after.frames slot = turn.next ∧
        turn.perform before.db action.now = some after.db) ∨
      ∃ taskId,
        slot = action.background ∧
          before.frames slot = .idle ∧
          turn.prepares = some taskId ∧
          after.frames slot = .preparing taskId ∧
          turn.perform before.db action.now = some after.db := by
  cases took with
  | raised performed =>
    by_cases acts : slot = action.slot
    · exact .inr (.inl ⟨acts, by simp [acts], performed⟩)
    · simp [acts]
  | passed db performed _ =>
    by_cases acts : slot = action.slot
    · subst slot
      exact .inr (.inr (.inl ⟨rfl, by simp [TaskSystem.after],
        performed⟩))
    · exact .inl ⟨acts, by simp [TaskSystem.after, acts]⟩
  | spawned db taskId performed prepares free =>
    by_cases starts : slot = action.background
    · subst slot
      exact .inr (.inr (.inr ⟨taskId, rfl,
        Frame.eq_idle_of_isIdle free, prepares,
        by simp [TaskSystem.spawn], performed⟩))
    · by_cases acts : slot = action.slot
      · subst slot
        refine .inr (.inr (.inl ⟨rfl, ?_, performed⟩))
        simp [TaskSystem.spawn, TaskSystem.after, starts]
      · refine .inl ⟨acts, ?_⟩
        simp [TaskSystem.spawn, TaskSystem.after, starts, acts]

theorem frame_other
    {slot : Nat}
    (elsewhere : slot ≠ action.slot)
    (suspended : before.frames slot ≠ .idle) :
    after.frames slot = before.frames slot := by
  rcases took.frame slot with
    ⟨_, kept⟩ | ⟨acts, _⟩ | ⟨acts, _⟩ | ⟨_, _, free, _⟩
  · exact kept
  · exact (elsewhere acts).elim
  · exact (elsewhere acts).elim
  · exact (suspended free).elim

theorem frame_acting
    (begins : Tasks.turn server before action = some turn)
    (performed : turn.perform before.db action.now = some after.db) :
    after.frames action.slot = turn.next := by
  rcases took.frame action.slot with
    ⟨elsewhere, _⟩ | ⟨_, _, fails⟩ | ⟨_, reached, _⟩ |
    ⟨_, _, free, prepares, _⟩
  · exact (elsewhere rfl).elim
  · rw [performed] at fails
    cases fails
  · exact reached
  · obtain ⟨slot, answer, task, refusal, rfl, suspended, _⟩ :=
      prepares_running begins prepares
    have suspendedIdle : Frame.deploying task refusal = .idle :=
      suspended.symm.trans free
    cases suspendedIdle

end Turns

end Took

theorem getTask_execute
    {db after : TaskDB}
    {now : Int}
    {statement : Statement}
    (executed : db.execute now statement = some after)
    (taskId : String) :
    (∃ task,
        statement = .createTask task ∧ task.id = taskId ∧
          after.getTask taskId = some (newTaskRow now task)) ∨
      (∃ status detail actor,
        statement = .updateTaskStatus taskId status detail actor ∧
          after.getTask taskId =
            (db.getTask taskId).map (withStatus now status detail)) ∨
      after.getTask taskId = db.getTask taskId := by
  cases statement with
  | createTask task =>
    have lookup := getTask_createTask executed taskId
    by_cases same : task.id = taskId
    · rw [if_pos same] at lookup
      exact .inl ⟨task, rfl, same, lookup⟩
    · rw [if_neg same] at lookup
      exact .inr (.inr lookup)
  | updateTaskStatus updated status detail actor =>
    cases executed
    have lookup :=
      db.getTask_updateTaskStatus now updated status detail actor taskId
    by_cases same : updated = taskId
    · rw [if_pos same] at lookup
      subst updated
      exact .inr (.inl ⟨status, detail, actor, rfl, lookup⟩)
    · rw [if_neg same] at lookup
      exact .inr (.inr lookup)
  | createPipeline pipelineId body =>
    cases executed
    obtain ⟨tasks, _⟩ := db.createPipeline_tasks now pipelineId body
    exact .inr (.inr (by simp only [getTask, tasks]))
  | createPipelineRun runId pipelineId agentId session requestedBy
      requestedFrom =>
      obtain ⟨_, _, tasks, _⟩ := createPipelineRun_eq_some executed
      exact .inr (.inr (by simp only [getTask, tasks]))
  | updatePipelineRunStatus runId status currentStep =>
    cases executed
    exact .inr (.inr rfl)

theorem runStatus_execute
    {db after : TaskDB}
    {now : Int}
    {statement : Statement}
    (executed : db.execute now statement = some after)
    (runId : String) :
    (db.runStatus runId = none ∧
        after.runStatus runId = some .queued) ∨
      (∃ status currentStep,
        statement =
            .updatePipelineRunStatus runId status currentStep ∧
          after.runStatus runId = (db.runStatus runId).map fun _ => status) ∨
      after.runStatus runId = db.runStatus runId := by
  cases statement with
  | createTask task =>
    obtain ⟨_, _, _, runs⟩ := createTask_eq_some executed
    exact .inr (.inr (by rw [runStatus, runStatus, runs]))
  | updateTaskStatus updated status detail actor =>
    cases executed
    exact .inr (.inr rfl)
  | createPipeline pipelineId body =>
    cases executed
    obtain ⟨_, runs⟩ := db.createPipeline_tasks now pipelineId body
    exact .inr (.inr (by rw [runStatus, runStatus, runs]))
  | createPipelineRun created pipelineId agentId session requestedBy
      requestedFrom =>
      obtain ⟨_, inserted, _⟩ := createPipelineRun_eq_some executed
      have lookup := KeyedTable.find?_insert? inserted runId
      by_cases same : created = runId
      · rw [if_pos same] at lookup
        subst created
        have fresh : db.pipelineRuns.find? runId = none :=
          KeyedTable.find?_eq_none_of_insert? inserted
        exact .inl ⟨by rw [runStatus, fresh]; rfl,
          by rw [runStatus, lookup]; rfl⟩
      · rw [if_neg same] at lookup
        exact .inr (.inr (by rw [runStatus, runStatus, lookup]))
  | updatePipelineRunStatus updated status currentStep =>
    cases executed
    by_cases same : updated = runId
    · subst updated
      exact .inr (.inl ⟨status, currentStep, rfl,
        db.runStatus_updatePipelineRunStatus now runId status
          currentStep "system"⟩)
    · have lookup :=
        db.find?_updatePipelineRunStatus now updated status currentStep
          "system" runId
      rw [if_neg same] at lookup
      exact .inr (.inr (by rw [runStatus, runStatus, lookup]))

end RpaPlatform.Tasks
