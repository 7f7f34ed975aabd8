import Mathlib.Data.List.Sort
import Mathlib.Logic.Function.Basic
import Mathlib.Order.Defs.LinearOrder
import RpaPlatform.FilePaths
import RpaPlatform.KeyedTable
import RpaPlatform.TaskModels

namespace RpaPlatform.Tasks

/-!
# The task database

The tables of the task subsystem and the statements that `TaskDB` runs on
them.  Each statement is one function on the database: an `INSERT` fails on a
taken key, an `UPDATE` is unguarded and leaves the identity columns of its
row alone.  Lemmas beside each statement say what it does to the rows, to
their identities and to the pipeline definitions, so that later modules never
unfold a statement.
-/

/-- A row of the table of tasks. -/
structure TaskRow where
  id : String
  pipelineRunId : Option String
  stepIndex : Nat
  agentId : String
  session : String
  name : String
  script : String
  cwd : String
  timeoutSec : Int
  status : TaskStatus
  pid : Option Int
  exitCode : Option Int
  error : Option String
  requestedBy : String
  requestedFrom : String
  createdAt : Int
  startedAt : Option Int
  completedAt : Option Int
  kind : TaskKind
  payload : List (String × Json)
  components : List TaskComponent

/-- A row of the table of pipeline definitions. -/
structure PipelineRow where
  id : String
  name : String
  description : String
  createdBy : String
  createdAt : Int
  updatedAt : Int

/-- The statuses that the server gives to a pipeline run. -/
inductive RunStatus where
  | queued
  | running
  | completed
  | failed
  | cancelled
deriving DecidableEq

namespace RunStatus

/-- The status column's text. -/
def text : RunStatus → String
  | queued => "queued"
  | running => "running"
  | completed => "completed"
  | failed => "failed"
  | cancelled => "cancelled"

/-- `run["status"] in ("running", "queued")`. -/
def live : RunStatus → Bool
  | running | queued => true
  | _ => false

/-- `status in ("completed", "failed", "cancelled")`. -/
def terminal : RunStatus → Bool
  | completed | failed | cancelled => true
  | _ => false

end RunStatus

/-- A row of the table of pipeline runs. -/
structure PipelineRunRow where
  id : String
  pipelineId : String
  agentId : String
  session : String
  status : RunStatus
  currentStep : Nat
  requestedBy : String
  requestedFrom : String
  createdAt : Int
  startedAt : Option Int
  completedAt : Option Int

/-- A row of the audit log. -/
structure AuditRow where
  ts : Int
  entityType : String
  entityId : String
  action : String
  actor : String
  detail : String
  ipAddress : String

/-- The key of a pipeline step: `UNIQUE(pipeline_id, step_index)`. -/
def PipelineStepRow.key (step : PipelineStepRow) : String × Nat :=
  (step.pipelineId, step.stepIndex)

/-- The tables of the task subsystem. -/
structure TaskDB where
  tasks : KeyedTable TaskRow TaskRow.id
  pipelines : KeyedTable PipelineRow PipelineRow.id
  pipelineSteps : KeyedTable PipelineStepRow PipelineStepRow.key
  pipelineRuns : KeyedTable PipelineRunRow PipelineRunRow.id
  auditLog : List AuditRow

/-- The identity columns of a stored task. -/
def TaskRow.identity (row : TaskRow) : TaskIdentity where
  id := row.id
  kind := row.kind
  agentId := row.agentId
  pipelineRunId := row.pipelineRunId
  stepIndex := row.stepIndex

/-- The columns of a run that no statement of the store ever updates. -/
structure RunIdentity where
  id : String
  pipelineId : String
  agentId : String
deriving DecidableEq

/-- The identity columns of a stored run. -/
def PipelineRunRow.identity (row : PipelineRunRow) : RunIdentity where
  id := row.id
  pipelineId := row.pipelineId
  agentId := row.agentId

namespace TaskDB

/-- A database without rows. -/
def empty : TaskDB where
  tasks := .empty
  pipelines := .empty
  pipelineSteps := .empty
  pipelineRuns := .empty
  auditLog := []

def audit
    (db : TaskDB)
    (ts : Int)
    (entityType entityId action actor detail : String)
    (ipAddress : String := "") : TaskDB :=
  { db with
    auditLog :=
      db.auditLog ++
        [{ ts, entityType, entityId, action, actor, detail, ipAddress }] }

/-- The row that `create_task` inserts. -/
def newTaskRow (now : Int) (task : TaskSpec) : TaskRow where
  id := task.id
  pipelineRunId := task.pipelineRunId
  stepIndex := task.stepIndex
  agentId := task.agentId
  session := task.session
  name := task.name
  script := task.script
  cwd := task.cwd
  timeoutSec := task.timeoutSec
  status := .queued
  pid := none
  exitCode := none
  error := none
  requestedBy := task.requestedBy
  requestedFrom := task.requestedFrom
  createdAt := now
  startedAt := none
  completedAt := none
  kind := task.kind
  payload := task.payload
  components := task.components

/-- Insert a queued task; `none` is the integrity error of a taken id. -/
def createTask
    (db : TaskDB)
    (now : Int)
    (task : TaskSpec) : Option TaskDB :=
  match db.tasks.insert? (newTaskRow now task) with
  | none =>
    none
  | some tasks =>
    some <| { db with tasks }.audit now "task" task.id "created"
      task.requestedBy
      ("kind=" ++ task.kind.text ++
        ", script_len=" ++ toString task.script.length ++
        ", agent=" ++ task.agentId)
      task.requestedFrom

/-- The optional columns of a status update. -/
structure StatusDetail where
  pid : Option Int := none
  exitCode : Option Int := none
  error : Option String := none

/-- What `update_task_status` does to the row it names. -/
def withStatus
    (now : Int)
    (status : TaskStatus)
    (detail : StatusDetail)
    (row : TaskRow) : TaskRow :=
  { row with
    status
    startedAt :=
      if status = .running then some now else row.startedAt
    completedAt :=
      if status.terminal then some now else row.completedAt
    pid := detail.pid.or row.pid
    exitCode := detail.exitCode.or row.exitCode
    error := detail.error.or row.error }

theorem id_withStatus
    (now : Int)
    (status : TaskStatus)
    (detail : StatusDetail)
    (row : TaskRow) :
    (withStatus now status detail row).id = row.id :=
  rfl

/-- The audit text of a status update. -/
def statusAuditText (detail : StatusDetail) : String :=
  let parts :=
    (detail.pid.map fun pid => "pid=" ++ toString pid).toList ++
      (detail.exitCode.map fun code =>
        "exit_code=" ++ toString code).toList
  let joined := String.intercalate " " parts
  match detail.error with
  | none =>
    joined
  | some error =>
    if error = "" then
      joined
    else
      joined ++ " error=" ++ String.ofList (error.toList.take 200)

/-- The unguarded `UPDATE` of a task's status. -/
def updateTaskStatus
    (db : TaskDB)
    (now : Int)
    (taskId : String)
    (status : TaskStatus)
    (detail : StatusDetail)
    (actor : String) : TaskDB :=
  { db with
    tasks :=
      db.tasks.modify taskId (withStatus now status detail)
        (id_withStatus now status detail) }.audit now "task" taskId status.text actor
    (statusAuditText detail)

def getTask (db : TaskDB) (taskId : String) : Option TaskRow :=
  db.tasks.find? taskId

/-- The row of one step of a requested pipeline. -/
def newStepRow
    (pipelineId : String)
    (step : PipelineStepRequest) : PipelineStepRow where
  pipelineId := pipelineId
  stepIndex := step.stepIndex
  name := step.name
  script := step.script
  cwd := step.cwd
  timeoutSec := step.timeoutSec
  onFail := step.onFail
  retryCount := step.retryCount

/-- Insert steps one by one, up to the first duplicate. -/
def insertSteps :
    KeyedTable PipelineStepRow PipelineStepRow.key →
    List PipelineStepRow →
    KeyedTable PipelineStepRow PipelineStepRow.key × Bool
  | table, [] =>
    (table, true)
  | table, step :: rest =>
    match table.insert? step with
    | none =>
      (table, false)
    | some extended =>
      insertSteps extended rest

/--
Store a pipeline definition.  The rows inserted before a duplicate stay; the
flag tells whether the definition was accepted.
-/
def createPipeline
    (db : TaskDB)
    (now : Int)
    (pipelineId : String)
    (body : CreatePipelineRequest) : TaskDB × Bool :=
  match db.pipelines.insert?
      { id := pipelineId, name := body.name,
        description := body.description,
        createdBy := body.createdBy,
        createdAt := now, updatedAt := now } with
  | none =>
    (db, false)
  | some pipelines =>
    let inserted :=
      insertSteps db.pipelineSteps (body.steps.map (newStepRow pipelineId))
    let stored :=
      { db with pipelines, pipelineSteps := inserted.1 }
    if inserted.2 then
      (stored.audit now "pipeline" pipelineId "created" body.createdBy
        ("name=" ++ body.name ++
          ", steps=" ++ toString body.steps.length), true)
    else
      (stored, false)

/-- The steps of a pipeline, ordered by their index. -/
def stepsOf (db : TaskDB) (pipelineId : String) : List PipelineStepRow :=
  (db.pipelineSteps.rows.filter fun step =>
    decide (step.pipelineId = pipelineId)).insertionSort
      fun first second => first.stepIndex ≤ second.stepIndex

/-- A pipeline with its ordered steps. -/
structure Pipeline where
  row : PipelineRow
  steps : List PipelineStepRow

def getPipeline (db : TaskDB) (pipelineId : String) : Option Pipeline :=
  (db.pipelines.find? pipelineId).map fun row =>
    { row, steps := db.stepsOf pipelineId }

/--
Insert a queued run; `none` is the integrity error of a taken id or of a
pipeline that does not exist.
-/
def createPipelineRun
    (db : TaskDB)
    (now : Int)
    (runId pipelineId agentId session requestedBy requestedFrom : String) :
    Option TaskDB :=
  if (db.pipelines.find? pipelineId).isSome then
    match db.pipelineRuns.insert?
        { id := runId, pipelineId, agentId, session,
          status := .queued, currentStep := 0,
          requestedBy, requestedFrom,
          createdAt := now, startedAt := none, completedAt := none } with
    | none =>
      none
    | some pipelineRuns =>
      some <| { db with pipelineRuns }.audit now "pipeline_run" runId
        "created" requestedBy
        ("pipeline=" ++ pipelineId ++ ", agent=" ++ agentId)
        requestedFrom
  else
    none

/-- What `update_pipeline_run_status` does to the row it names. -/
def withRunStatus
    (now : Int)
    (status : RunStatus)
    (currentStep : Option Nat)
    (row : PipelineRunRow) : PipelineRunRow :=
  { row with
    status
    startedAt :=
      if status = .running then some now else row.startedAt
    completedAt :=
      if status.terminal then some now else row.completedAt
    currentStep := currentStep.getD row.currentStep }

theorem id_withRunStatus
    (now : Int)
    (status : RunStatus)
    (currentStep : Option Nat)
    (row : PipelineRunRow) :
    (withRunStatus now status currentStep row).id = row.id :=
  rfl

/-- The unguarded `UPDATE` of a run's status. -/
def updatePipelineRunStatus
    (db : TaskDB)
    (now : Int)
    (runId : String)
    (status : RunStatus)
    (currentStep : Option Nat)
    (actor : String := "system") : TaskDB :=
  { db with
    pipelineRuns :=
      db.pipelineRuns.modify runId (withRunStatus now status currentStep)
        (id_withRunStatus now status currentStep) }.audit now "pipeline_run" runId status.text actor
    (match currentStep with
      | none => ""
      | some step => "step=" ++ toString step)

/-- A run with its tasks, as `get_pipeline_run` returns it. -/
structure PipelineRun extends PipelineRunRow where
  tasks : List TaskRow

/-- The tasks of a run, ordered by their step index. -/
def tasksOfRun (db : TaskDB) (runId : String) : List TaskRow :=
  (db.tasks.rows.filter fun row =>
    decide (row.pipelineRunId = some runId)).insertionSort
      fun first second => first.stepIndex ≤ second.stepIndex

def getPipelineRun (db : TaskDB) (runId : String) : Option PipelineRun :=
  (db.pipelineRuns.find? runId).map fun row =>
    { row with tasks := db.tasksOfRun runId }

def runStatus (db : TaskDB) (runId : String) : Option RunStatus :=
  (db.pipelineRuns.find? runId).map PipelineRunRow.status

def taskIdentities (db : TaskDB) : List TaskIdentity :=
  db.tasks.rows.map TaskRow.identity

def runIdentities (db : TaskDB) : List RunIdentity :=
  db.pipelineRuns.rows.map PipelineRunRow.identity

@[simp]
theorem identity_newTaskRow (now : Int) (task : TaskSpec) :
    (newTaskRow now task).identity = task.identity :=
  rfl

/-! ### What each statement does -/

variable
    {db created : TaskDB}
    {now : Int}
    {task : TaskSpec}
    {runId pipelineId agentId session requestedBy requestedFrom : String}
    {after : TaskDB}
    {statement : Statement}

theorem createTask_eq_some
    (creates : db.createTask now task = some created) :
    db.tasks.insert? (newTaskRow now task) = some created.tasks ∧
      created.pipelines = db.pipelines ∧
      created.pipelineSteps = db.pipelineSteps ∧
      created.pipelineRuns = db.pipelineRuns := by
  unfold createTask at creates
  cases inserted : db.tasks.insert? (newTaskRow now task) with
  | none =>
    simp [inserted] at creates
  | some tasks =>
    simp only [inserted, Option.some.injEq] at creates
    subst created
    exact ⟨rfl, rfl, rfl, rfl⟩

theorem taskIdentities_createTask
    (creates : db.createTask now task = some created) :
    created.taskIdentities = db.taskIdentities ++ [task.identity] := by
  obtain ⟨inserted, _⟩ := createTask_eq_some creates
  simp [taskIdentities, (KeyedTable.insert?_eq_some inserted).2]

theorem createTask_fresh
    (creates : db.createTask now task = some created) :
    task.id ∉ db.taskIdentities.map TaskIdentity.id := by
  obtain ⟨inserted, _⟩ := createTask_eq_some creates
  have fresh := (KeyedTable.insert?_eq_some inserted).1
  simpa [taskIdentities, Function.comp_def, TaskRow.identity,
    newTaskRow] using fresh

theorem createTask_isSome
    (now : Int)
    (fresh : task.id ∉ db.taskIdentities.map TaskIdentity.id) :
    (db.createTask now task).isSome = true := by
  have freshKey : (newTaskRow now task).id ∉ db.tasks.rows.map TaskRow.id := by
    simpa [taskIdentities, Function.comp_def, TaskRow.identity,
      newTaskRow] using fresh
  obtain ⟨extended, inserted⟩ :=
    Option.isSome_iff_exists.mp (db.tasks.insert?_isSome freshKey)
  unfold createTask
  simp [inserted]

theorem getTask_eq_none_of_createTask
    (creates : db.createTask now task = some created) :
    db.getTask task.id = none := by
  obtain ⟨inserted, _⟩ := createTask_eq_some creates
  exact KeyedTable.find?_eq_none_of_insert? inserted

theorem getTask_createTask
    (creates : db.createTask now task = some created)
    (taskId : String) :
    created.getTask taskId = if task.id = taskId then
        some (newTaskRow now task)
      else
        db.getTask taskId :=
  KeyedTable.find?_insert? (createTask_eq_some creates).1 taskId

theorem getTask_updateTaskStatus
    (db : TaskDB)
    (now : Int)
    (updated : String)
    (status : TaskStatus)
    (detail : StatusDetail)
    (actor taskId : String) :
    (db.updateTaskStatus now updated status detail actor).getTask taskId =
      if updated = taskId then
        (db.getTask taskId).map (withStatus now status detail)
      else
        db.getTask taskId :=
  db.tasks.find?_modify updated (withStatus now status detail)
    (fun _ => rfl) taskId

@[simp]
theorem taskIdentities_updateTaskStatus
    (db : TaskDB)
    (now : Int)
    (taskId : String)
    (status : TaskStatus)
    (detail : StatusDetail)
    (actor : String) :
    (db.updateTaskStatus now taskId status detail actor).taskIdentities =
      db.taskIdentities :=
  db.tasks.map_modify TaskRow.identity taskId
    (withStatus now status detail) (fun _ => rfl) fun _ => rfl

@[simp]
theorem runIdentities_updatePipelineRunStatus
    (db : TaskDB)
    (now : Int)
    (runId : String)
    (status : RunStatus)
    (currentStep : Option Nat)
    (actor : String) :
    (db.updatePipelineRunStatus now runId status currentStep
        actor).runIdentities =
      db.runIdentities :=
  db.pipelineRuns.map_modify PipelineRunRow.identity runId
    (withRunStatus now status currentStep) (fun _ => rfl) fun _ => rfl

theorem find?_updatePipelineRunStatus
    (db : TaskDB)
    (now : Int)
    (updated : String)
    (status : RunStatus)
    (currentStep : Option Nat)
    (actor runId : String) :
    (db.updatePipelineRunStatus now updated status currentStep
        actor).pipelineRuns.find? runId =
      if updated = runId then
        (db.pipelineRuns.find? runId).map (withRunStatus now status currentStep)
      else
        db.pipelineRuns.find? runId :=
  db.pipelineRuns.find?_modify updated
    (withRunStatus now status currentStep) (fun _ => rfl) runId

theorem runStatus_updatePipelineRunStatus
    (db : TaskDB)
    (now : Int)
    (runId : String)
    (status : RunStatus)
    (currentStep : Option Nat)
    (actor : String) :
    (db.updatePipelineRunStatus now runId status currentStep
        actor).runStatus runId =
      (db.runStatus runId).map fun _ => status := by
  rw [runStatus, find?_updatePipelineRunStatus, if_pos rfl, runStatus,
    Option.map_map, Option.map_map]
  rfl

theorem runStatus_isSome
    {runId : String}
    (created : runId ∈ db.runIdentities.map RunIdentity.id) :
    (db.runStatus runId).isSome = true := by
  obtain ⟨run, member, rfl⟩ := List.mem_map.mp created
  obtain ⟨row, stored, rfl⟩ := List.mem_map.mp member
  have found : db.pipelineRuns.find? row.id = some row :=
    db.pipelineRuns.find?_eq_some_iff.mpr ⟨stored, rfl⟩
  rw [runStatus]
  simp only [PipelineRunRow.identity, found, Option.map_some,
    Option.isSome_some]

section Launches

variable
    (creates :
      db.createPipelineRun now runId pipelineId agentId session
        requestedBy requestedFrom = some created)
include creates

theorem createPipelineRun_eq_some :
    (db.pipelines.find? pipelineId).isSome = true ∧
      db.pipelineRuns.insert?
          { id := runId, pipelineId, agentId, session,
            status := .queued, currentStep := 0,
            requestedBy, requestedFrom,
            createdAt := now, startedAt := none, completedAt := none } =
        some created.pipelineRuns ∧
      created.tasks = db.tasks ∧
      created.pipelines = db.pipelines ∧
      created.pipelineSteps = db.pipelineSteps := by
  unfold createPipelineRun at creates
  by_cases defined : (db.pipelines.find? pipelineId).isSome = true
  · rw [if_pos defined] at creates
    split at creates
    · cases creates
    · rename_i inserted
      cases creates
      exact ⟨defined, inserted, rfl, rfl, rfl⟩
  · rw [if_neg defined] at creates
    cases creates

theorem runIdentities_createPipelineRun :
    created.runIdentities =
      db.runIdentities ++ [{ id := runId, pipelineId, agentId }] := by
  obtain ⟨_, inserted, _⟩ := createPipelineRun_eq_some creates
  simp [runIdentities, (KeyedTable.insert?_eq_some inserted).2,
    PipelineRunRow.identity]

theorem createPipelineRun_fresh :
    runId ∉ db.runIdentities.map RunIdentity.id := by
  obtain ⟨_, inserted, _⟩ := createPipelineRun_eq_some creates
  have fresh := (KeyedTable.insert?_eq_some inserted).1
  simpa [runIdentities, Function.comp_def, PipelineRunRow.identity] using fresh

end Launches

theorem insertSteps_rows
    (table : KeyedTable PipelineStepRow PipelineStepRow.key)
    (steps : List PipelineStepRow) :
    ∃ added,
      (insertSteps table steps).1.rows = table.rows ++ added ∧
        added <+: steps := by
  induction steps generalizing table with
  | nil =>
    exact ⟨[], by simp [insertSteps], List.nil_prefix⟩
  | cons step rest inductionHypothesis =>
    unfold insertSteps
    cases inserted : table.insert? step with
    | none =>
      exact ⟨[], by simp, List.nil_prefix⟩
    | some extended =>
      obtain ⟨added, rows, isPrefix⟩ := inductionHypothesis extended
      refine ⟨step :: added, ?_, ?_⟩
      · simp [rows, (KeyedTable.insert?_eq_some inserted).2]
      · exact (List.prefix_cons_inj step).mpr isPrefix

theorem getPipeline_createPipeline
    (db : TaskDB)
    (now : Int)
    (created : String)
    (body : CreatePipelineRequest)
    {pipelineId : String}
    {pipeline : Pipeline}
    (stored : db.getPipeline pipelineId = some pipeline) :
    (db.createPipeline now created body).1.getPipeline pipelineId =
      some pipeline := by
  unfold createPipeline
  cases inserted : db.pipelines.insert?
      { id := created, name := body.name,
        description := body.description,
        createdBy := body.createdBy,
        createdAt := now, updatedAt := now } with
  | none =>
    exact stored
  | some pipelines =>
    unfold getPipeline at stored
    rw [Option.map_eq_some_iff] at stored
    obtain ⟨row, found, rfl⟩ := stored
    have different : created ≠ pipelineId := by
      rintro rfl
      refine (KeyedTable.insert?_eq_some inserted).1 ?_
      obtain ⟨member, named⟩ := db.pipelines.find?_eq_some_iff.mp found
      exact List.mem_map.mpr ⟨row, member, named⟩
    have kept : pipelines.find? pipelineId = some row := by
      rw [KeyedTable.find?_insert? inserted, if_neg different, found]
    obtain ⟨added, rows, isPrefix⟩ :=
      insertSteps_rows db.pipelineSteps (body.steps.map (newStepRow created))
    have foreign :
        (added.filter fun step =>
          decide (step.pipelineId = pipelineId)) = [] := by
      rw [List.filter_eq_nil_iff]
      intro step member
      obtain ⟨request, _, rfl⟩ :=
        List.mem_map.mp (isPrefix.subset member)
      simp [newStepRow, different]
    have sameSteps :
        ((insertSteps db.pipelineSteps
            (body.steps.map (newStepRow created))).1.rows.filter
          fun step => decide (step.pipelineId = pipelineId)) =
        db.pipelineSteps.rows.filter
          fun step => decide (step.pipelineId = pipelineId) := by
      rw [rows, List.filter_append, foreign, List.append_nil]
    dsimp only
    split <;>
      simp only [getPipeline, stepsOf, audit, kept, sameSteps, Option.map_some]

theorem createPipeline_tasks
    (db : TaskDB)
    (now : Int)
    (pipelineId : String)
    (body : CreatePipelineRequest) :
    (db.createPipeline now pipelineId body).1.tasks = db.tasks ∧
      (db.createPipeline now pipelineId body).1.pipelineRuns =
        db.pipelineRuns := by
  unfold createPipeline
  split
  · exact ⟨rfl, rfl⟩
  · dsimp only
    split <;> exact ⟨rfl, rfl⟩

theorem stepsOf_increasing (db : TaskDB) (pipelineId : String) :
    (db.stepsOf pipelineId).Pairwise
      fun first second => first.stepIndex < second.stepIndex := by
  let ordered : PipelineStepRow → PipelineStepRow → Prop :=
    fun first second => first.stepIndex ≤ second.stepIndex
  have total : Std.Total ordered :=
    ⟨fun first second => Nat.le_total first.stepIndex second.stepIndex⟩
  have transitive : IsTrans PipelineStepRow ordered :=
    ⟨fun _ _ _ => Nat.le_trans⟩
  have sorted : (db.stepsOf pipelineId).Pairwise ordered :=
    List.pairwise_insertionSort ordered _
  have distinct :
      (db.stepsOf pipelineId).Pairwise
        fun first second => first.stepIndex ≠ second.stepIndex := by
    have keys :
        db.pipelineSteps.rows.Pairwise
          fun first second => first.key ≠ second.key :=
      List.pairwise_map.mp db.pipelineSteps.distinct
    have permutes :=
      List.perm_insertionSort ordered
        (db.pipelineSteps.rows.filter fun step =>
          decide (step.pipelineId = pipelineId))
    refine permutes.symm.pairwise ?_ fun different => Ne.symm different
    refine List.Pairwise.imp_of_mem ?_ (keys.sublist List.filter_sublist)
    intro first second firstMember secondMember different same
    rw [List.mem_filter, decide_eq_true_eq] at firstMember secondMember
    exact different (Prod.ext (firstMember.2.trans secondMember.2.symm) same)
  exact (sorted.and distinct).imp fun related =>
    Nat.lt_of_le_of_ne related.1 related.2

/-! ### Growth of the database -/

/--
What every statement keeps: identities of tasks and runs are only appended,
and a stored pipeline definition stays as it is.
-/
structure Extends (before after : TaskDB) : Prop where
  tasks : before.taskIdentities <+: after.taskIdentities
  runs : before.runIdentities <+: after.runIdentities
  pipelines :
    ∀ {pipelineId pipeline},
      before.getPipeline pipelineId = some pipeline →
      after.getPipeline pipelineId = some pipeline

namespace Extends

theorem refl (db : TaskDB) : Extends db db where
  tasks := List.prefix_rfl
  runs := List.prefix_rfl
  pipelines := id

end Extends

theorem extends_createTask
    (creates : db.createTask now task = some created) :
    Extends db created := by
  obtain ⟨_, pipelines, steps, runs⟩ := createTask_eq_some creates
  refine ⟨?_, ?_, ?_⟩
  · rw [taskIdentities_createTask creates]
    exact List.prefix_append ..
  · simp only [runIdentities, runs]
    exact List.prefix_rfl
  · intro pipelineId pipeline stored
    simpa only [getPipeline, stepsOf, pipelines, steps] using stored

theorem extends_updateTaskStatus
    (db : TaskDB)
    (now : Int)
    (taskId : String)
    (status : TaskStatus)
    (detail : StatusDetail)
    (actor : String) :
    Extends db (db.updateTaskStatus now taskId status detail actor) where
  tasks := by
    simp only [taskIdentities_updateTaskStatus, List.prefix_rfl]
  runs := List.prefix_rfl
  pipelines := id

theorem extends_createPipelineRun
    (creates :
      db.createPipelineRun now runId pipelineId agentId session
        requestedBy requestedFrom = some created) :
    Extends db created := by
  obtain ⟨_, _, tasks, pipelines, steps⟩ :=
    createPipelineRun_eq_some creates
  refine ⟨?_, ?_, ?_⟩
  · simp only [taskIdentities, tasks]
    exact List.prefix_rfl
  · rw [runIdentities_createPipelineRun creates]
    exact List.prefix_append ..
  · intro pipelineId pipeline stored
    simpa only [getPipeline, stepsOf, pipelines, steps] using stored

theorem extends_updatePipelineRunStatus
    (db : TaskDB)
    (now : Int)
    (runId : String)
    (status : RunStatus)
    (currentStep : Option Nat)
    (actor : String) :
    Extends db
      (db.updatePipelineRunStatus now runId status currentStep actor) where
  tasks := List.prefix_rfl
  runs := by
    simp only [runIdentities_updatePipelineRunStatus, List.prefix_rfl]
  pipelines := id

theorem extends_createPipeline
    (db : TaskDB)
    (now : Int)
    (pipelineId : String)
    (body : CreatePipelineRequest) :
    Extends db (db.createPipeline now pipelineId body).1 := by
  obtain ⟨tasks, runs⟩ := db.createPipeline_tasks now pipelineId body
  refine ⟨?_, ?_, ?_⟩
  · simp only [taskIdentities, tasks]
    exact List.prefix_rfl
  · simp only [runIdentities, runs]
    exact List.prefix_rfl
  · exact fun stored =>
      db.getPipeline_createPipeline now pipelineId body stored

/-! ### Statements as data -/

/-- A statement that changes the database. -/
inductive Statement where
  | createTask (task : TaskSpec)
  | updateTaskStatus
      (taskId : String)
      (status : TaskStatus)
      (detail : StatusDetail)
      (actor : String)
  | createPipeline (pipelineId : String) (body : CreatePipelineRequest)
  | createPipelineRun
      (runId pipelineId agentId session requestedBy requestedFrom : String)
  | updatePipelineRunStatus
      (runId : String)
      (status : RunStatus)
      (currentStep : Option Nat)

/-- Run a statement; `none` is an integrity error that changes nothing. -/
def execute (db : TaskDB) (now : Int) : Statement → Option TaskDB
  | .createTask task =>
    db.createTask now task
  | .updateTaskStatus taskId status detail actor =>
    some (db.updateTaskStatus now taskId status detail actor)
  | .createPipeline pipelineId body =>
    some (db.createPipeline now pipelineId body).1
  | .createPipelineRun runId pipelineId agentId session requestedBy
      requestedFrom =>
      db.createPipelineRun now runId pipelineId agentId session
        requestedBy requestedFrom
  | .updatePipelineRunStatus runId status currentStep =>
    some (db.updatePipelineRunStatus now runId status currentStep)

theorem extends_execute
    (executed : db.execute now statement = some after) :
    Extends db after := by
  cases statement with
  | createTask task =>
    exact extends_createTask executed
  | updateTaskStatus taskId status detail actor =>
    cases executed
    exact db.extends_updateTaskStatus now taskId status detail actor
  | createPipeline pipelineId body =>
    cases executed
    exact db.extends_createPipeline now pipelineId body
  | createPipelineRun runId pipelineId agentId session requestedBy
      requestedFrom =>
      exact extends_createPipelineRun executed
  | updatePipelineRunStatus runId status currentStep =>
    cases executed
    exact db.extends_updatePipelineRunStatus now runId status
      currentStep "system"

theorem taskIdentities_execute
    (executed : db.execute now statement = some after) :
    after.taskIdentities = db.taskIdentities ∨
      ∃ task,
        statement = .createTask task ∧
          after.taskIdentities = db.taskIdentities ++ [task.identity] := by
  cases statement with
  | createTask task =>
    exact .inr ⟨task, rfl, taskIdentities_createTask executed⟩
  | updateTaskStatus taskId status detail actor =>
    cases executed
    exact .inl (taskIdentities_updateTaskStatus ..)
  | createPipeline pipelineId body =>
    cases executed
    obtain ⟨tasks, _⟩ := db.createPipeline_tasks now pipelineId body
    exact .inl (by simp only [taskIdentities, tasks])
  | createPipelineRun runId pipelineId agentId session requestedBy
      requestedFrom =>
      obtain ⟨_, _, tasks, _⟩ := createPipelineRun_eq_some executed
      exact .inl (by simp only [taskIdentities, tasks])
  | updatePipelineRunStatus runId status currentStep =>
    cases executed
    exact .inl rfl

theorem runIdentities_execute
    (executed : db.execute now statement = some after) :
    after.runIdentities = db.runIdentities ∨
      ∃ runId pipelineId agentId session requestedBy requestedFrom,
        statement =
            .createPipelineRun runId pipelineId agentId session
              requestedBy requestedFrom ∧
          after.runIdentities =
            db.runIdentities ++ [{ id := runId, pipelineId, agentId }] := by
  cases statement with
  | createTask task =>
    obtain ⟨_, _, _, runs⟩ := createTask_eq_some executed
    exact .inl (by simp only [runIdentities, runs])
  | updateTaskStatus taskId status detail actor =>
    cases executed
    exact .inl rfl
  | createPipeline pipelineId body =>
    cases executed
    obtain ⟨_, runs⟩ := db.createPipeline_tasks now pipelineId body
    exact .inl (by simp only [runIdentities, runs])
  | createPipelineRun runId pipelineId agentId session requestedBy
      requestedFrom =>
      exact .inr ⟨_, _, _, _, _, _, rfl,
        runIdentities_createPipelineRun executed⟩
  | updatePipelineRunStatus runId status currentStep =>
    cases executed
    exact .inl (runIdentities_updatePipelineRunStatus ..)

theorem identity_mem_of_getTask
    {taskId : String}
    {row : TaskRow}
    (found : db.getTask taskId = some row) :
    row.identity ∈ db.taskIdentities ∧ row.id = taskId := by
  obtain ⟨member, named⟩ := db.tasks.find?_eq_some_iff.mp found
  exact ⟨List.mem_map_of_mem member, named⟩

theorem identity_mem_of_getPipelineRun
    {runId : String}
    {run : PipelineRun}
    (found : db.getPipelineRun runId = some run) :
    run.toPipelineRunRow.identity ∈ db.runIdentities ∧ run.id = runId := by
  unfold getPipelineRun at found
  rw [Option.map_eq_some_iff] at found
  obtain ⟨row, foundRow, rfl⟩ := found
  obtain ⟨member, named⟩ :=
    db.pipelineRuns.find?_eq_some_iff.mp foundRow
  exact ⟨List.mem_map_of_mem member, named⟩

theorem getPipeline_id
    {pipelineId : String}
    {pipeline : Pipeline}
    (found : db.getPipeline pipelineId = some pipeline) :
    pipeline.row.id = pipelineId ∧ pipeline.steps = db.stepsOf pipelineId := by
  unfold getPipeline at found
  rw [Option.map_eq_some_iff] at found
  obtain ⟨row, foundRow, rfl⟩ := found
  exact ⟨KeyedTable.key_of_find? foundRow, rfl⟩

theorem taskIdentity_unique
    {first second : TaskIdentity}
    (firstMember : first ∈ db.taskIdentities)
    (secondMember : second ∈ db.taskIdentities)
    (sameId : first.id = second.id) :
    first = second := by
  obtain ⟨firstRow, firstStored, rfl⟩ := List.mem_map.mp firstMember
  obtain ⟨secondRow, secondStored, rfl⟩ := List.mem_map.mp secondMember
  rw [db.tasks.eq_of_key firstStored secondStored sameId]

theorem runIdentity_unique
    {first second : RunIdentity}
    (firstMember : first ∈ db.runIdentities)
    (secondMember : second ∈ db.runIdentities)
    (sameId : first.id = second.id) :
    first = second := by
  obtain ⟨firstRow, firstStored, rfl⟩ := List.mem_map.mp firstMember
  obtain ⟨secondRow, secondStored, rfl⟩ := List.mem_map.mp secondMember
  rw [db.pipelineRuns.eq_of_key firstStored secondStored sameId]

end TaskDB

/-! ### Log files -/

/-- The content of every existing file. -/
abbrev Files :=
  String → Option String

/-- Where task logs are kept, and which file a path opens for appending. -/
structure LogHost where
  flavour : Paths.Flavour := .posix
  /-- `str.lower`, by which drives are compared. -/
  lower : String → String := id
  logsDir : String
  /-- The file behind a path; `none` when it cannot be opened. -/
  locate : Paths.PurePath → Option String

namespace LogHost

/-- `_logs_dir`. -/
def logsPath (host : LogHost) : Paths.PurePath :=
  host.flavour.parse host.logsDir

def logName (host : LogHost) (taskId : String) : Paths.PurePath :=
  host.flavour.parse (taskId ++ ".log")

def getLogPath (host : LogHost) (taskId : String) : Paths.PurePath :=
  host.logsPath.join host.lower (host.logName taskId)

def logFile (host : LogHost) (taskId : String) : Option String :=
  host.locate (host.getLogPath taskId)

/-- The text that `append_log` writes: the data, ended by a newline. -/
def logText (data : String) : String :=
  if data.toList.getLast? = some '\n' then data else data ++ "\n"

/-- `append_log`; a path that cannot be opened raises and writes nothing. -/
def appendLog
    (host : LogHost)
    (files : Files)
    (taskId data : String) : Files :=
  match host.logFile taskId with
  | none =>
    files
  | some file =>
    Function.update files file (some ((files file).getD "" ++ logText data))

theorem appendLog_other
    (host : LogHost)
    (files : Files)
    (taskId data : String)
    {file : String}
    (other : host.logFile taskId ≠ some file) :
    host.appendLog files taskId data file = files file := by
  unfold appendLog
  cases located : host.logFile taskId with
  | none =>
    rfl
  | some written =>
    have different : file ≠ written := by
      rintro rfl
      exact other located
    simp [different]

theorem appendLog_self
    (host : LogHost)
    (files : Files)
    {taskId file : String}
    (located : host.logFile taskId = some file)
    (data : String) :
    host.appendLog files taskId data file =
      some ((files file).getD "" ++ logText data) := by
  unfold appendLog
  rw [located]
  exact Function.update_self file _ files

end LogHost

end RpaPlatform.Tasks
