import RpaPlatform.AuditTrail
import RpaPlatform.TaskStore

namespace RpaPlatform.Tasks

/-!
# The audit log of the task database

Each operation of `TaskDB` as the statements and the commit that it awaits on
the one connection.  `_audit` comes after the commit, and is committed by the
operation that commits next.
-/

/-- A statement on one of the tables other than the audit log. -/
inductive RowStatement where
  | insertTask (row : TaskRow)
  | updateTask
      (taskId : String)
      (now : Int)
      (status : TaskStatus)
      (detail : TaskDB.StatusDetail)
  | insertPipeline (row : PipelineRow)
  | insertPipelineStep (row : PipelineStepRow)
  | insertPipelineRun (row : PipelineRunRow)
  | updatePipelineRun
      (runId : String)
      (now : Int)
      (status : RunStatus)
      (currentStep : Option Nat)

namespace TaskDB

/-- Execute a statement; `none` is an integrity error. -/
def apply (db : TaskDB) : RowStatement → Option TaskDB
  | .insertTask row =>
    (db.tasks.insert? row).map fun tasks => { db with tasks }
  | .updateTask taskId now status detail =>
    some
      { db with
        tasks :=
          db.tasks.modify taskId (withStatus now status detail)
            (id_withStatus now status detail) }
  | .insertPipeline row =>
    (db.pipelines.insert? row).map fun pipelines =>
      { db with pipelines }
  | .insertPipelineStep row =>
    (db.pipelineSteps.insert? row).map fun pipelineSteps =>
      { db with pipelineSteps }
  | .insertPipelineRun row =>
    if (db.pipelines.find? row.pipelineId).isSome then
      (db.pipelineRuns.insert? row).map fun pipelineRuns =>
        { db with pipelineRuns }
    else
      none
  | .updatePipelineRun runId now status currentStep =>
    some
      { db with
        pipelineRuns :=
          db.pipelineRuns.modify runId
            (withRunStatus now status currentStep)
            (id_withRunStatus now status currentStep) }

/-- Whether a statement that is executed changes a row. -/
def changes (db : TaskDB) : RowStatement → Bool
  | .updateTask taskId _ _ _ => (db.tasks.find? taskId).isSome
  | .updatePipelineRun runId _ _ _ => (db.pipelineRuns.find? runId).isSome
  | _ => true

def insertAudit (db : TaskDB) (row : AuditRow) : TaskDB :=
  { db with auditLog := db.auditLog ++ [row] }

/-- The tables of tasks and pipelines, and their audit log. -/
def auditedTables : AuditedTables TaskDB RowStatement AuditRow where
  apply := apply
  changes := changes
  insertRecord := insertAudit

/-- An operation of `TaskDB`, and the time that it reads. -/
structure Operation where
  statement : Statement
  now : Int

/-- The row that `create_pipeline` inserts. -/
def newPipelineRow
    (now : Int)
    (pipelineId : String)
    (body : CreatePipelineRequest) : PipelineRow where
  id := pipelineId
  name := body.name
  description := body.description
  createdBy := body.createdBy
  createdAt := now
  updatedAt := now

/-- The statements of an operation. -/
def Operation.statements (operation : Operation) : List RowStatement :=
  match operation.statement with
  | .createTask task =>
    [.insertTask (newTaskRow operation.now task)]
  | .updateTaskStatus taskId status detail _ =>
    [.updateTask taskId operation.now status detail]
  | .createPipeline pipelineId body =>
    .insertPipeline (newPipelineRow operation.now pipelineId body) ::
      (body.steps.map (newStepRow pipelineId)).map .insertPipelineStep
  | .createPipelineRun runId pipelineId agentId session requestedBy
      requestedFrom =>
      [.insertPipelineRun
        { id := runId, pipelineId, agentId, session,
          status := .queued, currentStep := 0,
          requestedBy, requestedFrom,
          createdAt := operation.now, startedAt := none,
          completedAt := none }]
  | .updatePipelineRunStatus runId status currentStep =>
    [.updatePipelineRun runId operation.now status currentStep]

/-- The row that an operation inserts into the audit log. -/
def Operation.auditRow (operation : Operation) : AuditRow :=
  let row := fun entityType entityId action actor detail ipAddress =>
    { ts := operation.now, entityType, entityId, action, actor, detail,
      ipAddress : AuditRow }
  match operation.statement with
  | .createTask task =>
    row "task" task.id "created" task.requestedBy
      ("kind=" ++ task.kind.text ++
        ", script_len=" ++ toString task.script.length ++
        ", agent=" ++ task.agentId)
      task.requestedFrom
  | .updateTaskStatus taskId status detail actor =>
    row "task" taskId status.text actor (statusAuditText detail) ""
  | .createPipeline pipelineId body =>
    row "pipeline" pipelineId "created" body.createdBy
      ("name=" ++ body.name ++ ", steps=" ++ toString body.steps.length)
      ""
  | .createPipelineRun runId pipelineId agentId _ requestedBy
      requestedFrom =>
      row "pipeline_run" runId "created" requestedBy
        ("pipeline=" ++ pipelineId ++ ", agent=" ++ agentId)
        requestedFrom
  | .updatePipelineRunStatus runId status currentStep =>
    row "pipeline_run" runId status.text "system"
      (match currentStep with
        | none => ""
        | some step => "step=" ++ toString step)
      ""

/-- An operation with its statements and its audit row. -/
def Operation.audited (operation : Operation) :
    AuditedOperation RowStatement AuditRow where
  statements := operation.statements
  record := operation.auditRow

/-- The rows, if each operation is executed as a whole. -/
def performed (db : TaskDB) (operations : List Operation) : TaskDB :=
  operations.foldl
    (fun rows operation =>
      (rows.execute operation.now operation.statement).getD rows)
    db

def connect (db : TaskDB) : Connection (Tracked TaskDB AuditRow) where
  durable := { rows := db }

/-- The connection after some operations. -/
def connected
    (db : TaskDB)
    (operations : List Operation) : Connection (Tracked TaskDB AuditRow) :=
  auditedTables.performAll 0 db.connect (operations.map Operation.audited)

/--
What is durable after a crash or a `stop` in the middle of an operation, when
some of its calls have been awaited.
-/
def stoppedWithin
    (db : TaskDB)
    (operations : List Operation)
    (interrupted : Operation)
    (awaited : Nat) : Tracked TaskDB AuditRow :=
  ((db.connected operations).perform
      (auditedTables.write operations.length)
      ((AuditedTables.calls interrupted.audited).take awaited)).1.close.durable

/-- How the operations end that have awaited their commit, latest first. -/
def endings
    (db : TaskDB)
    (operations : List Operation)
    (interrupted : Operation)
    (awaited : Nat) : List OperationOutcome :=
  let earlier :=
    auditedTables.outcomes 0 db.connect (operations.map Operation.audited) []
  if interrupted.statements.length < awaited then
    auditedTables.outcomeOf (db.connected operations).current.rows
        interrupted.statements ::
      earlier
  else
    earlier

/-! ### What is seen on the connection -/

section Connections

variable
    {connection : Connection (Tracked TaskDB AuditRow)}
    {number : Nat}

theorem perform_insertSteps
    (connection : Connection (Tracked TaskDB AuditRow))
    (number : Nat)
    (steps : List PipelineStepRow) :
    let performed :=
      connection.perform (auditedTables.write number)
        (((steps.map RowStatement.insertPipelineStep).map
          AuditedWrite.change).map .write)
    let inserted :=
      insertSteps connection.current.rows.pipelineSteps steps
    performed.2 = inserted.2 ∧
      performed.1.current.rows =
        { connection.current.rows with pipelineSteps := inserted.1 } := by
  induction steps generalizing connection with
  | nil =>
    exact ⟨rfl, rfl⟩
  | cons step rest inductionHypothesis =>
    simp only [List.map_cons, insertSteps]
    cases inserted : connection.current.rows.pipelineSteps.insert? step with
    | none =>
      have raises :
          auditedTables.apply connection.current.rows
            (.insertPipelineStep step) = none :=
        congrArg (Option.map _) inserted
      rw [Connection.perform_raise (AuditedTables.write_raise raises number)]
      exact ⟨rfl, rfl⟩
    | some extended =>
      have applied :
          auditedTables.apply connection.current.rows
              (.insertPipelineStep step) =
            some
              { connection.current.rows with
                pipelineSteps := extended } :=
        congrArg (Option.map _) inserted
      rw [Connection.perform_write (AuditedTables.write_change applied number)]
      exact inductionHypothesis _

theorem current_perform_single
    {operation : Operation}
    {statement : RowStatement}
    (isSingle : operation.statements = [statement])
    {written : Option TaskDB}
    (isWritten :
      auditedTables.apply connection.current.rows statement = written) :
    (connection.perform (auditedTables.write number)
        (AuditedTables.calls operation.audited)).1.current.rows =
      (written.map (·.insertAudit operation.auditRow)).getD
        connection.current.rows := by
  unfold AuditedTables.calls Operation.audited
  simp only [isSingle, List.map_cons, List.map_nil, List.cons_append,
    List.nil_append]
  cases written with
  | none =>
    rw [Connection.perform_raise (AuditedTables.write_raise isWritten number)]
    rfl
  | some after =>
    rw [Connection.perform_write (AuditedTables.write_change isWritten number)]
    rfl

/-- The definition of a pipeline, whichever way its steps end. -/
theorem current_perform_createPipeline
    (pipelineId : String)
    (body : CreatePipelineRequest)
    (now : Int) :
    (connection.perform (auditedTables.write number)
        (AuditedTables.calls
          (Operation.audited
            { statement := .createPipeline pipelineId body
              now }))).1.current.rows =
      (connection.current.rows.createPipeline now pipelineId body).1 := by
  let row := newPipelineRow now pipelineId body
  simp only [AuditedTables.calls, Operation.audited,
    Operation.statements, List.map_cons, List.cons_append]
  unfold createPipeline
  cases inserted : connection.current.rows.pipelines.insert? row with
  | none =>
    have raises :
        auditedTables.apply connection.current.rows
          (.insertPipeline row) = none :=
      congrArg (Option.map _) inserted
    rw [Connection.perform_raise (AuditedTables.write_raise raises number)]
    unfold row newPipelineRow at inserted
    rw [inserted]
    rfl
  | some pipelines =>
    have applied :
        auditedTables.apply connection.current.rows
            (.insertPipeline row) =
          some { connection.current.rows with pipelines } :=
      congrArg (Option.map _) inserted
    rw [Connection.perform_write (AuditedTables.write_change applied number)]
    let opened :=
      connection.write
        (auditedTables.afterChange number connection.current
          (.insertPipeline row)
          { connection.current.rows with pipelines })
    obtain ⟨ends, rows⟩ :=
      perform_insertSteps opened number (body.steps.map (newStepRow pipelineId))
    rw [Connection.perform_append, ends]
    unfold row newPipelineRow at inserted
    rw [inserted]
    cases stored :
        (insertSteps connection.current.rows.pipelineSteps
          (body.steps.map (newStepRow pipelineId))).2 with
    | false =>
      rw [show
          (insertSteps opened.current.rows.pipelineSteps
            (body.steps.map (newStepRow pipelineId))).2 = false from
        stored]
      simp only [stored, Bool.false_eq_true, if_false]
      exact rows
    | true =>
      rw [show
          (insertSteps opened.current.rows.pipelineSteps
            (body.steps.map (newStepRow pipelineId))).2 = true from
        stored]
      simp only [stored, if_true]
      exact congrArg (insertAudit ·
            (Operation.auditRow
              { statement := .createPipeline pipelineId body, now }))
          rows

/-- On the connection an operation does what the store says it does. -/
theorem current_perform (operation : Operation) :
    (connection.perform (auditedTables.write number)
        (AuditedTables.calls operation.audited)).1.current.rows =
      (connection.current.rows.execute operation.now
        operation.statement).getD connection.current.rows := by
  obtain ⟨statement, now⟩ := operation
  cases statement with
  | createTask task =>
    have isSingle :
        Operation.statements { statement := .createTask task, now } =
          [.insertTask (newTaskRow now task)] :=
      rfl
    refine (current_perform_single isSingle rfl).trans ?_
    simp only [auditedTables, apply, execute, createTask]
    split
    · rename_i refused
      rw [refused]
      rfl
    · rename_i tasks inserted
      rw [inserted]
      rfl
  | updateTaskStatus taskId status detail actor =>
    have isSingle :
        Operation.statements
            { statement := .updateTaskStatus taskId status detail actor
              now } =
          [.updateTask taskId now status detail] :=
      rfl
    exact current_perform_single isSingle rfl
  | createPipeline pipelineId body =>
    exact current_perform_createPipeline pipelineId body now
  | createPipelineRun runId pipelineId agentId session requestedBy
      requestedFrom =>
      let operation : Operation :=
        { statement :=
            .createPipelineRun runId pipelineId agentId session
              requestedBy requestedFrom
          now }
      have isSingle : operation.statements = [.insertPipelineRun _] :=
        rfl
      refine (current_perform_single isSingle rfl).trans ?_
      simp only [auditedTables, apply, execute, createPipelineRun]
      split
      · split
        · rename_i refused
          rw [refused]
          rfl
        · rename_i pipelineRuns inserted
          rw [inserted]
          rfl
      · rfl
  | updatePipelineRunStatus runId status currentStep =>
    have isSingle : Operation.statements
            { statement :=
                .updatePipelineRunStatus runId status currentStep
              now } =
          [.updatePipelineRun runId now status currentStep] :=
      rfl
    exact current_perform_single isSingle rfl

theorem rows_performAll (operations : List Operation) :
    (auditedTables.performAll number connection
        (operations.map Operation.audited)).current.rows =
      connection.current.rows.performed operations := by
  induction operations generalizing number connection with
  | nil =>
    rfl
  | cons operation rest inductionHypothesis =>
    rw [List.map_cons, AuditedTables.performAll, inductionHypothesis,
      current_perform]
    rfl

theorem current_connected
    (db : TaskDB)
    (operations : List Operation) :
    (db.connected operations).current.rows = db.performed operations :=
  rows_performAll operations

end Connections

/-! ### What the audit log holds -/

theorem auditLog_apply
    {db after : TaskDB}
    {statement : RowStatement}
    (applied : db.apply statement = some after) :
    after.auditLog = db.auditLog := by
  cases statement with
  | updateTask | updatePipelineRun =>
    cases applied
    rfl
  | insertPipelineRun row =>
    dsimp only [apply] at applied
    split at applied
    · obtain ⟨_, _, rfl⟩ := Option.map_eq_some_iff.mp applied
      rfl
    · cases applied
  | _ =>
    obtain ⟨_, _, rfl⟩ := Option.map_eq_some_iff.mp applied
    rfl

/--
What is durable after a stop in the middle of an operation is the audit log of
the operations before it, but for its last row at most.
-/
theorem auditLog_stoppedWithin
    (db : TaskDB)
    (operations : List Operation)
    (interrupted : Operation)
    (awaited : Nat) :
    let performed := (db.performed operations).auditLog
    let durable :=
      (db.stoppedWithin operations interrupted awaited).rows.auditLog
    performed = durable ∨ ∃ row, performed = durable ++ [row] := by
  have started : AuditedTables.Lags auditLog db.connect :=
    .inl rfl
  have lags : AuditedTables.Lags auditLog (db.connected operations) :=
    started.performAll auditLog_apply (fun _ _ => rfl) _
  have isPerformed :
      (db.connected operations).current.rows = db.performed operations :=
    rows_performAll operations
  intro performed durable
  unfold performed
  rw [← isPerformed]
  have isWithin :
      durable = (db.connected operations).durable.rows.auditLog ∨
        durable = (db.connected operations).current.rows.auditLog :=
    auditedTables.log_within auditLog_apply interrupted.audited awaited
  rcases isWithin with isDurable | isCurrent
  · exact isDurable ▸ lags
  · exact .inl isCurrent.symm

/-- Every durable change has its row in the durable audit log. -/
def AuditDurable
    (db : TaskDB)
    (operations : List Operation)
    (interrupted : Operation)
    (awaited : Nat) : Prop :=
  (db.stoppedWithin operations interrupted awaited).Covered

/--
Audit rows are as durable as what they record exactly when the operation that
has committed last has changed no row, and none before it has raised after
changing one.
-/
theorem auditDurable_iff_harmless
    (db : TaskDB)
    (operations : List Operation)
    (interrupted : Operation)
    (awaited : Nat) :
    AuditDurable db operations interrupted awaited ↔
      Harmless (db.endings operations interrupted awaited) := by
  have start : AuditedTables.Tracks 0 db.connect [] :=
    { changedBefore := nofun
      recordedBefore := nofun
      current := iff_of_true nofun nofun
      durable := iff_of_true nofun trivial }
  have tracks :
      AuditedTables.Tracks (0 + (operations.map Operation.audited).length)
        (db.connected operations) _ :=
    start.performAll (operations.map Operation.audited)
  rw [Nat.zero_add, List.length_map] at tracks
  exact tracks.covered_within interrupted.audited awaited

/-! ### A task that is created before the server stops -/

/-- The creation of a task. -/
def createdTask : Operation where
  statement :=
    .createTask
      { id := "task-1", kind := .agent, agentId := "agent-1",
        script := "dir", name := "list", cwd := "", timeoutSec := 300,
        session := "", pipelineRunId := none, stepIndex := 0,
        requestedBy := "user", requestedFrom := "", payload := [],
        components := [] }
  now := 1000

/-- The task is stored when the server stops, but its audit row is lost. -/
theorem not_auditDurable :
    ¬ ∀ db operations interrupted awaited,
        AuditDurable db operations interrupted awaited := by
  intro claimed
  have isRecorded : 0 ∈ (empty.stoppedWithin [] createdTask 3).recorded :=
    claimed empty [] createdTask 3 0 (by decide)
  revert isRecorded
  decide

end TaskDB

end RpaPlatform.Tasks
