import RpaPlatform.TaskAudit
import RpaPlatform.Transition

namespace RpaPlatform.Tasks

open Transition

/-!
# Pipelines that are created in part

`create_pipeline` inserts the pipeline and then its steps, and commits once.
The connection is shared: where a step raises, nothing is rolled back, and what
has been inserted waits in the open transaction for the commit of any other
operation.
-/

/-! ### Operations on the shared connection -/

/-- A step definition as `create_pipeline` reads it. -/
structure StepDefinition where
  stepIndex : Nat := 0
  name : String := ""
  /-- `step["script"]` raises where it is missing. -/
  script : Option String
  cwd : String := ""
  timeoutSec : Nat := 300
  onFail : OnFail := .stop
  retryCount : Nat := 0

/-- The row of a step definition. -/
def StepDefinition.row?
    (pipelineId : String)
    (step : StepDefinition) : Option PipelineStepRow :=
  step.script.map fun script =>
    { pipelineId
      stepIndex := step.stepIndex
      name := step.name
      script
      cwd := step.cwd
      timeoutSec := step.timeoutSec
      onFail := step.onFail
      retryCount := step.retryCount }

/-- The arguments of `create_pipeline`, and the time that it reads. -/
structure PipelineDefinition where
  pipelineId : String
  name : String
  steps : List StepDefinition
  description : String := ""
  createdBy : String := "system"
  now : Int

/-- What an operation writes on the connection. -/
inductive TaskWrite where
  | change (statement : RowStatement)
  | insertStep (pipelineId : String) (step : StepDefinition)
  | audit (row : AuditRow)

namespace TaskDB

/-- `REFERENCES pipelines(id)`, of a step. -/
def refersToPipeline (db : TaskDB) : RowStatement → Bool
  | .insertPipelineStep row => (db.pipelines.find? row.pipelineId).isSome
  | _ => true

/-- Execute a statement with its foreign key; `none` is an integrity error. -/
def executeStatement
    (db : TaskDB)
    (statement : RowStatement) : Option TaskDB :=
  if db.refersToPipeline statement then db.apply statement else none

/-- Execute what an operation writes; `none` is an exception. -/
def written? (db : TaskDB) : TaskWrite → Option TaskDB
  | .change statement =>
    db.executeStatement statement
  | .insertStep pipelineId step =>
    (step.row? pipelineId).bind fun row =>
      db.executeStatement (.insertPipelineStep row)
  | .audit row =>
    some (db.insertAudit row)

/-- What an operation awaits. -/
def Operation.calls
    (operation : Operation) : List (DatabaseCall TaskWrite) :=
  operation.statements.map (.write <| .change ·) ++
    [.commit, .write (.audit operation.auditRow)]

end TaskDB

/-- What `create_pipeline` awaits. -/
def PipelineDefinition.calls
    (definition : PipelineDefinition) : List (DatabaseCall TaskWrite) :=
  .write
      (.change
        (.insertPipeline
          { id := definition.pipelineId
            name := definition.name
            description := definition.description
            createdBy := definition.createdBy
            createdAt := definition.now
            updatedAt := definition.now })) ::
    (definition.steps.map
        (.write <| .insertStep definition.pipelineId ·) ++
      [.commit,
        .write
          (.audit
            { ts := definition.now
              entityType := "pipeline"
              entityId := definition.pipelineId
              action := "created"
              actor := definition.createdBy
              detail :=
                "name=" ++ definition.name ++
                  ", steps=" ++ toString definition.steps.length
              ipAddress := "" })])

/-- An operation that has been called. -/
structure PendingOperation where
  /-- What it has not awaited yet, the call that has raised included. -/
  calls : List (DatabaseCall TaskWrite)
  raised : Bool := false

/-- The connection of `TaskDB`, and the operations on it. -/
structure TaskConnection where
  connection : Connection TaskDB
  operations : List PendingOperation := []

/-- What happens on the connection next. -/
inductive ConnectionAction where
  /-- `create_pipeline` is called. -/
  | createPipeline (definition : PipelineDefinition)
  /-- Another operation is called. -/
  | begin (operation : TaskDB.Operation)
  /-- An operation awaits its next call. -/
  | resume (position : Nat)
  /-- An operation raises of itself where it would await its next call. -/
  | interrupt (position : Nat)

namespace TaskConnection

/-- An operation is called. -/
def enter
    (state : TaskConnection)
    (calls : List (DatabaseCall TaskWrite)) : TaskConnection :=
  { state with operations := state.operations ++ [{ calls }] }

/-- The state of an operation changes. -/
def update
    (state : TaskConnection)
    (position : Nat)
    (operation : PendingOperation) : TaskConnection :=
  { state with operations := state.operations.set position operation }

/-- An operation that has not ended. -/
def active?
    (state : TaskConnection)
    (position : Nat) : Option PendingOperation :=
  (state.operations[position]?).filter fun operation => !operation.raised

/-- Await the next call of an operation. -/
def resume
    (state : TaskConnection)
    (position : Nat) : Option TaskConnection :=
  (state.active? position).bind fun operation =>
    match operation.calls with
    | [] =>
      none
    | .commit :: rest =>
      some
        ({ state with connection := state.connection.commit }.update
          position { calls := rest })
    | .write write :: rest =>
      match state.connection.current.written? write with
      | none =>
        some
          ({ state with
              connection :=
                state.connection.write
                  state.connection.current }.update
            position { operation with raised := true })
      | some after =>
        some
          ({ state with
              connection := state.connection.write after }.update
            position { calls := rest })

/-- What happens next on the connection. -/
def step
    (state : TaskConnection) : ConnectionAction → Option TaskConnection
  | .createPipeline definition =>
    some (state.enter definition.calls)
  | .begin operation =>
    some (state.enter operation.calls)
  | .resume position =>
    state.resume position
  | .interrupt position =>
    (state.active? position).map fun operation =>
      state.update position { operation with raised := true }

/-- Whether what happens next is that a commit is awaited. -/
def awaitsCommit (state : TaskConnection) : ConnectionAction → Bool
  | .resume position =>
    (state.active? position).any fun operation =>
      match operation.calls with
      | .commit :: _ => true
      | _ => false
  | _ =>
    false

/-- No commit is awaited next. -/
def StaysOpen
    (state : TaskConnection)
    (action : ConnectionAction) : Prop :=
  state.awaitsCommit action = false

/-- Neither the pipeline nor any of its steps is durable. -/
structure NothingDurable
    (state : TaskConnection)
    (pipelineId : String) : Prop where
  pipeline : state.connection.durable.pipelines.find? pipelineId = none
  steps :
    ∀ step ∈ state.connection.durable.pipelineSteps.rows,
      step.pipelineId ≠ pipelineId

end TaskConnection

/-- An operation has raised where it inserts a step. -/
def PendingOperation.FailedAtStep (operation : PendingOperation) : Prop :=
  operation.raised = true ∧
    ∃ pipelineId step rest,
      operation.calls = .write (.insertStep pipelineId step) :: rest

/-! ### What a step does -/

def TaskDB.Referenced (db : TaskDB) : Prop :=
  ∀ step ∈ db.pipelineSteps.rows,
    (db.pipelines.find? step.pipelineId).isSome = true

/-- What is durable refers to pipelines, and so does what is seen. -/
structure ConnectionReferenced
    (connection : Connection TaskDB) : Prop where
  durable : connection.durable.Referenced
  current : connection.current.Referenced
  /-- A durable pipeline is seen. -/
  seen :
    ∀ pipelineId,
      (connection.durable.pipelines.find? pipelineId).isSome = true →
      (connection.current.pipelines.find? pipelineId).isSome = true

namespace TaskDB

variable {db after : TaskDB}

/-- What a statement does to the pipelines and their steps. -/
inductive StatementEffect (db : TaskDB) : RowStatement → TaskDB → Prop where
  | pipeline {row : PipelineRow} {after : TaskDB} :
      db.pipelines.insert? row = some after.pipelines →
      after.pipelineSteps = db.pipelineSteps →
      StatementEffect db (.insertPipeline row) after
  | step {row : PipelineStepRow} {after : TaskDB} :
      after.pipelines = db.pipelines →
      db.pipelineSteps.insert? row = some after.pipelineSteps →
      StatementEffect db (.insertPipelineStep row) after
  | other {statement : RowStatement} {after : TaskDB} :
      after.pipelines = db.pipelines →
      after.pipelineSteps = db.pipelineSteps →
      StatementEffect db statement after

theorem effect_of_apply
    {statement : RowStatement}
    (applied : db.apply statement = some after) :
    StatementEffect db statement after := by
  cases statement with
  | insertPipeline row =>
    obtain ⟨_, inserted, rfl⟩ := Option.map_eq_some_iff.mp applied
    exact .pipeline inserted rfl
  | insertPipelineStep row =>
    obtain ⟨_, inserted, rfl⟩ := Option.map_eq_some_iff.mp applied
    exact .step rfl inserted
  | insertTask row =>
    obtain ⟨_, _, rfl⟩ := Option.map_eq_some_iff.mp applied
    exact .other rfl rfl
  | insertPipelineRun row =>
    rw [apply] at applied
    split at applied
    · obtain ⟨_, _, rfl⟩ := Option.map_eq_some_iff.mp applied
      exact .other rfl rfl
    · cases applied
  | updateTask | updatePipelineRun =>
    cases applied
    exact .other rfl rfl

variable {write : TaskWrite}

theorem statement_of_written?
    (isWritten : db.written? write = some after) :
    (∃ row, after = db.insertAudit row) ∨
      ∃ statement,
        db.refersToPipeline statement = true ∧
          StatementEffect db statement after := by
  have executed :
      ∀ {statement : RowStatement},
        db.executeStatement statement = some after →
        db.refersToPipeline statement = true ∧
          StatementEffect db statement after := by
    intro statement isExecuted
    unfold executeStatement at isExecuted
    split at isExecuted
    · rename_i refers
      exact ⟨refers, effect_of_apply isExecuted⟩
    · cases isExecuted
  cases write with
  | change statement =>
    exact .inr ⟨statement, executed isWritten⟩
  | insertStep pipelineId step =>
    obtain ⟨row, _, isExecuted⟩ := Option.bind_eq_some_iff.mp isWritten
    exact .inr ⟨_, executed isExecuted⟩
  | audit row =>
    cases isWritten
    exact .inl ⟨row, rfl⟩

theorem pipeline_written?
    (isWritten : db.written? write = some after)
    {pipelineId : String}
    (stored : (db.pipelines.find? pipelineId).isSome = true) :
    (after.pipelines.find? pipelineId).isSome = true := by
  rcases statement_of_written? isWritten with
    ⟨row, rfl⟩ | ⟨statement, _, effect⟩
  · exact stored
  · cases effect with
    | pipeline inserted sameSteps =>
      rw [KeyedTable.find?_insert? inserted]
      split
      · rfl
      · exact stored
    | step same inserted =>
      rw [same]
      exact stored
    | other same sameSteps =>
      rw [same]
      exact stored

theorem referenced_written?
    (isWritten : db.written? write = some after)
    (referenced : db.Referenced) :
    after.Referenced := by
  have known :
      ∀ step ∈ db.pipelineSteps.rows,
        (after.pipelines.find? step.pipelineId).isSome = true :=
    fun step member => pipeline_written? isWritten (referenced step member)
  rcases statement_of_written? isWritten with
    ⟨row, rfl⟩ | ⟨statement, refers, effect⟩
  · exact referenced
  · cases effect with
    | pipeline inserted sameSteps | other same sameSteps =>
      intro step member
      rw [sameSteps] at member
      exact known step member
    | step same inserted =>
      intro step member
      rw [(KeyedTable.insert?_eq_some inserted).2] at member
      rcases List.mem_append.mp member with before | isRow
      · exact known step before
      · obtain rfl := List.mem_singleton.mp isRow
        rw [same]
        exact refers

end TaskDB

/-- What a step does to the connection; the flag says whether it commits. -/
inductive ConnectionEffect
    (before : Connection TaskDB) : Bool → Connection TaskDB → Prop where
  | unchanged : ConnectionEffect before false before
  | committed : ConnectionEffect before true before.commit
  | refused : ConnectionEffect before false (before.write before.current)
  | wrote {write : TaskWrite} {after : TaskDB} :
      before.current.written? write = some after →
      ConnectionEffect before false (before.write after)

namespace TaskConnection

variable {before after : TaskConnection} {action : ConnectionAction}

theorem effect_of_step
    (fired : before.step action = some after) :
    ConnectionEffect before.connection (before.awaitsCommit action)
      after.connection := by
  cases action with
  | createPipeline | begin =>
    cases fired
    exact .unchanged
  | interrupt position =>
    obtain ⟨_, _, rfl⟩ := Option.map_eq_some_iff.mp fired
    exact .unchanged
  | resume position =>
    obtain ⟨operation, isActive, resumed⟩ :=
      Option.bind_eq_some_iff.mp fired
    unfold awaitsCommit
    dsimp only
    rw [isActive, Option.any_some]
    split at resumed
    · cases resumed
    · rename_i isCommit
      cases resumed
      rw [isCommit]
      exact .committed
    · rename_i isWrite
      rw [isWrite]
      split at resumed
      · cases resumed
        exact .refused
      · rename_i isWritten
        cases resumed
        exact .wrote isWritten

theorem raised_of_step
    (fired : before.step action = some after)
    {position : Nat}
    {operation : PendingOperation}
    (found : before.operations[position]? = some operation)
    (raised : operation.raised = true) :
    after.operations[position]? = some operation := by
  have entered :
      ∀ calls, (before.enter calls).operations[position]? = some operation :=
    fun calls =>
      List.getElem?_append_left (List.getElem?_eq_some_iff.mp found).1 ▸ found
  have updated :
      ∀ {changed : Nat} {active changes : PendingOperation}
        (connection : Connection TaskDB),
        before.active? changed = some active →
        (TaskConnection.update { before with connection } changed
            changes).operations[position]? =
          some operation := by
    intro changed active changes connection isActive
    have different : changed ≠ position := by
      rintro rfl
      obtain ⟨isFound, notRaised⟩ := Option.filter_eq_some_iff.mp isActive
      rw [found] at isFound
      cases isFound
      rw [raised] at notRaised
      cases notRaised
    exact (List.getElem?_set_ne different).trans found
  cases action with
  | createPipeline | begin =>
    cases fired
    exact entered _
  | interrupt changed =>
    obtain ⟨_, isActive, rfl⟩ := Option.map_eq_some_iff.mp fired
    exact updated _ isActive
  | resume changed =>
    obtain ⟨active, isActive, resumed⟩ :=
      Option.bind_eq_some_iff.mp fired
    split at resumed
    · cases resumed
    · cases resumed
      exact updated _ isActive
    · split at resumed
      · cases resumed
        exact updated _ isActive
      · cases resumed
        exact updated _ isActive

/-! ### Runs -/

section Effects

variable
    {earlier later : Connection TaskDB}
    {commits : Bool}

theorem referenced_of_effect
    (effect : ConnectionEffect earlier commits later)
    (referenced : ConnectionReferenced earlier) :
    ConnectionReferenced later := by
  cases effect with
  | unchanged =>
    exact referenced
  | committed =>
    exact ⟨referenced.current, referenced.current, fun _ => id⟩
  | refused =>
    exact ⟨referenced.durable, referenced.current, referenced.seen⟩
  | wrote isWritten =>
    exact
      ⟨referenced.durable,
        TaskDB.referenced_written? isWritten referenced.current,
        fun pipelineId stored =>
          TaskDB.pipeline_written? isWritten
            (referenced.seen pipelineId stored)⟩

theorem seen_of_effect
    (effect : ConnectionEffect earlier commits later)
    {pipelineId : String}
    (seen : (earlier.current.pipelines.find? pipelineId).isSome = true) :
    (later.current.pipelines.find? pipelineId).isSome = true := by
  cases effect with
  | unchanged | committed | refused =>
    exact seen
  | wrote isWritten =>
    exact TaskDB.pipeline_written? isWritten seen

theorem durable_of_effect
    (effect : ConnectionEffect earlier commits later) :
    later.durable = if commits then earlier.current else earlier.durable := by
  cases effect with
  | unchanged | committed | refused | wrote =>
    rfl

end Effects

variable
    {initial final : TaskConnection}
    {actions : List ConnectionAction}

theorem durable_of_staysOpen
    (run : Run (Guarded (Fires step) StaysOpen) initial actions final) :
    final.connection.durable = initial.connection.durable := by
  induction run with
  | nil =>
    rfl
  | cons taken _ inductionHypothesis =>
    have same := durable_of_effect (effect_of_step taken.1)
    rw [show TaskConnection.awaitsCommit _ _ = false from taken.2] at same
    exact inductionHypothesis.trans same

theorem durable_of_run
    (run : Run (Fires step) initial actions final)
    {pipelineId : String}
    (seen :
      (initial.connection.current.pipelines.find? pipelineId).isSome = true)
    (durable :
      (initial.connection.durable.pipelines.find? pipelineId).isSome = true) :
    (final.connection.durable.pipelines.find? pipelineId).isSome = true := by
  induction run with
  | nil =>
    exact durable
  | cons taken _ inductionHypothesis =>
    have effect := effect_of_step taken
    apply inductionHypothesis (seen_of_effect effect seen)
    rw [durable_of_effect effect]
    split
    · exact seen
    · exact durable

theorem staysOpen_or_durable
    (run : Run (Fires step) initial actions final)
    {pipelineId : String}
    (seen :
      (initial.connection.current.pipelines.find? pipelineId).isSome = true) :
    Run (Guarded (Fires step) StaysOpen) initial actions final ∨
      (final.connection.durable.pipelines.find? pipelineId).isSome = true := by
  induction run with
  | nil state =>
    exact .inl (.nil state)
  | @cons first middle _ action _ taken rest inductionHypothesis =>
    have effect := effect_of_step taken
    have seenNext := seen_of_effect effect seen
    cases commits : first.awaitsCommit action with
    | false =>
      exact (inductionHypothesis seenNext).imp_left (.cons ⟨taken, commits⟩)
    | true =>
      refine .inr (durable_of_run rest seenNext ?_)
      rw [durable_of_effect effect, commits]
      exact seen

theorem resume_definition
    {before inserted : TaskConnection}
    {position : Nat}
    {definition : PipelineDefinition}
    (called : before.operations[position]? = some { calls := definition.calls })
    (fired : before.step (.resume position) = some inserted) :
    inserted.operations[position]? =
        some { calls := definition.calls, raised := true } ∨
      inserted.connection.durable = before.connection.durable ∧
        before.connection.current.pipelines.find? definition.pipelineId = none ∧
        (inserted.connection.current.pipelines.find?
            definition.pipelineId).isSome =
          true := by
  have inBounds := (List.getElem?_eq_some_iff.mp called).1
  have isActive :
      before.active? position = some { calls := definition.calls } := by
    unfold active?
    rw [called]
    rfl
  change before.resume position = some inserted at fired
  unfold resume at fired
  rw [isActive, Option.bind_some] at fired
  unfold PipelineDefinition.calls at fired
  dsimp only at fired
  cases isWritten :
      before.connection.current.written?
        (.change
          (.insertPipeline
            { id := definition.pipelineId
              name := definition.name
              description := definition.description
              createdBy := definition.createdBy
              createdAt := definition.now
              updatedAt := definition.now })) with
  | none =>
    rw [isWritten] at fired
    cases fired
    exact .inl (List.getElem?_set_self inBounds)
  | some after =>
    rw [isWritten] at fired
    cases fired
    obtain ⟨pipelines, stored, rfl⟩ := Option.map_eq_some_iff.mp isWritten
    refine .inr ⟨rfl, KeyedTable.find?_eq_none_of_insert? stored, ?_⟩
    show (pipelines.find? definition.pipelineId).isSome = true
    rw [KeyedTable.find?_insert? stored, if_pos rfl]
    rfl

/--
After `create_pipeline` has failed at a step, nothing of the pipeline is
durable exactly if no commit has been awaited on the connection since the
pipeline's own row was inserted.
-/
theorem nothingDurable_iff_staysOpen
    {initial before inserted final : TaskConnection}
    {earlier later : List ConnectionAction}
    {position : Nat}
    {definition : PipelineDefinition}
    {operation : PendingOperation}
    (referenced : ConnectionReferenced initial.connection)
    (run : Run (Fires step) initial earlier before)
    (called : before.operations[position]? = some { calls := definition.calls })
    (inserts : Fires step before (.resume position) inserted)
    (follows : Run (Fires step) inserted later final)
    (found : final.operations[position]? = some operation)
    (failed : operation.FailedAtStep) :
    final.NothingDurable definition.pipelineId ↔
      Run (Guarded (Fires step) StaysOpen) inserted later final := by
  have referencedBefore : ConnectionReferenced before.connection :=
    @Run.preserves _ _ _
      (fun state => ConnectionReferenced state.connection)
      (fun _ _ _ fired => referenced_of_effect (effect_of_step fired))
      _ _ _ run referenced
  rcases resume_definition called inserts with
    raised | ⟨sameDurable, fresh, seen⟩
  · have stays :
        final.operations[position]? =
          some { calls := definition.calls, raised := true } :=
      @Run.preserves _ _ _
        (fun state =>
          state.operations[position]? =
            some { calls := definition.calls, raised := true })
        (fun _ _ _ fired still => raised_of_step fired still rfl)
        _ _ _ follows raised
    rw [found] at stays
    cases stays
    obtain ⟨_, _, _, _, isStep⟩ := failed
    cases isStep
  · constructor
    · intro nothing
      refine (staysOpen_or_durable follows seen).resolve_right ?_
      rw [nothing.pipeline]
      exact nofun
    · intro staysOpen
      have durable : final.connection.durable = before.connection.durable :=
        (durable_of_staysOpen staysOpen).trans sameDurable
      have absent :
          ¬ (before.connection.durable.pipelines.find?
              definition.pipelineId).isSome =
            true := by
        intro stored
        have known := referencedBefore.seen _ stored
        rw [fresh] at known
        cases known
      refine ⟨?_, ?_⟩
      · rw [durable]
        exact Option.not_isSome_iff_eq_none.mp absent
      · rw [durable]
        intro step member same
        have known := referencedBefore.durable step member
        rw [same] at known
        exact absent known

/-! ### A step index that is given twice -/

/-- A connection to a database without rows. -/
def nothingStored : TaskConnection where
  connection :=
    { durable :=
        { tasks := .empty
          pipelines := .empty
          pipelineSteps := .empty
          pipelineRuns := .empty
          auditLog := [] } }

theorem referenced_nothingStored :
    ConnectionReferenced nothingStored.connection :=
  ⟨fun _ => nofun, fun _ => nofun, fun _ => nofun⟩

/-- A pipeline of two steps that both have the default index. -/
def repeatedIndex : PipelineDefinition where
  pipelineId := "p"
  name := "Nightly"
  steps := [{ script := some "first" }, { script := some "second" }]
  now := 0

def taskReport : TaskDB.Operation where
  statement := .updateTaskStatus "t" .running {} "agent"
  now := 1

def calledRepeated : TaskConnection :=
  nothingStored.enter repeatedIndex.calls

def insertedRepeated : TaskConnection :=
  (calledRepeated.resume 0).getD calledRepeated

theorem run_calledRepeated :
    Run (Fires step) nothingStored [.createPipeline repeatedIndex]
      calledRepeated :=
  .single rfl

theorem fires_insertedRepeated :
    Fires step calledRepeated (.resume 0) insertedRepeated :=
  rfl

/-- Whether an operation has raised where it inserts a step. -/
def hasFailed (state : TaskConnection) : Bool :=
  (state.operations[0]?).any fun operation =>
    operation.raised &&
      match operation.calls with
      | .write (.insertStep _ _) :: _ => true
      | _ => false

theorem failedAtStep_of_hasFailed
    {state : TaskConnection}
    (failed : state.hasFailed = true) :
    ∃ operation,
      state.operations[0]? = some operation ∧ operation.FailedAtStep := by
  obtain ⟨operation, found, test⟩ := (Option.any_eq_true _ _).mp failed
  refine ⟨operation, found, ?_⟩
  obtain ⟨raised, isStep⟩ := Bool.and_eq_true_iff.mp test
  refine ⟨raised, ?_⟩
  split at isStep
  · rename_i pipelineId step rest isCalls
    exact ⟨pipelineId, step, rest, isCalls⟩
  · cases isStep

instance
    (state : TaskConnection)
    (action : ConnectionAction) : Decidable (state.StaysOpen action) :=
  inferInstanceAs (Decidable (_ = false))

/-- As long as the report is not committed, nothing is durable. -/
theorem repeatedIndex_nothingDurable :
    ∃ final : TaskConnection,
      final.NothingDurable "p" ∧ final.operations.length = 2 := by
  obtain ⟨final, run, tested⟩ :=
    @exists_run_of_execute _ _ (checked step StaysOpen) insertedRepeated
      [.resume 0, .resume 0, .begin taskReport, .resume 1]
      (fun state =>
        hasFailed state && decide (state.operations.length = 2))
      (by decide)
  obtain ⟨failed, both⟩ := Bool.and_eq_true_iff.mp tested
  obtain ⟨operation, found, atStep⟩ := failedAtStep_of_hasFailed failed
  have staysOpen := run.guarded_of_checked
  exact
    ⟨final,
      (nothingDurable_iff_staysOpen referenced_nothingStored
        run_calledRepeated rfl fires_insertedRepeated
        staysOpen.unguarded found atStep).mpr staysOpen,
      of_decide_eq_true both⟩

/-- The next report makes the pipeline durable, with its first step. -/
theorem not_nothingDurable :
    ¬ ∀ {before inserted final : TaskConnection}
        {earlier later : List ConnectionAction}
        {operation : PendingOperation},
        Run (Fires step) nothingStored earlier before →
        before.operations[0]? = some { calls := repeatedIndex.calls } →
        Fires step before (.resume 0) inserted →
        Run (Fires step) inserted later final →
        final.operations[0]? = some operation →
        operation.FailedAtStep →
        final.NothingDurable "p" := by
  intro promised
  obtain ⟨final, run, tested⟩ :=
    @exists_run_of_execute _ _ step insertedRepeated
      [.resume 0, .resume 0, .begin taskReport, .resume 1, .resume 1]
      (fun state =>
        hasFailed state &&
          (state.connection.durable.pipelines.find? "p").isSome)
      (by decide)
  obtain ⟨failed, durable⟩ := Bool.and_eq_true_iff.mp tested
  obtain ⟨operation, found, atStep⟩ := failedAtStep_of_hasFailed failed
  have nothing :=
    promised run_calledRepeated rfl fires_insertedRepeated run found atStep
  rw [nothing.pipeline] at durable
  cases durable

end TaskConnection

end RpaPlatform.Tasks
