import RpaPlatform.TaskService

namespace RpaPlatform.Tasks

open TaskDB Transition

/-!
# What suspended coroutines know

A coroutine that is suspended holds rows it has read earlier.  Statuses may
have changed since, but the identity columns of tasks and runs and the
definitions of pipelines never do.  `Coherent` states this for every frame and
for the database itself: a task of a run has the agent of the run and the
index of a step of the run's pipeline.  Every step of the subsystem keeps it.
-/

/-- A run of an agent whose pipeline has a step with an index. -/
def StepOfRun
    (db : TaskDB)
    (runId agentId : String)
    (stepIndex : Nat) : Prop :=
  ∃ run pipeline step,
    run ∈ db.runIdentities ∧
      run.id = runId ∧
      run.agentId = agentId ∧
      db.getPipeline run.pipelineId = some pipeline ∧
      step ∈ pipeline.steps ∧
      step.stepIndex = stepIndex

/-- A task that has a run is a step of that run, for the same agent. -/
def FitsRun (db : TaskDB) (task : TaskIdentity) : Prop :=
  ∀ runId,
    task.pipelineRunId = some runId →
    StepOfRun db runId task.agentId task.stepIndex

/-- A task that is about to be recorded, and the run that may fail with it. -/
def StoredFor
    (db : TaskDB)
    (task : TaskIdentity)
    (refusal : Option (String × Nat)) : Prop :=
  task ∈ db.taskIdentities ∧ task.pipelineRunId = refusal.map Prod.fst

/-- A task and the run it belongs to, as `advance_pipeline` has read them. -/
def ReadFor
    (db : TaskDB)
    (task : TaskRow)
    (run : PipelineRun) : Prop :=
  task.identity ∈ db.taskIdentities ∧
    task.pipelineRunId = some run.id ∧
    run.toPipelineRunRow.identity ∈ db.runIdentities

/-- What a suspended coroutine knows about the database. -/
def FrameCoherent (db : TaskDB) : Frame → Prop
  | .advanceTask _ (some task) =>
    task.identity ∈ db.taskIdentities
  | .advanceRun _ task (some run) =>
    ReadFor db task run
  | .advancePipeline _ task run pipeline =>
    ReadFor db task run ∧
      ∃ defined,
        pipeline = some defined ∧ db.getPipeline run.pipelineId = some defined
  | .runPipeline _ _ (some pipeline) =>
    db.getPipeline pipeline.row.id = some pipeline
  | .runCreated body _ runId first =>
    ∃ pipelineId pipeline rest,
      { id := runId, pipelineId, agentId := body.agentId : RunIdentity } ∈
          db.runIdentities ∧
        db.getPipeline pipelineId = some pipeline ∧
        pipeline.steps = first :: rest
  | .creating task runId _ =>
    task.pipelineRunId = some runId ∧ FitsRun db task.identity
  | .dispatching task refusal =>
    StoredFor db task.identity refusal
  | .deploying task refusal =>
    StoredFor db task.identity refusal
  | .sending task _ refusal =>
    StoredFor db task.identity refusal
  | .refusing runId _ =>
    ∃ task ∈ db.taskIdentities, task.pipelineRunId = some runId
  | _ =>
    True

/-- The stored tasks and runs, and what suspended coroutines know of them. -/
structure Coherent (sys : TaskSystem) : Prop where
  tasks : ∀ task ∈ sys.db.taskIdentities, FitsRun sys.db task
  runs :
    ∀ run ∈ sys.db.runIdentities,
      ∃ pipeline, sys.db.getPipeline run.pipelineId = some pipeline
  frames : ∀ slot, FrameCoherent sys.db (sys.frames slot)

/-! ### Knowledge survives growth -/

section Growth

variable
    {before after : TaskDB}
    (grows : Extends before after)

include grows

theorem StepOfRun.mono
    {runId agentId : String}
    {stepIndex : Nat}
    (belongs : StepOfRun before runId agentId stepIndex) :
    StepOfRun after runId agentId stepIndex := by
  obtain ⟨run, pipeline, step, member, named, owned, defined, rest⟩ :=
    belongs
  exact ⟨run, pipeline, step, grows.runs.subset member, named, owned,
    grows.pipelines defined, rest⟩

theorem FitsRun.mono
    {task : TaskIdentity}
    (fits : FitsRun before task) :
    FitsRun after task :=
  fun runId belongs => (fits runId belongs).mono grows

theorem StoredFor.mono
    {task : TaskIdentity}
    {refusal : Option (String × Nat)}
    (stored : StoredFor before task refusal) :
    StoredFor after task refusal :=
  ⟨grows.tasks.subset stored.1, stored.2⟩

theorem ReadFor.mono
    {task : TaskRow}
    {run : PipelineRun}
    (read : ReadFor before task run) :
    ReadFor after task run :=
  ⟨grows.tasks.subset read.1, read.2.1, grows.runs.subset read.2.2⟩

theorem FrameCoherent.mono
    {frame : Frame}
    (coherent : FrameCoherent before frame) :
    FrameCoherent after frame := by
  cases frame with
  | advanceTask status task =>
    cases task with
    | none =>
      trivial
    | some task =>
      exact grows.tasks.subset coherent
  | advanceRun status task run =>
    cases run with
    | none =>
      trivial
    | some run =>
      exact ReadFor.mono grows coherent
  | advancePipeline status task run pipeline =>
    obtain ⟨read, defined, same, stored⟩ := coherent
    exact ⟨read.mono grows, defined, same, grows.pipelines stored⟩
  | runPipeline body requestedFrom pipeline =>
    cases pipeline with
    | none =>
      trivial
    | some pipeline =>
      exact grows.pipelines coherent
  | runCreated body requestedFrom runId first =>
    obtain ⟨pipelineId, pipeline, rest, member, stored, steps⟩ :=
      coherent
    exact ⟨pipelineId, pipeline, rest, grows.runs.subset member,
      grows.pipelines stored, steps⟩
  | creating task runId currentStep =>
    exact ⟨coherent.1, coherent.2.mono grows⟩
  | dispatching | deploying | sending =>
    exact StoredFor.mono grows coherent
  | refusing runId currentStep =>
    obtain ⟨task, member, belongs⟩ := coherent
    exact ⟨task, grows.tasks.subset member, belongs⟩
  | _ =>
    trivial

end Growth

/-! ### Every step keeps coherence -/

section Step

variable
    {server : Server}
    {before after : TaskSystem}
    {action : Action}
    {turn : Turn}
    {slot : Nat}
    {now : Int}

variable
    {db : TaskDB}
    {task : TaskSpec}
    {refusal : Option (String × Nat)}

theorem fitsRun_step
    {run : RunIdentity}
    {pipeline : Pipeline}
    {step : PipelineStepRow}
    (member : run ∈ db.runIdentities)
    (defined : db.getPipeline run.pipelineId = some pipeline)
    (stepMember : step ∈ pipeline.steps)
    (ofRun : task.pipelineRunId = some run.id)
    (ofAgent : task.agentId = run.agentId)
    (ofStep : task.stepIndex = step.stepIndex) :
    FitsRun db task.identity := by
  intro runId belongs
  have sameRun : some run.id = some runId :=
    ofRun.symm.trans belongs
  exact ⟨run, pipeline, step, member, Option.some.inj sameRun,
    ofAgent.symm, defined, stepMember, ofStep.symm⟩

theorem Resumed.createdTask
    {answer : Answer}
    {frame : Frame}
    (resumed : Resumed server db answer frame turn)
    (coherent : FrameCoherent db frame)
    (creates : turn.statement = some (.createTask task)) :
    FitsRun db task.identity := by
  cases resumed with
  | created =>
    cases creates
    exact coherent.2
  | turnedDown | deployed | sent =>
    unfold recordTurn at creates
    simp at creates
  | advanced =>
    unfold advanceTurn at creates
    split at creates <;> cases creates
  | _ =>
    cases creates

theorem start_createdTask
    (starts : start before action = some turn)
    (creates : turn.statement = some (.createTask task)) :
    task.pipelineRunId = none := by
  cases action with
  | createTask slot body requestedFrom freshId now =>
    cases starts
    cases creates
    exact congrArg TaskIdentity.pipelineRunId
      (TaskFactory.identity_createAgentTaskFromRequest body
        requestedFrom freshId)
  | submitDeployment slot body freshId now =>
    cases starts
    cases creates
    exact congrArg TaskIdentity.pipelineRunId
      (identity_prepareTask body freshId)
  | resume =>
    cases starts
  | _ =>
    cases starts
    cases creates

theorem recordTurn_coherent
    (result : TaskDispatchResult)
    (stored : StoredFor db task.identity refusal) :
    FrameCoherent db (recordTurn task result refusal).next := by
  unfold recordTurn
  dsimp only
  split
  · trivial
  · cases refusal with
    | none =>
      trivial
    | some failing =>
      exact ⟨task.identity, stored.1, stored.2⟩

theorem handlerFrame_coherent
    (answer : Answer)
    (stored : StoredFor db task.identity refusal) :
    FrameCoherent db (handlerFrame task refusal answer) := by
  unfold handlerFrame
  split
  · split
    · exact stored
    · trivial
  · exact stored

theorem advanceTurn_coherent
    {status : TaskStatus}
    {task : TaskRow}
    {run : PipelineRun}
    {pipeline : Pipeline}
    (freshId : String)
    (read : ReadFor db task run)
    (defined : db.getPipeline run.pipelineId = some pipeline) :
    FrameCoherent db (advanceTurn status task run pipeline freshId).next := by
  unfold advanceTurn
  split
  · trivial
  · trivial
  · rename_i step decided
    have stepMember : step ∈ pipeline.steps :=
      (advanceDecision_launch decided).1
    refine ⟨?_, fitsRun_step read.2.2 defined stepMember ?_ ?_ ?_⟩
    · exact TaskFactory.createPipelineStepTask_pipelineRunId ..
    · exact TaskFactory.createPipelineStepTask_pipelineRunId ..
    · exact TaskFactory.createPipelineStepTask_agentId ..
    · exact TaskFactory.createPipelineStepTask_stepIndex ..

theorem storedFor_createTask
    {db created : TaskDB}
    {now : Int}
    (creates : db.createTask now task = some created)
    (belongs : task.pipelineRunId = refusal.map Prod.fst) :
    StoredFor created task.identity refusal := by
  refine ⟨?_, belongs⟩
  rw [taskIdentities_createTask creates]
  exact List.mem_append_right _ (List.mem_singleton.mpr rfl)

/-- A resumed coroutine knows what it needs for its next suspension. -/
theorem Resumed.nextCoherent
    {answer : Answer}
    (resumed : Resumed server before.db answer (before.frames slot) turn)
    (coherent : Coherent before)
    (performed : turn.perform before.db now = some db) :
    FrameCoherent db turn.next := by
  have knows := coherent.frames slot
  have grows := Turn.extends_perform performed
  generalize before.frames slot = frame at resumed knows
  cases resumed with
  | @reportAdvances taskId status =>
    cases performed
    cases found : before.db.getTask taskId with
    | none =>
      trivial
    | some row =>
      exact (identity_mem_of_getTask found).1
  | @taskFound status task runId belongs named =>
    cases performed
    cases found : before.db.getPipelineRun runId with
    | none =>
      trivial
    | some run =>
      obtain ⟨member, sameId⟩ :=
        identity_mem_of_getPipelineRun found
      exact ⟨knows, sameId ▸ belongs, member⟩
  | runLive live =>
    cases performed
    obtain ⟨pipeline, defined⟩ := coherent.runs _ knows.2.2
    exact ⟨knows, pipeline, defined, defined⟩
  | advanced =>
    obtain ⟨read, pipeline, same, defined⟩ := knows
    cases same
    exact (advanceTurn_coherent answer.freshId read defined).mono grows
  | @runStarted body requestedFrom pipeline first rest steps =>
    refine ⟨pipeline.row.id, pipeline, rest, ?_, grows.pipelines knows, steps⟩
    rw [runIdentities_createPipelineRun performed]
    exact List.mem_append_right _ (List.mem_singleton.mpr rfl)
  | @runLaunched body requestedFrom runId first =>
    obtain ⟨pipelineId, pipeline, rest, member, defined, steps⟩ := knows
    have firstMember : first ∈ pipeline.steps := by
      rw [steps]
      exact List.mem_cons_self
    refine ⟨?_, (fitsRun_step member defined firstMember ?_ ?_ ?_).mono grows⟩
    · exact TaskFactory.createPipelineStepTask_pipelineRunId ..
    · exact TaskFactory.createPipelineStepTask_pipelineRunId ..
    · exact TaskFactory.createPipelineStepTask_agentId ..
    · exact TaskFactory.createPipelineStepTask_stepIndex ..
  | created =>
    exact storedFor_createTask performed knows.1
  | handed =>
    cases performed
    exact handlerFrame_coherent answer knows
  | @turnedDown task refusal error refused =>
    exact (recordTurn_coherent (refusedResult error) knows).mono grows
  | @deployed task refusal =>
    exact (recordTurn_coherent acceptedResult knows).mono grows
  | @sent task sent refusal =>
    exact (recordTurn_coherent (agentResult sent) knows).mono grows
  | _ =>
    trivial

theorem start_nextCoherent
    {now : Int}
    (starts : start before action = some turn)
    (performed : turn.perform before.db now = some db) :
    FrameCoherent db turn.next := by
  cases action with
  | createTask slot body requestedFrom freshId now
  | submitDeployment slot body freshId now =>
    have standalone :
        ∀ task, turn.statement = some (.createTask task) →
          task.pipelineRunId = none :=
      fun _ => start_createdTask starts
    cases starts
    exact storedFor_createTask performed (standalone _ rfl)
  | runPipeline slot pipelineId body requestedFrom =>
    cases starts
    cases performed
    cases found : before.db.getPipeline pipelineId with
    | none =>
      simp only [Turn.await]
      trivial
    | some pipeline =>
      have same := (getPipeline_id found).1
      subst pipelineId
      simp only [Turn.await]
      exact found
  | cancelTask slot taskId actor =>
    cases starts
    trivial
  | resume =>
    cases starts
  | _ =>
    cases starts
    trivial

section Turns

variable
    (coherent : Coherent before)
    (begins : Tasks.turn server before action = some turn)
include coherent begins

theorem turn_createdTask
    (creates : turn.statement = some (.createTask task)) :
    FitsRun before.db task.identity := by
  rcases turn_cases begins with ⟨slot, answer, _, resumed⟩ | ⟨_, starts⟩
  · exact resumed.createdTask (coherent.frames slot) creates
  · intro runId belongs
    have standalone : task.identity.pipelineRunId = none :=
      start_createdTask starts creates
    rw [standalone] at belongs
    cases belongs

theorem turn_createdRun
    {runId pipelineId agentId session requestedBy requestedFrom : String}
    (creates :
      turn.statement =
        some (.createPipelineRun runId pipelineId agentId session
          requestedBy requestedFrom)) :
    ∃ pipeline, before.db.getPipeline pipelineId = some pipeline := by
  rcases turn_cases begins with ⟨slot, answer, _, resumed⟩ | ⟨_, starts⟩
  · have knows := coherent.frames slot
    generalize before.frames slot = frame at resumed knows
    cases resumed with
    | runStarted =>
      cases creates
      exact ⟨_, knows⟩
    | turnedDown | deployed | sent =>
      unfold recordTurn at creates
      simp at creates
    | advanced =>
      unfold advanceTurn at creates
      split at creates <;> cases creates
    | _ =>
      cases creates
  · cases action with
    | resume =>
      cases starts
    | _ =>
      cases starts
      cases creates

/-- Every step keeps the system coherent. -/
theorem Coherent.step
    (took : Took server before action turn after) :
    Coherent after := by
  have grows := took.extends_db
  refine ⟨?_, ?_, ?_⟩
  · intro task member
    rcases took.executed with same | ⟨statement, issues, _, executed⟩
    · rw [same] at member ⊢
      exact coherent.tasks task member
    · rcases taskIdentities_execute executed with
        same | ⟨created, rfl, appended⟩
      · rw [same] at member
        exact (coherent.tasks task member).mono grows
      · rw [appended, List.mem_append, List.mem_singleton] at member
        rcases member with earlier | rfl
        · exact (coherent.tasks task earlier).mono grows
        · exact (turn_createdTask coherent begins issues).mono grows
  · intro run member
    have kept :
        run ∈ before.db.runIdentities ∨
          ∃ pipeline, before.db.getPipeline run.pipelineId = some pipeline := by
      rcases took.executed with same | ⟨statement, issues, _, executed⟩
      · rw [same] at member
        exact .inl member
      · rcases runIdentities_execute executed with
          same | ⟨_, _, _, _, _, _, rfl, appended⟩
        · rw [same] at member
          exact .inl member
        · rw [appended, List.mem_append, List.mem_singleton] at member
          rcases member with earlier | rfl
          · exact .inl earlier
          · exact .inr (turn_createdRun coherent begins issues)
    rcases kept with earlier | ⟨pipeline, defined⟩
    · obtain ⟨pipeline, defined⟩ := coherent.runs run earlier
      exact ⟨pipeline, grows.pipelines defined⟩
    · exact ⟨pipeline, grows.pipelines defined⟩
  · intro slot
    rcases took.frame slot with
      ⟨_, kept⟩ | ⟨_, idle, _⟩ | ⟨acts, reached, performed⟩ |
      ⟨_, _, _, _, reached, _⟩
    · rw [kept]
      exact (coherent.frames slot).mono grows
    · rw [idle]
      trivial
    · rw [reached]
      rcases turn_cases begins with
        ⟨_, answer, _, resumed⟩ | ⟨_, starts⟩
      · exact resumed.nextCoherent coherent performed
      · exact start_nextCoherent starts performed
    · rw [reached]
      trivial

end Turns

end Step

theorem coherent_started (files : Files) :
    Coherent (.started .empty files) where
  tasks := by
    intro task member
    cases member
  runs := by
    intro run member
    cases member
  frames := fun _ => trivial

/--
Whatever happens, the stored tasks and runs, and what the suspended coroutines
have read of them, belong together.
-/
theorem coherent_of_run
    {server : Server}
    {files : Files}
    {actions : List Action}
    {final : TaskSystem}
    (run : Run (Fires (step? server)) (.started .empty files) actions final) :
    Coherent final := by
  refine run.preserves ?_ (coherent_started files)
  intro before action after taken coherent
  obtain ⟨turn, begins, took⟩ := step_cases taken
  exact coherent.step begins took

theorem createdTask_coherent :
    ∃ final : TaskSystem, final.dispatched = ["t"] ∧ Coherent final := by
  obtain ⟨final, run, reached⟩ :=
    exists_run_of_execute
      (show (execute (step? exampleServer) (.started .empty fun _ => none)
          [.createTask 0 exampleTaskRequest "" "t" 0, .resume 0 {}]).any
          (fun sys => decide (sys.dispatched = ["t"])) = true by
        decide)
  exact ⟨final, of_decide_eq_true reached, coherent_of_run run⟩

end RpaPlatform.Tasks
