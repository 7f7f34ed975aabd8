import RpaPlatform.PipelineOnce

namespace RpaPlatform.Tasks

open TaskDB Transition

/-!
# Completeness and order of a pipeline run

A run starts with the first step of its ordered definition and continues, after
a report of the task at index `i`, with the step at index `i + 1`.  So when a
task has been created for an index, tasks have been created for all steps
before it.  A run is completed after the report of a task whose index has no
successor in the definition: nothing is missing then unless the definition
goes on after a gap.

Tasks are dispatched in the order in which they are created as long as a
task's report moves its run on once at most, and only after the task has been
dispatched.
-/

/-- The step index of a task of a run. -/
def stepIndexOf
    (db : TaskDB)
    (runId taskId : String) : Option Nat :=
  ((db.runSteps runId).find? fun entry =>
    decide (entry.1 = taskId)).map Prod.snd

def dispatchedSteps (sys : TaskSystem) (runId : String) : List Nat :=
  sys.dispatched.filterMap (stepIndexOf sys.db runId)

/-- Every step of a completed run has had a task. -/
def CompletedRunsComplete (db : TaskDB) : Prop :=
  ∀ run ∈ db.runIdentities,
    db.runStatus run.id = some .completed →
    ∀ pipeline ∈ db.getPipeline run.pipelineId,
      ∀ step ∈ pipeline.steps, tasksAt db run.id step.stepIndex ≠ []

/--
In every run of the subsystem, the completed pipeline runs are complete, and
the tasks of each are dispatched in increasing order of their steps.
-/
def RunsCompleteInOrder
    (step : TaskSystem → Action → TaskSystem → Prop) : Prop :=
  ∀ {files : Files} {final : TaskSystem} {actions : List Action},
    Run step (.started .empty files) actions final →
    CompletedRunsComplete final.db ∧
      ∀ runId, (dispatchedSteps final runId).Pairwise (· < ·)

/-- A report moves its run on only after the task has been dispatched. -/
def FollowsDispatch (sys : TaskSystem) : Action → Prop
  | .resume slot _ =>
    match sys.frames slot with
    | .advanceRun _ task (some run) =>
      run.status.live = true →
      task.id ∈ sys.dispatched
    | _ => True
  | _ => True

/--
A definition that goes on after the step of the reporting task goes on with
the next index, unless the report stops the run.
-/
def SkipsNothing (sys : TaskSystem) : Action → Prop
  | .resume slot _ =>
    match sys.frames slot with
    | .advancePipeline status task _ (some pipeline) =>
      (∃ later ∈ pipeline.steps, task.stepIndex < later.stepIndex) →
      (∃ next ∈ pipeline.steps,
        next.stepIndex = task.stepIndex + 1) ∨
        (status.failing = true ∧ onFailAt pipeline.steps task.stepIndex = .stop)
    | _ => True
  | _ => True

def InSequence (sys : TaskSystem) (action : Action) : Prop :=
  MovesOnce sys action ∧ FollowsDispatch sys action ∧ SkipsNothing sys action

instance (sys : TaskSystem) (action : Action) :
    Decidable (FollowsDispatch sys action) :=
  match action with
  | .resume slot _ => by
    unfold FollowsDispatch
    dsimp only
    generalize sys.frames slot = frame
    induction frame using Frame.casesOn with
    | advanceRun status task run =>
      induction run using Option.casesOn with
      | none => exact isTrue trivial
      | some run => infer_instance
    | _ => exact isTrue trivial
  | .taskStatus .. | .taskOutput .. | .createTask .. |
    .submitDeployment .. | .cancelTask .. | .createPipeline .. |
    .runPipeline .. => isTrue trivial

instance (sys : TaskSystem) (action : Action) :
    Decidable (SkipsNothing sys action) :=
  match action with
  | .resume slot _ => by
    unfold SkipsNothing
    dsimp only
    generalize sys.frames slot = frame
    induction frame using Frame.casesOn with
    | advancePipeline status task run pipeline =>
      induction pipeline using Option.casesOn with
      | none => exact isTrue trivial
      | some pipeline => infer_instance
    | _ => exact isTrue trivial
  | .taskStatus .. | .taskOutput .. | .createTask .. |
    .submitDeployment .. | .cancelTask .. | .createPipeline .. |
    .runPipeline .. => isTrue trivial

instance (sys : TaskSystem) (action : Action) :
    Decidable (InSequence sys action) := by
  unfold InSequence
  infer_instance

/-! ### Completeness -/

/-- The steps of a run below an index have had a task. -/
def Covers (db : TaskDB) (runId : String) (bound : Nat) : Prop :=
  ∀ run ∈ db.runIdentities,
    run.id = runId →
    ∀ pipeline ∈ db.getPipeline run.pipelineId,
      ∀ step ∈ pipeline.steps,
        step.stepIndex < bound →
        ∃ taskId, (taskId, step.stepIndex) ∈ db.runSteps runId

variable
    {db : TaskDB}
    {runId : String}

theorem tasksAt_ne_nil
    {stepIndex : Nat} :
    tasksAt db runId stepIndex ≠ [] ↔
      ∃ taskId, (taskId, stepIndex) ∈ db.runSteps runId := by
  constructor
  · intro nonempty
    obtain ⟨taskId, member⟩ := List.exists_mem_of_ne_nil _ nonempty
    obtain ⟨entry, found, rfl⟩ := List.mem_map.mp member
    rw [List.mem_filter, decide_eq_true_eq] at found
    obtain ⟨entryMember, rfl⟩ := found
    exact ⟨entry.1, entryMember⟩
  · rintro ⟨taskId, member⟩
    apply List.ne_nil_of_mem
    apply List.mem_map.mpr
    exact ⟨(taskId, stepIndex),
      List.mem_filter.mpr ⟨member, decide_eq_true rfl⟩, rfl⟩

theorem runSteps_mono
    {before after : TaskDB}
    (grows : Extends before after)
    {entry : String × Nat}
    (member : entry ∈ before.runSteps runId) :
    entry ∈ after.runSteps runId := by
  obtain ⟨task, stored, rest⟩ := mem_runSteps.mp member
  exact mem_runSteps.mpr ⟨task, grows.tasks.subset stored, rest⟩

theorem Covers.mono
    {before after : TaskSystem}
    {bound : Nat}
    (covers : Covers before.db runId bound)
    (coherent : Coherent before)
    (grows : Extends before.db after.db)
    (created : runId ∈ before.db.runIdentities.map RunIdentity.id) :
    Covers after.db runId bound := by
  intro run member named pipeline defined step stepMember below
  obtain ⟨earlier, earlierMember, earlierNamed⟩ :=
    List.mem_map.mp created
  have same : earlier = run :=
    runIdentity_unique (grows.runs.subset earlierMember) member
      (earlierNamed.trans named.symm)
  subst earlier
  obtain ⟨known, knownDefined⟩ := coherent.runs run earlierMember
  have samePipeline : known = pipeline := by
    have kept := grows.pipelines knownDefined
    rw [Option.mem_def, kept] at defined
    exact Option.some.inj defined
  subst known
  obtain ⟨taskId, entryMember⟩ :=
    covers run earlierMember named pipeline knownDefined step stepMember below
  exact ⟨taskId, runSteps_mono grows entryMember⟩

theorem covers_first
    {run : RunIdentity}
    {pipeline : Pipeline}
    {first : PipelineStepRow}
    {rest : List PipelineStepRow}
    (member : run ∈ db.runIdentities)
    (defined : db.getPipeline run.pipelineId = some pipeline)
    (steps : pipeline.steps = first :: rest) :
    Covers db run.id first.stepIndex := by
  intro other otherMember named found foundDefined step stepMember below
  have same : other = run :=
    runIdentity_unique otherMember member named
  subst other
  rw [Option.mem_def, defined] at foundDefined
  cases foundDefined
  have increasing := db.stepsOf_increasing run.pipelineId
  rw [← (getPipeline_id defined).2, steps, List.pairwise_cons] at increasing
  rw [steps, List.mem_cons] at stepMember
  rcases stepMember with rfl | later
  · exact (Nat.lt_irrefl _ below).elim
  · have above := increasing.1 step later
    omega

/-- Tasks are created, and runs completed, after the steps before them. -/
structure Covered (sys : TaskSystem) : Prop where
  tasks :
    ∀ runId, ∀ entry ∈ sys.db.runSteps runId, Covers sys.db runId (entry.2 + 1)
  creating :
    ∀ slot task runId currentStep,
      sys.frames slot = .creating task runId currentStep →
      Covers sys.db runId task.stepIndex
  completed :
    ∀ runId,
      sys.db.runStatus runId = some .completed →
      ∀ bound, Covers sys.db runId bound

section Step

variable
    {server : Server}
    {before after : TaskSystem}
    {action : Action}
    {turn : Turn}

variable
    {task : TaskSpec}
    {runId : String}
    {currentStep : Nat}

/-- The two ways in which a coroutine comes to create a task of a run. -/
theorem turn_creating
    (begins : Tasks.turn server before action = some turn)
    (reaches : turn.next = .creating task runId currentStep) :
    (∃ body requestedFrom first,
      before.frames action.slot =
          .runCreated body requestedFrom runId first ∧
        task.stepIndex = first.stepIndex) ∨
      ∃ status row run pipeline,
        before.frames action.slot =
            .advancePipeline status row run (some pipeline) ∧
          run.id = runId ∧
          task.stepIndex = row.stepIndex + 1 := by
  rcases turn_cases begins with ⟨slot, answer, rfl, resumed⟩ | ⟨_, starts⟩
  · simp only [Action.slot]
    generalize before.frames slot = frame at resumed
    cases resumed with
    | runLaunched =>
      cases reaches
      exact .inl ⟨_, _, _, rfl, TaskFactory.createPipelineStepTask_stepIndex ..⟩
    | @advanced status row run pipeline =>
      unfold advanceTurn at reaches
      split at reaches
      · cases reaches
      · cases reaches
      · rename_i step decided
        cases reaches
        refine .inr ⟨status, row, run, pipeline, rfl, rfl, ?_⟩
        rw [TaskFactory.createPipelineStepTask_stepIndex,
          (advanceDecision_launch decided).2]
    | @handed task refusal accepted =>
      unfold handlerFrame at reaches
      split at reaches
      · split at reaches <;> cases reaches
      · cases reaches
    | @turnedDown task refusal error refused =>
      rcases recordTurn_next task (refusedResult error) refusal with
        ends | ⟨_, _, _, _, fails⟩
      · cases ends.symm.trans reaches
      · cases fails.symm.trans reaches
    | @deployed task refusal =>
      rcases recordTurn_next task acceptedResult refusal with
        ends | ⟨_, _, _, _, fails⟩
      · cases ends.symm.trans reaches
      · cases fails.symm.trans reaches
    | @sent task sent refusal =>
      rcases recordTurn_next task (agentResult sent) refusal with
        ends | ⟨_, _, _, _, fails⟩
      · cases ends.symm.trans reaches
      · cases fails.symm.trans reaches
    | _ =>
      cases reaches
  · cases action with
    | resume =>
      cases starts
    | _ =>
      cases starts
      cases reaches

theorem turn_creates
    (coherent : Coherent before)
    (begins : Tasks.turn server before action = some turn)
    (issues : turn.statement = some (.createTask task))
    (belongs : task.pipelineRunId = some runId) :
    ∃ currentStep,
      before.frames action.slot = .creating task runId currentStep := by
  rcases turn_cases begins with ⟨slot, answer, rfl, resumed⟩ | ⟨_, starts⟩
  · have knows := coherent.frames slot
    simp only [Action.slot]
    generalize before.frames slot = frame at resumed knows
    cases resumed with
    | @created task named currentStep =>
      cases issues
      have sameRun := knows.1.symm.trans belongs
      cases sameRun
      exact ⟨currentStep, rfl⟩
    | turnedDown | deployed | sent =>
      simp [recordTurn] at issues
    | advanced =>
      unfold advanceTurn at issues
      split at issues <;> cases issues
    | _ =>
      cases issues
  · rw [start_createdTask starts issues] at belongs
    cases belongs

theorem turn_completes
    {currentStep : Option Nat}
    (begins : Tasks.turn server before action = some turn)
    (issues :
      turn.statement =
        some (.updatePipelineRunStatus runId .completed currentStep)) :
    ∃ slot answer status row run pipeline,
      action = .resume slot answer ∧
        before.frames slot = .advancePipeline status row run (some pipeline) ∧
        run.id = runId ∧
        advanceDecision status pipeline.steps row.stepIndex = .complete := by
  rcases turn_cases begins with ⟨slot, answer, rfl, resumed⟩ | ⟨_, starts⟩
  · generalize suspended : before.frames slot = frame at resumed
    cases resumed with
    | @advanced status row run pipeline =>
      unfold advanceTurn at issues
      split at issues
      · cases issues
      · rename_i decided
        cases issues
        exact ⟨slot, answer, status, row, run, pipeline, rfl, suspended,
          rfl, decided⟩
      · cases issues
    | turnedDown | deployed | sent =>
      simp [recordTurn] at issues
    | _ =>
      cases issues
  · cases action with
    | resume =>
      cases starts
    | _ =>
      cases starts
      cases issues

theorem Coherent.advancing
    (coherent : Coherent before)
    {slot : Nat}
    {status : TaskStatus}
    {row : TaskRow}
    {run : PipelineRun}
    {pipeline : Option Pipeline}
    (suspended :
      before.frames slot = .advancePipeline status row run pipeline) :
    (row.id, row.stepIndex) ∈ before.db.runSteps run.id := by
  have knows := coherent.frames slot
  rw [suspended] at knows
  exact mem_runSteps.mpr ⟨row.identity, knows.1.1, knows.1.2.1, rfl⟩

theorem Coherent.making
    (coherent : Coherent before)
    {slot : Nat}
    (suspended : before.frames slot = .creating task runId currentStep) :
    runId ∈ before.db.runIdentities.map RunIdentity.id := by
  have holds :
      (before.frames slot).baton runId = some (.making task.stepIndex) := by
    rw [suspended]
    exact if_pos rfl
  exact coherent.baton holds

theorem Coherent.runCreated
    (coherent : Coherent before)
    {entry : String × Nat}
    (member : entry ∈ before.db.runSteps runId) :
    runId ∈ before.db.runIdentities.map RunIdentity.id := by
  by_contra fresh
  rw [coherent.runSteps_fresh fresh] at member
  cases member

section Covers

variable
    (covered : Covered before)
    (coherent : Coherent before)
    (begins : Tasks.turn server before action = some turn)
    (took : Took server before action turn after)
include covered coherent begins took

theorem Covered.tasks_step
    {entry : String × Nat}
    (member : entry ∈ after.db.runSteps runId) :
    Covers after.db runId (entry.2 + 1) := by
  have grows := took.extends_db
  have earlier :
      entry ∈ before.db.runSteps runId →
      Covers after.db runId (entry.2 + 1) := by
    intro earlierMember
    exact (covered.tasks runId entry earlierMember).mono coherent grows
      (coherent.runCreated earlierMember)
  rcases took.db with performed | ⟨_, same⟩
  · by_cases creates : ∃ task, turn.statement = some (.createTask task)
    · obtain ⟨task, issues⟩ := creates
      have executed := performed
      simp only [Turn.perform, issues] at executed
      obtain ⟨stored, storedMember, belongs, shape⟩ :=
        mem_runSteps.mp member
      rw [taskIdentities_createTask executed, List.mem_append,
        List.mem_singleton] at storedMember
      rcases storedMember with old | rfl
      · exact earlier (mem_runSteps.mpr ⟨stored, old, belongs, shape⟩)
      · obtain ⟨currentStep, suspended⟩ :=
          turn_creates coherent begins issues belongs
        have created : runId ∈ before.db.runIdentities.map RunIdentity.id := by
          exact coherent.making suspended
        have below :=
          (covered.creating action.slot task runId currentStep
            suspended).mono coherent grows created
        subst entry
        intro run runMember named pipeline defined step stepMember bound
        by_cases due : step.stepIndex = task.stepIndex
        · exact ⟨task.id, due ▸ member⟩
        · have shorter : step.stepIndex < task.stepIndex := by
            have atMost : step.stepIndex < task.stepIndex + 1 := bound
            omega
          exact below run runMember named pipeline defined step stepMember
            shorter
    · apply earlier
      rwa [runSteps_perform performed
        fun task issues => creates ⟨task, issues⟩] at member
  · apply earlier
    rwa [same] at member

theorem Covered.creating_step
    {slot : Nat}
    (suspended : after.frames slot = .creating task runId currentStep) :
    Covers after.db runId task.stepIndex := by
  have grows := took.extends_db
  rcases took.frame slot with
    ⟨_, kept⟩ | ⟨_, idle, _⟩ | ⟨_, reached, _⟩ | ⟨_, _, _, _, reached, _⟩
  · rw [kept] at suspended
    have created : runId ∈ before.db.runIdentities.map RunIdentity.id := by
      exact coherent.making suspended
    exact (covered.creating slot task runId currentStep suspended).mono
      coherent grows created
  · rw [idle] at suspended
    cases suspended
  · rw [reached] at suspended
    rcases turn_creating begins suspended with
      ⟨body, requestedFrom, first, launches, sameStep⟩ |
      ⟨status, row, run, pipeline, moves, rfl, nextStep⟩
    · have knows := coherent.frames action.slot
      rw [launches] at knows
      obtain ⟨pipelineId, pipeline, rest, member, defined, steps⟩ := knows
      rw [sameStep]
      exact (covers_first member defined steps).mono coherent grows
        (List.mem_map.mpr ⟨_, member, rfl⟩)
    · have member := coherent.advancing moves
      rw [nextStep]
      exact (covered.tasks run.id _ member).mono coherent grows
        (coherent.runCreated member)
  · rw [reached] at suspended
    cases suspended

/-- A run that is completed has had a task for every step. -/
theorem Covered.completed_step
    (skipsNothing : SkipsNothing before action)
    (completed : after.db.runStatus runId = some .completed)
    (bound : Nat) :
    Covers after.db runId bound := by
  have grows := took.extends_db
  have stays :
      before.db.runStatus runId = some .completed →
      Covers after.db runId bound := by
    intro earlier
    refine (covered.completed runId earlier bound).mono coherent grows ?_
    rw [runStatus, Option.map_eq_some_iff] at earlier
    obtain ⟨row, found, _⟩ := earlier
    obtain ⟨member, named⟩ :=
      before.db.pipelineRuns.find?_eq_some_iff.mp found
    exact List.mem_map.mpr ⟨row.identity, List.mem_map_of_mem member, named⟩
  rcases took.executed with same | ⟨statement, issues, performed, executed⟩
  · apply stays
    rw [← same, completed]
  · rcases runStatus_execute executed runId with
      ⟨_, queued⟩ | ⟨status, currentStep, rfl, updated⟩ | same
    · rw [queued] at completed
      cases completed
    · rw [updated, Option.map_eq_some_iff] at completed
      obtain ⟨_, _, rfl⟩ := completed
      obtain ⟨slot, answer, status, row, run, pipeline, rfl,
        suspended, rfl, decided⟩ := turn_completes begins issues
      have member := coherent.advancing suspended
      have below :=
        (covered.tasks run.id _ member).mono coherent grows
          (coherent.runCreated member)
      have knows := coherent.frames slot
      rw [suspended] at knows
      obtain ⟨read, known, same, knownDefined⟩ := knows
      cases same
      simp only [SkipsNothing, suspended] at skipsNothing
      -- Only the definition that the coroutine has read matters.
      intro other otherMember named found foundDefined step stepMember _
      have same : run.toPipelineRunRow.identity = other :=
        runIdentity_unique (grows.runs.subset read.2.2) otherMember named.symm
      subst other
      have stillDefined := grows.pipelines knownDefined
      rw [Option.mem_def] at foundDefined
      have samePipeline : pipeline = found :=
        Option.some.inj (stillDefined.symm.trans foundDefined)
      subst found
      have notBeyond : step.stepIndex < row.stepIndex + 1 := by
        by_contra beyond
        rcases skipsNothing ⟨step, stepMember, by omega⟩ with
          ⟨next, nextMember, due⟩ | stops
        · exact advanceDecision_complete decided next nextMember due
        · rw [advanceDecision_fail.mpr stops] at decided
          cases decided
      exact below _ otherMember rfl pipeline foundDefined step
        stepMember notBeyond
    · apply stays
      rw [← same, completed]

theorem Covered.step
    (skipsNothing : SkipsNothing before action) :
    Covered after where
  tasks := fun _ _ member =>
    covered.tasks_step coherent begins took member
  creating := fun _ _ _ _ suspended =>
    covered.creating_step coherent begins took suspended
  completed := fun _ completed bound =>
    covered.completed_step coherent begins took skipsNothing completed bound

end Covers

/-! ### Order -/

/-- A task is passed when its report moves its run on. -/
theorem advances_of_passed
    {runId taskId : String}
    (coherent : Coherent before)
    (recorded : Recorded before)
    (begins : Tasks.turn server before action = some turn)
    (took : Took server before action turn after)
    (passed : taskId ∈ (after.relay runId).passed)
    (unpassed : taskId ∉ (before.relay runId).passed) :
    taskId ∈ (before.relay runId).items ∧
      ∃ slot answer status row run,
        action = .resume slot answer ∧
          before.frames slot = .advanceRun status row (some run) ∧
          run.status.live = true ∧
          row.id = taskId := by
  have grows := took.extends_db
  obtain ⟨reported, isItem⟩ := List.mem_filter.mp passed
  obtain ⟨task, member, belongs, named⟩ :=
    mem_items.mp (of_decide_eq_true isItem)
  have itemBefore :
      taskId ∈ before.db.taskIdentities.map TaskIdentity.id →
      taskId ∈ (before.db.runSteps runId).map Prod.fst := by
    intro stored
    obtain ⟨earlier, earlierMember, earlierNamed⟩ :=
      List.mem_map.mp stored
    have same : earlier = task :=
      taskIdentity_unique (grows.tasks.subset earlierMember) member
        (earlierNamed.trans named.symm)
    subst earlier
    exact mem_items.mpr ⟨task, earlierMember, belongs, named⟩
  have notBefore : taskId ∉ before.advanced.map Prod.fst := by
    intro earlier
    obtain ⟨report, reportMember, rfl⟩ := List.mem_map.mp earlier
    have stored := recorded.advanced report reportMember
    exact unpassed (List.mem_filter.mpr
      ⟨earlier, decide_eq_true (itemBefore stored)⟩)
  rcases took.histories with ⟨grown, _⟩ | ⟨same, _⟩
  · rw [grown, List.map_append, List.mem_append] at reported
    rcases reported with earlier | now
    · exact (notBefore earlier).elim
    · obtain ⟨report, advances, rfl⟩ := List.mem_map.mp now
      obtain ⟨slot, answer, status, row, run, rfl, suspended, live, rfl,
        _⟩ := turn_advances begins (Option.mem_toList.mp advances)
      have knows := coherent.frames slot
      rw [suspended] at knows
      have stored : row.id ∈ before.db.taskIdentities.map TaskIdentity.id :=
        List.mem_map.mpr ⟨row.identity, knows.1, rfl⟩
      exact ⟨itemBefore stored, slot, answer, status, row, run, rfl,
        suspended, live, rfl⟩
  · rw [same] at reported
    exact (notBefore reported).elim

/--
A task that is passed for the first time has been handed out, when reports
follow dispatches.
-/
theorem passed_handed
    {runId taskId : String}
    (coherent : Coherent before)
    (recorded : Recorded before)
    (followsDispatch : FollowsDispatch before action)
    (begins : Tasks.turn server before action = some turn)
    (took : Took server before action turn after)
    (passed : taskId ∈ (after.relay runId).passed)
    (unpassed : taskId ∉ (before.relay runId).passed) :
    taskId ∈ (before.relay runId).handed := by
  obtain ⟨isItem, slot, answer, status, row, run, rfl, suspended, live, rfl⟩ :=
    advances_of_passed coherent recorded begins took passed unpassed
  simp only [FollowsDispatch, suspended] at followsDispatch
  exact List.mem_filter.mpr ⟨followsDispatch live, decide_eq_true isItem⟩

end Step

theorem stepIndexOf_of_mem
    {sys : TaskSystem}
    {entry : String × Nat}
    (valid : (sys.relay runId).Valid)
    (member : entry ∈ sys.db.runSteps runId) :
    stepIndexOf sys.db runId entry.1 = some entry.2 := by
  have found :
      ((sys.db.runSteps runId).find? fun other =>
        decide (other.1 = entry.1)).isSome = true := by
    rw [List.find?_isSome]
    exact ⟨entry, member, decide_eq_true rfl⟩
  obtain ⟨other, isOther⟩ := Option.isSome_iff_exists.mp found
  have sameTask : other.1 = entry.1 := by
    simpa using List.find?_some isOther
  have otherMember : (entry.1, other.2) ∈ sys.db.runSteps runId := by
    rw [← sameTask]
    exact List.mem_of_find?_eq_some isOther
  have sameStep : other.2 = entry.2 :=
    valid.position_unique otherMember member
  rw [stepIndexOf, isOther, Option.map_some, sameStep]

theorem stepIndexOf_eq_none
    {runId taskId : String}
    (absent : taskId ∉ (db.runSteps runId).map Prod.fst) :
    stepIndexOf db runId taskId = none := by
  rw [stepIndexOf, Option.map_eq_none_iff, List.find?_eq_none]
  intro entry member same
  rw [decide_eq_true_eq] at same
  exact absent (List.mem_map.mpr ⟨entry, member, same⟩)

theorem dispatchedSteps_eq_handed (sys : TaskSystem) (runId : String) :
    dispatchedSteps sys runId =
      (sys.relay runId).handed.filterMap (stepIndexOf sys.db runId) := by
  have others :
      ∀ taskId,
        (if decide (taskId ∈ (sys.db.runSteps runId).map Prod.fst) = true
          then stepIndexOf sys.db runId taskId else none) =
          stepIndexOf sys.db runId taskId := by
    intro taskId
    split
    · rfl
    · rename_i absent
      rw [decide_eq_true_eq] at absent
      exact (stepIndexOf_eq_none absent).symm
  simp only [TaskSystem.relay, List.filterMap_filter, others]
  rfl

theorem dispatchedSteps_increasing
    {sys : TaskSystem}
    (valid : (sys.relay runId).Valid)
    (inOrder : (sys.relay runId).InOrder) :
    (dispatchedSteps sys runId).Pairwise (· < ·) := by
  have itemSteps :
      (sys.relay runId).items.filterMap (stepIndexOf sys.db runId) =
        (sys.db.runSteps runId).map Prod.snd := by
    have positions :
        (sys.db.runSteps runId).filterMap
            (stepIndexOf sys.db runId ∘ Prod.fst) =
          (sys.db.runSteps runId).filterMap (some ∘ Prod.snd) :=
      List.filterMap_congr fun _ member =>
        stepIndexOf_of_mem valid member
    simp only [Relay.items, TaskSystem.relay, List.filterMap_map, positions]
    exact congrFun List.filterMap_eq_map _
  have increasing : ((sys.db.runSteps runId).map Prod.snd).Pairwise (· < ·) :=
    List.pairwise_map.mpr valid.increasing
  rw [dispatchedSteps_eq_handed]
  rw [← itemSteps] at increasing
  exact increasing.sublist
    (inOrder.isPrefix.sublist.filterMap (stepIndexOf sys.db runId))

/-! ### Runs in sequence -/

/-- What holds in every state while the subsystem proceeds in sequence. -/
structure SequenceSound (sys : TaskSystem) : Prop
    extends PipelineSound sys where
  covered : Covered sys
  inOrder : ∀ runId, (sys.relay runId).InOrder

theorem sequenceSound_started (files : Files) :
    SequenceSound (.started .empty files) where
  toPipelineSound := pipelineSound_started files
  covered := by
    refine ⟨?_, ?_, ?_⟩
    · intro runId entry member
      cases member
    · intro slot task runId currentStep suspended
      cases suspended
    · intro runId completed
      cases completed
  inOrder := fun _ => ⟨.inl rfl, fun _ member => by cases member⟩

theorem SequenceSound.step
    {server : Server}
    {before after : TaskSystem}
    {action : Action}
    (sound : SequenceSound before)
    (inSequence : InSequence before action)
    (taken : step? server before action = some after) :
    SequenceSound after := by
  obtain ⟨once, followsDispatch, skipsNothing⟩ := inSequence
  obtain ⟨turn, begins, took⟩ := step_cases taken
  exact {
    toPipelineSound := sound.toPipelineSound.step once taken
    covered := sound.covered.step sound.coherent begins took skipsNothing
    inOrder := fun runId =>
      (sound.inOrder runId).step (sound.relays runId)
        (relay_step sound.coherent sound.recorded once begins took runId)
        fun _ passed unpassed =>
          passed_handed sound.coherent sound.recorded followsDispatch
            begins took passed unpassed
  }

/-- In a run in sequence, pipeline runs are complete and in order. -/
theorem runs_completeInOrder_of_inSequence (server : Server) :
    RunsCompleteInOrder (Guarded (Fires (step? server)) InSequence) := by
  intro files final actions run
  have sound : SequenceSound final := by
    apply run.preserves ?_ (sequenceSound_started files)
    rintro before action after ⟨taken, inSequence⟩ sound
    exact sound.step inSequence taken
  constructor
  · intro pipelineRun member completed pipeline defined step stepMember
    rw [tasksAt_ne_nil]
    exact sound.covered.completed pipelineRun.id completed
      (step.stepIndex + 1) pipelineRun member rfl pipeline defined step
      stepMember (Nat.lt_succ_self step.stepIndex)
  · intro runId
    exact dispatchedSteps_increasing (sound.relays runId) (sound.inOrder runId)

/-- A pipeline of two steps that starts at index 3 and completes. -/
theorem twoSteps_completeInOrder :
    ∃ final,
      Run (Guarded (Fires (step? exampleServer)) InSequence)
        (.started .empty fun _ => none)
        (launchRun (exampleStep 3 .stop 0) [exampleStep 4 .continue 0] ++
          reportTask "t" "completed" ++ launchNext "u" ++
          reportTask "u" "failed" ++ [.resume 0 {}]) final ∧
        final.db.runStatus "r" = some .completed ∧
        CompletedRunsComplete final.db ∧
        dispatchedSteps final "r" = [3, 4] ∧
        (dispatchedSteps final "r").Pairwise (· < ·) := by
  obtain ⟨final, checkedRun, reached⟩ :=
    exists_run_of_execute
      (show (execute (checked (step? exampleServer) InSequence)
          (.started .empty fun _ => none)
          (launchRun (exampleStep 3 .stop 0)
              [exampleStep 4 .continue 0] ++
            reportTask "t" "completed" ++ launchNext "u" ++
            reportTask "u" "failed" ++ [.resume 0 {}])).any
          (fun sys =>
            decide (sys.db.runStatus "r" = some .completed) &&
              decide (dispatchedSteps sys "r" = [3, 4])) = true by
        decide)
  rw [Bool.and_eq_true, decide_eq_true_eq, decide_eq_true_eq] at reached
  have run := checkedRun.guarded_of_checked
  obtain ⟨complete, ordered⟩ :=
    runs_completeInOrder_of_inSequence exampleServer run
  exact ⟨final, run, reached.1, complete, reached.2, ordered "r"⟩

/--
A definition with a gap is accepted, and its run is completed after the first
step, without a task for the other.
-/
theorem not_runs_completeInOrder :
    ¬ RunsCompleteInOrder (Fires (step? exampleServer)) := by
  intro claimed
  obtain ⟨final, run, reached⟩ :=
    exists_run_of_execute
      (show (execute (step? exampleServer)
          (.started .empty fun _ => none)
          (launchRun (exampleStep 0 .stop 0) [exampleStep 2 .stop 0] ++
            reportTask "t" "completed" ++ [.resume 0 {}])).any
          (fun sys =>
            decide (∃ run ∈ sys.db.runIdentities,
              sys.db.runStatus run.id = some .completed ∧
                ∃ pipeline ∈ sys.db.getPipeline run.pipelineId,
                  ∃ step ∈ pipeline.steps,
                    tasksAt sys.db run.id step.stepIndex = [])) = true by
        decide)
  rw [decide_eq_true_eq] at reached
  obtain ⟨pipelineRun, member, completed, pipeline, defined, step,
    stepMember, missing⟩ := reached
  exact (claimed run).1 pipelineRun member completed pipeline defined step
    stepMember missing

end RpaPlatform.Tasks
