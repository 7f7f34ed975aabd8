import RpaPlatform.PipelineOrder

namespace RpaPlatform.Tasks

open TaskDB Transition

/-!
# Failure policies

A step says what happens when it fails: the run stops, the run continues with
the next step, or the step is tried again.  `advance_pipeline` reads the first
two; a retry is stored with its count, and treated as the second.  A dispatch
that is refused ends the run whatever the policy is.

The invariant behind the policies says that every report that has moved a run
on is either waiting at its suspension or has been carried out, and that a run
with a refused task is closed.
-/

/-- The steps of the pipeline of a run. -/
def definitionOf
    (db : TaskDB)
    (runId : String) : List PipelineStepRow :=
  match (db.getPipelineRun runId).bind fun run =>
      db.getPipeline run.pipelineId with
  | some pipeline => pipeline.steps
  | none => []

/-- Whether a suspended coroutine still works for a run. -/
def Frame.serves (runId : String) : Frame → Bool
  | .advancePipeline _ _ run _ => run.id = runId
  | .runCreated _ _ launched _ => launched = runId
  | .creating _ launched _ => launched = runId
  | .dispatching _ refusal => refusal.map Prod.fst = some runId
  | .deploying _ refusal => refusal.map Prod.fst = some runId
  | .sending _ _ refusal => refusal.map Prod.fst = some runId
  | .refusing failing _ => failing = runId
  | _ => false

def Settled (sys : TaskSystem) (runId : String) : Prop :=
  ∀ slot, (sys.frames slot).serves runId = false

/--
A task has ended in failure: a failing report has moved its run on, or its
dispatch was refused.
-/
def EndedFailing (sys : TaskSystem) (taskId : String) : Prop :=
  (∃ status, (taskId, status) ∈ sys.advanced ∧ status.failing = true) ∨
    taskId ∈ sys.refused

/-- A step follows another in a definition, with none in between. -/
def FollowsStep
    (steps : List PipelineStepRow)
    (stepIndex : Nat)
    (next : PipelineStepRow) : Prop :=
  next ∈ steps ∧
    stepIndex < next.stepIndex ∧
    ∀ between ∈ steps,
      stepIndex < between.stepIndex →
      next.stepIndex ≤ between.stepIndex

/-- What the policy of a step asks for after its task has failed. -/
def HonoursPolicy
    (sys : TaskSystem)
    (runId taskId : String)
    (step : PipelineStepRow) : Prop :=
  match step.onFail with
  | .stop =>
    (∀ other ∈ dispatchedSteps sys runId, other ≤ step.stepIndex) ∧
      (Settled sys runId → sys.db.runStatus runId = some .failed)
  | .retry =>
    Settled sys runId →
    ∀ retries,
      (dispatchesAt sys runId step.stepIndex)[retries]? = some taskId →
      if retries < step.retryCount then
        retries + 1 < (dispatchesAt sys runId step.stepIndex).length
      else
        sys.db.runStatus runId = some .failed
  | .continue =>
    Settled sys runId →
    ∀ next,
      FollowsStep (definitionOf sys.db runId) step.stepIndex next →
      next.stepIndex ∈ dispatchedSteps sys runId

/--
In every run of the subsystem, the policy of each step is honoured for each of
its tasks that has ended in failure.
-/
def PoliciesHonoured
    (step : TaskSystem → Action → TaskSystem → Prop) : Prop :=
  ∀ {files : Files} {final : TaskSystem} {actions : List Action},
    Run step (.started .empty files) actions final →
    ∀ runId,
      ∀ entry ∈ final.db.runSteps runId,
        EndedFailing final entry.1 →
        ∀ step ∈ definitionOf final.db runId,
          step.stepIndex = entry.2 →
          HonoursPolicy final runId entry.1 step

/-- A failing report of the step is treated as its policy asks. -/
def ReportCovered
    (steps : List PipelineStepRow)
    (step : PipelineStepRow) : Prop :=
  match step.onFail with
  | .stop => True
  | .retry => False
  | .continue =>
    (∃ later ∈ steps, step.stepIndex < later.stepIndex) →
    ∃ next ∈ steps, next.stepIndex = step.stepIndex + 1

/-- A refusal of the step, which fails the run, is what its policy asks. -/
def RefusalCovered
    (steps : List PipelineStepRow)
    (step : PipelineStepRow) : Prop :=
  match step.onFail with
  | .stop => True
  | .retry => step.retryCount = 0
  | .continue => ∀ later ∈ steps, later.stepIndex ≤ step.stepIndex

/-- A task that is refused has not reported, and its refusal is covered. -/
def RefusalAllowed
    (sys : TaskSystem)
    (task : TaskSpec)
    (refusal : Option (String × Nat)) : Prop :=
  ∀ failing ∈ refusal,
    task.id ∉ sys.advanced.map Prod.fst ∧
      ∀ step ∈ definitionOf sys.db failing.1,
        step.stepIndex = task.stepIndex →
        RefusalCovered (definitionOf sys.db failing.1) step

/--
The condition under which policies are honoured.  A report moves a run on once
at most, and not after the task was refused; a failing report is of a step
without retries, and of one that continues only where the next index is that
of the next step; a refused task has not reported, and either stops the run or
has nothing after it; and the id of a new task is fresh.
-/
def FollowsPolicies
    (server : Server)
    (sys : TaskSystem) : Action → Prop
  | .resume slot answer =>
    match sys.frames slot with
    | .advanceRun _ task (some run) =>
      run.status.live = true →
      task.id ∉ sys.advanced.map Prod.fst ∧ task.id ∉ sys.refused
    | .advancePipeline status task _ (some pipeline) =>
      status.failing = true →
      ∀ step ∈ pipeline.steps,
        step.stepIndex = task.stepIndex →
        ReportCovered pipeline.steps step
    | .creating task _ _ =>
      task.id ∉ sys.db.taskIdentities.map TaskIdentity.id
    | .dispatching task refusal =>
      (refusedAtOnce server task answer).isSome = true →
      RefusalAllowed sys task refusal
    | .sending task sent refusal =>
      sent = false →
      RefusalAllowed sys task refusal
    | _ => True
  | _ => True

instance (steps : List PipelineStepRow) (step : PipelineStepRow) :
    Decidable (ReportCovered steps step) := by
  unfold ReportCovered
  split <;> infer_instance

instance (steps : List PipelineStepRow) (step : PipelineStepRow) :
    Decidable (RefusalCovered steps step) := by
  unfold RefusalCovered
  split <;> infer_instance

instance
    (sys : TaskSystem)
    (task : TaskSpec)
    (refusal : Option (String × Nat)) :
    Decidable (RefusalAllowed sys task refusal) := by
  unfold RefusalAllowed
  infer_instance

instance (server : Server) (sys : TaskSystem) (action : Action) :
    Decidable (FollowsPolicies server sys action) :=
  match action with
  | .resume slot _ => by
    unfold FollowsPolicies
    dsimp only
    generalize sys.frames slot = frame
    induction frame using Frame.casesOn with
    | advanceRun status task run =>
      induction run using Option.casesOn with
      | none => exact isTrue trivial
      | some run => infer_instance
    | advancePipeline status task run pipeline =>
      induction pipeline using Option.casesOn with
      | none => exact isTrue trivial
      | some pipeline => infer_instance
    | creating | dispatching | sending => infer_instance
    | _ => exact isTrue trivial
  | .taskStatus .. | .taskOutput .. | .createTask .. |
    .submitDeployment .. | .cancelTask .. | .createPipeline .. |
    .runPipeline .. => isTrue trivial

/-! ### Definitions of runs -/

theorem definitionOf_eq
    {db : TaskDB}
    {run : RunIdentity}
    {pipeline : Pipeline}
    (member : run ∈ db.runIdentities)
    (defined : db.getPipeline run.pipelineId = some pipeline) :
    definitionOf db run.id = pipeline.steps := by
  obtain ⟨row, stored, rfl⟩ := List.mem_map.mp member
  have found : db.pipelineRuns.find? row.id = some row :=
    db.pipelineRuns.find?_eq_some_iff.mpr ⟨stored, rfl⟩
  simp only [PipelineRunRow.identity] at defined ⊢
  simp only [definitionOf, getPipelineRun, found, Option.map_some,
    Option.bind_some, defined]

theorem definitionOf_mono
    {before after : TaskSystem}
    {runId : String}
    (coherent : Coherent before)
    (grows : Extends before.db after.db)
    (created : runId ∈ before.db.runIdentities.map RunIdentity.id) :
    definitionOf after.db runId = definitionOf before.db runId := by
  obtain ⟨run, member, rfl⟩ := List.mem_map.mp created
  obtain ⟨pipeline, defined⟩ := coherent.runs run member
  rw [definitionOf_eq member defined,
    definitionOf_eq (grows.runs.subset member) (grows.pipelines defined)]

theorem Coherent.definition
    {sys : TaskSystem}
    (coherent : Coherent sys)
    {slot : Nat}
    {status : TaskStatus}
    {row : TaskRow}
    {run : PipelineRun}
    {pipeline : Option Pipeline}
    (suspended : sys.frames slot = .advancePipeline status row run pipeline) :
    ∃ defined,
      pipeline = some defined ∧
        definitionOf sys.db run.id = defined.steps := by
  have knows := coherent.frames slot
  rw [suspended] at knows
  obtain ⟨read, defined, same, stored⟩ := knows
  exact ⟨defined, same, definitionOf_eq read.2.2 stored⟩

theorem definitionOf_increasing (db : TaskDB) (runId : String) :
    (definitionOf db runId).Pairwise
      fun first second => first.stepIndex < second.stepIndex := by
  unfold definitionOf
  split
  · rename_i pipeline found
    rw [Option.bind_eq_some_iff] at found
    obtain ⟨run, _, defined⟩ := found
    rw [(getPipeline_id defined).2]
    exact db.stepsOf_increasing run.pipelineId
  · exact List.Pairwise.nil

theorem onFailAt_of_mem
    {steps : List PipelineStepRow}
    (increasing :
      steps.Pairwise fun first second =>
        first.stepIndex < second.stepIndex)
    {step : PipelineStepRow}
    (member : step ∈ steps) :
    onFailAt steps step.stepIndex = step.onFail := by
  have found :
      steps.find? (fun other =>
        decide (other.stepIndex = step.stepIndex)) = some step := by
    cases search : steps.find? fun other =>
        decide (other.stepIndex = step.stepIndex) with
    | none =>
      have absent := List.find?_eq_none.mp search step member
      exact (absent (decide_eq_true rfl)).elim
    | some other =>
      have sameIndex : other.stepIndex = step.stepIndex := by
        simpa using List.find?_some search
      have distinct : (steps.map PipelineStepRow.stepIndex).Nodup :=
        List.pairwise_map.mpr (increasing.imp Nat.ne_of_lt)
      exact congrArg some <|
        List.inj_on_of_nodup_map distinct
          (List.mem_of_find?_eq_some search) member sameIndex
  rw [onFailAt, found]

/-! ### Reports and refusals that have been carried out -/

/-- A decision on the step after an entry of a run has been carried out. -/
def CarriedOut
    (sys : TaskSystem)
    (runId : String)
    (entry : String × Nat) : AdvanceDecision → Prop
  | .fail =>
    (sys.relay runId).Closed entry ∧ sys.db.runStatus runId = some .failed
  | .complete =>
    True
  | .launch _ =>
    (∃ slot task currentStep,
      sys.frames slot = .creating task runId currentStep ∧
        task.stepIndex = entry.2 + 1) ∨
      ∃ taskId, (taskId, entry.2 + 1) ∈ sys.db.runSteps runId

/-- A coroutine waits with a report that has moved its run on. -/
def ReportWaits
    (sys : TaskSystem)
    (runId : String)
    (report : String × TaskStatus) : Prop :=
  ∃ slot row run pipeline,
    sys.frames slot = .advancePipeline report.2 row run pipeline ∧
      row.id = report.1 ∧
      run.id = runId

/-- A report that has moved a run on waits, or has been carried out. -/
def ReportCarried
    (sys : TaskSystem)
    (report : String × TaskStatus) : Prop :=
  ∃ runId stepIndex,
    (report.1, stepIndex) ∈ sys.db.runSteps runId ∧
      (ReportWaits sys runId report ∨
        (report.2.failing = true →
          ∀ step ∈ definitionOf sys.db runId,
            step.stepIndex = stepIndex →
            ReportCovered (definitionOf sys.db runId) step) ∧
        CarriedOut sys runId (report.1, stepIndex)
          (advanceDecision report.2 (definitionOf sys.db runId) stepIndex))

/-- A run that has a refused task is closed, and fails. -/
structure RefusalCarried (sys : TaskSystem) (taskId : String) : Prop where
  stored : taskId ∈ sys.db.taskIdentities.map TaskIdentity.id
  closed :
    ∀ runId stepIndex,
      (taskId, stepIndex) ∈ sys.db.runSteps runId →
      (sys.relay runId).Closed (taskId, stepIndex)
  covered :
    ∀ runId stepIndex,
      (taskId, stepIndex) ∈ sys.db.runSteps runId →
      ∀ step ∈ definitionOf sys.db runId,
        step.stepIndex = stepIndex →
        RefusalCovered (definitionOf sys.db runId) step
  failing :
    ∀ runId stepIndex,
      (taskId, stepIndex) ∈ sys.db.runSteps runId →
      (∃ slot currentStep,
        sys.frames slot = .refusing runId currentStep) ∨
        sys.db.runStatus runId = some .failed

/-- What holds in every state while the steps follow the policies. -/
structure PolicySound (sys : TaskSystem) : Prop
    extends PipelineSound sys where
  reports : ∀ report ∈ sys.advanced, ReportCarried sys report
  refusals : ∀ taskId ∈ sys.refused, RefusalCarried sys taskId

/-! ### The invariant implies the policies -/

section Honours

variable
    {sys : TaskSystem}
    {runId : String}
    {entry : String × Nat}

theorem runSteps_unique
    {db : TaskDB}
    {first second : String}
    {taskId : String}
    {firstIndex secondIndex : Nat}
    (firstMember : (taskId, firstIndex) ∈ db.runSteps first)
    (secondMember : (taskId, secondIndex) ∈ db.runSteps second) :
    first = second ∧ firstIndex = secondIndex := by
  obtain ⟨task, stored, belongs, shape⟩ := mem_runSteps.mp firstMember
  obtain ⟨other, otherStored, otherBelongs, otherShape⟩ :=
    mem_runSteps.mp secondMember
  have named : task.id = taskId := congrArg Prod.fst shape
  have otherNamed : other.id = taskId := congrArg Prod.fst otherShape
  have same : task = other :=
    taskIdentity_unique stored otherStored (named.trans otherNamed.symm)
  subst other
  have sameRun : some first = some second :=
    belongs.symm.trans otherBelongs
  have sameIndex : (taskId, firstIndex) = (taskId, secondIndex) :=
    shape.symm.trans otherShape
  exact ⟨Option.some.inj sameRun, congrArg Prod.snd sameIndex⟩

theorem not_settled
    {slot : Nat}
    (serves : (sys.frames slot).serves runId = true) :
    ¬ Settled sys runId := by
  intro settled
  rw [settled slot] at serves
  cases serves

theorem PipelineSound.dispatchedSteps_le
    (sound : PipelineSound sys)
    (isLast : (sys.db.runSteps runId).getLast? = some entry) :
    ∀ other ∈ dispatchedSteps sys runId, other ≤ entry.2 := by
  intro other member
  obtain ⟨taskId, _, found⟩ := List.mem_filterMap.mp member
  rw [stepIndexOf, Option.map_eq_some_iff] at found
  obtain ⟨made, isMade, rfl⟩ := found
  exact (sound.relays runId).position_le_last isLast
    (List.mem_of_find?_eq_some isMade)

theorem PipelineSound.dispatched_of_settled
    (sound : PipelineSound sys)
    (settled : Settled sys runId)
    (member : entry ∈ sys.db.runSteps runId) :
    entry.2 ∈ dispatchedSteps sys runId := by
  obtain ⟨task, stored, belongs, rfl⟩ := mem_runSteps.mp member
  rcases sound.recorded.reached task stored with
    dispatched | ⟨slot, waits⟩
  · exact List.mem_filterMap.mpr
      ⟨task.id, dispatched, stepIndexOf_of_mem (sound.relays runId) member⟩
  · have knows := sound.coherent.frames slot
    have serves : (sys.frames slot).serves runId = true := by
      generalize sys.frames slot = frame at waits knows
      cases frame with
      | dispatching waiting refusal =>
        obtain ⟨waitingStored, ofRun⟩ := knows
        have same : waiting.identity = task :=
          taskIdentity_unique waitingStored stored (Option.some.inj waits)
        rw [same, belongs] at ofRun
        exact decide_eq_true ofRun.symm
      | _ =>
        cases waits
    exact (not_settled serves settled).elim

theorem next_of_followsStep
    {steps : List PipelineStepRow}
    {stepIndex : Nat}
    {next : PipelineStepRow}
    (follows : FollowsStep steps stepIndex next)
    (successor : ∃ step ∈ steps, step.stepIndex = stepIndex + 1) :
    next.stepIndex = stepIndex + 1 := by
  obtain ⟨_, after, nearest⟩ := follows
  obtain ⟨step, member, due⟩ := successor
  have bound := nearest step member (by omega)
  omega

/-- A failing report that has been carried out honours the policy. -/
theorem PolicySound.honours_report
    (sound : PolicySound sys)
    (member : entry ∈ sys.db.runSteps runId)
    {status : TaskStatus}
    (reported : (entry.1, status) ∈ sys.advanced)
    (failing : status.failing = true)
    {step : PipelineStepRow}
    (defined : step ∈ definitionOf sys.db runId)
    (atEntry : step.stepIndex = entry.2) :
    HonoursPolicy sys runId entry.1 step := by
  obtain ⟨ofRun, stepIndex, reportMember, carried⟩ :=
    sound.reports _ reported
  obtain ⟨rfl, rfl⟩ := runSteps_unique reportMember member
  rcases carried with ⟨slot, row, run, pipeline, suspended, named, rfl⟩ |
    ⟨covered, carriedOut⟩
  · have serves : (sys.frames slot).serves run.id = true := by
      rw [suspended]
      exact decide_eq_true rfl
    have unsettled : ¬ Settled sys run.id := not_settled serves
    have holds : (sys.relay run.id).batons slot = some (.deciding entry.1) := by
      simp only [TaskSystem.relay, suspended, Frame.baton, named, if_pos]
    have isLast : (sys.db.runSteps run.id).getLast? = some entry := by
      obtain ⟨position, isLast⟩ := (sound.relays run.id).deciding holds
      have same : position = entry.2 :=
        (sound.relays run.id).position_unique
          (List.mem_of_getLast? isLast) member
      rw [same] at isLast
      exact isLast
    unfold HonoursPolicy
    split
    · rw [atEntry]
      exact ⟨sound.dispatchedSteps_le isLast,
        fun settled => (unsettled settled).elim⟩
    · exact fun settled => (unsettled settled).elim
    · exact fun settled => (unsettled settled).elim
  · have policy :
        onFailAt (definitionOf sys.db ofRun) entry.2 = step.onFail := by
      rw [← atEntry]
      exact onFailAt_of_mem (definitionOf_increasing sys.db ofRun) defined
    have isCovered := covered failing step defined atEntry
    unfold ReportCovered at isCovered
    unfold HonoursPolicy
    cases onFail : step.onFail with
    | stop =>
      have decided :
          advanceDecision status (definitionOf sys.db ofRun) entry.2 = .fail :=
        advanceDecision_fail.mpr ⟨failing, policy.trans onFail⟩
      rw [decided] at carriedOut
      obtain ⟨closed, failed⟩ := carriedOut
      dsimp only
      rw [atEntry]
      exact ⟨sound.dispatchedSteps_le closed.isLast, fun _ => failed⟩
    | retry =>
      rw [onFail] at isCovered
      exact isCovered.elim
    | «continue» =>
      rw [onFail] at isCovered
      dsimp only at isCovered ⊢
      intro settled next follows
      have successor :=
        isCovered ⟨next, follows.1, follows.2.1⟩
      rw [next_of_followsStep follows successor]
      rw [atEntry] at successor ⊢
      cases decided :
          advanceDecision status (definitionOf sys.db ofRun) entry.2 with
      | fail =>
        have stops := (advanceDecision_fail.mp decided).2
        rw [policy, onFail] at stops
        cases stops
      | complete =>
        obtain ⟨due, dueMember, dueIndex⟩ := successor
        exact (advanceDecision_complete decided due dueMember dueIndex).elim
      | launch launched =>
        rw [decided] at carriedOut
        rcases carriedOut with
          ⟨slot, task, currentStep, suspended, _⟩ |
          ⟨taskId, created⟩
        · have serves : (sys.frames slot).serves ofRun = true := by
            rw [suspended]
            exact decide_eq_true rfl
          exact (not_settled serves settled).elim
        · exact sound.dispatched_of_settled settled created

theorem PolicySound.honours_refusal
    (sound : PolicySound sys)
    (member : entry ∈ sys.db.runSteps runId)
    (refused : entry.1 ∈ sys.refused)
    {step : PipelineStepRow}
    (defined : step ∈ definitionOf sys.db runId)
    (atEntry : step.stepIndex = entry.2) :
    HonoursPolicy sys runId entry.1 step := by
  have carried := sound.refusals _ refused
  have closed := carried.closed runId entry.2 member
  have isCovered :=
    carried.covered runId entry.2 member step defined atEntry
  have failed : Settled sys runId → sys.db.runStatus runId = some .failed := by
    intro settled
    rcases carried.failing runId entry.2 member with
      ⟨slot, currentStep, suspended⟩ | failed
    · have serves : (sys.frames slot).serves runId = true := by
        rw [suspended]
        exact decide_eq_true rfl
      exact (not_settled serves settled).elim
    · exact failed
  unfold RefusalCovered at isCovered
  unfold HonoursPolicy
  cases onFail : step.onFail with
  | stop =>
    dsimp only
    rw [atEntry]
    exact ⟨sound.dispatchedSteps_le closed.isLast, failed⟩
  | retry =>
    rw [onFail] at isCovered
    dsimp only at isCovered ⊢
    intro settled retries _
    rw [isCovered, if_neg (Nat.not_lt_zero retries)]
    exact failed settled
  | «continue» =>
    rw [onFail] at isCovered
    dsimp only at isCovered ⊢
    intro _ next follows
    have before := isCovered next follows.1
    have after := follows.2.1
    omega

end Honours

/-! ### Steps that follow the policies -/

section Step

variable
    {server : Server}
    {before after : TaskSystem}
    {action : Action}
    {turn : Turn}
    {runId : String}
    {entry : String × Nat}

theorem FollowsPolicies.movesOnce
    (follows : FollowsPolicies server before action) :
    MovesOnce before action := by
  cases action with
  | resume slot answer =>
    simp only [FollowsPolicies] at follows
    simp only [MovesOnce]
    generalize before.frames slot = frame at follows
    cases frame with
    | advanceRun status task run =>
      cases run with
      | none =>
        trivial
      | some run =>
        exact fun live => (follows live).1
    | _ =>
      trivial
  | _ =>
    trivial

section Turns

variable
    (begins : Tasks.turn server before action = some turn)
include begins

theorem turn_updatesRun
    {status : RunStatus}
    {currentStep : Option Nat}
    (issues :
      turn.statement =
        some (.updatePipelineRunStatus runId status currentStep)) :
    status = .failed ∨ (before.frames action.slot).baton runId ≠ none := by
  rcases turn_cases begins with ⟨slot, answer, rfl, resumed⟩ | ⟨_, starts⟩
  · simp only [Action.slot]
    generalize before.frames slot = frame at resumed
    cases resumed with
    | @advanced reported row run pipeline =>
      unfold advanceTurn at issues
      split at issues <;> cases issues <;> exact .inr (by simp [Frame.baton])
    | runLaunched =>
      cases issues
      exact .inr (by simp [Frame.baton])
    | refused =>
      cases issues
      exact .inl rfl
    | turnedDown | deployed | sent =>
      simp [recordTurn] at issues
    | _ =>
      cases issues
  · cases action with
    | resume =>
      cases starts
    | _ =>
      cases starts
      cases issues

theorem turn_advancing
    {status : TaskStatus}
    {row : TaskRow}
    {run : PipelineRun}
    {pipeline : Pipeline}
    (suspended :
      before.frames action.slot =
        .advancePipeline status row run (some pipeline)) :
    ∃ freshId, turn = advanceTurn status row run pipeline freshId := by
  rcases turn_cases begins with ⟨slot, answer, rfl, resumed⟩ | ⟨free, _⟩
  · simp only [Action.slot] at suspended
    rw [suspended] at resumed
    cases resumed with
    | advanced =>
      exact ⟨answer.freshId, rfl⟩
  · rw [suspended] at free
    cases free

theorem turn_refusing
    {currentStep : Nat}
    (suspended : before.frames action.slot = .refusing runId currentStep) :
    turn.statement =
      some (.updatePipelineRunStatus runId .failed (some currentStep)) := by
  rcases turn_cases begins with ⟨slot, answer, rfl, resumed⟩ | ⟨free, _⟩
  · simp only [Action.slot] at suspended
    rw [suspended] at resumed
    cases resumed with
    | refused =>
      rfl
  · rw [suspended] at free
    cases free

theorem turn_makes
    {task : TaskSpec}
    {currentStep : Nat}
    (suspended : before.frames action.slot = .creating task runId currentStep) :
    turn.statement = some (.createTask task) := by
  rcases turn_cases begins with ⟨slot, answer, rfl, resumed⟩ | ⟨free, _⟩
  · simp only [Action.slot] at suspended
    rw [suspended] at resumed
    cases resumed with
    | created =>
      rfl
  · rw [suspended] at free
    cases free

end Turns

variable {taskId : String}

theorem turn_refuses
    (follows : FollowsPolicies server before action)
    (begins : Tasks.turn server before action = some turn)
    (refuses : turn.refuses = some taskId) :
    turn.advances = none ∧
      (∀ task, turn.statement ≠ some (.createTask task)) ∧
      ∃ task refusal,
        task.id = taskId ∧
          (before.frames action.slot = .dispatching task refusal ∨
            ∃ sent, before.frames action.slot = .sending task sent refusal) ∧
          RefusalAllowed before task refusal ∧
          ∀ failing currentStep,
            refusal = some (failing, currentStep) →
            turn.next = .refusing failing currentStep := by
  rcases turn_cases begins with ⟨slot, answer, rfl, resumed⟩ | ⟨_, starts⟩
  · simp only [FollowsPolicies, Action.slot] at follows ⊢
    generalize before.frames slot = frame at follows resumed
    cases resumed with
    | @turnedDown task refusal error refused =>
      refine ⟨rfl, ?_, task, refusal, Option.some.inj refuses,
        .inl rfl, follows (by rw [refused]; rfl), ?_⟩
      · intro created issues
        simp [recordTurn] at issues
      · rintro failing currentStep rfl
        rfl
    | @sent task sent refusal =>
      cases sent with
      | true =>
        cases refuses
      | false =>
        refine ⟨rfl, ?_, task, refusal, Option.some.inj refuses,
          .inr ⟨false, rfl⟩, follows rfl, ?_⟩
        · intro created issues
          simp [recordTurn] at issues
        · rintro failing currentStep rfl
          rfl
    | deployed =>
      cases refuses
    | advanced =>
      unfold advanceTurn at refuses
      split at refuses <;> cases refuses
    | _ =>
      cases refuses
  · cases action with
    | resume =>
      cases starts
    | _ =>
      cases starts
      cases refuses

theorem failed_step
    (begins : Tasks.turn server before action = some turn)
    (took : Took server before action turn after)
    (closed : (before.relay runId).Closed entry)
    (failed : before.db.runStatus runId = some .failed) :
    after.db.runStatus runId = some .failed := by
  rcases took.executed with same | ⟨statement, issues, _, executed⟩
  · rw [same, failed]
  · rcases runStatus_execute executed runId with
      ⟨absent, _⟩ | ⟨status, currentStep, rfl, updated⟩ | same
    · rw [failed] at absent
      cases absent
    · rcases turn_updatesRun begins issues with rfl | holds
      · rw [updated, failed]
        rfl
      · exact (holds (closed.noBaton action.slot)).elim
    · rw [same, failed]

theorem stays_suspended
    (took : Took server before action turn after)
    {slot : Nat}
    {frame : Frame}
    (elsewhere : slot ≠ action.slot)
    (suspended : before.frames slot = frame)
    (busy : frame ≠ .idle) :
    after.frames slot = frame := by
  rw [took.frame_other elsewhere (by rw [suspended]; exact busy),
    suspended]

theorem runStatus_of_update
    (begins : Tasks.turn server before action = some turn)
    (took : Took server before action turn after)
    {status : RunStatus}
    {currentStep : Option Nat}
    (created : runId ∈ before.db.runIdentities.map RunIdentity.id)
    (issues :
      turn.statement =
        some (.updatePipelineRunStatus runId status currentStep)) :
    after.db.runStatus runId = some status ∧
      after.frames action.slot = turn.next := by
  rcases took.db with performed | ⟨fails, _⟩
  · have executed := performed
    simp only [Turn.perform, issues, TaskDB.execute,
      Option.some.injEq] at executed
    refine ⟨?_, took.frame_acting begins performed⟩
    have stored := runStatus_isSome created
    obtain ⟨earlier, found⟩ := Option.isSome_iff_exists.mp stored
    rw [← executed, runStatus_updatePipelineRunStatus, found]
    rfl
  · simp [Turn.perform, issues, TaskDB.execute] at fails

theorem PolicySound.report_waits
    (sound : PolicySound before)
    (begins : Tasks.turn server before action = some turn)
    (took : Took server before action turn after)
    (performed : turn.perform before.db action.now = some after.db)
    {report : String × TaskStatus}
    (advances : turn.advances = some report) :
    ReportCarried after report := by
  obtain ⟨slot, answer, status, row, run, rfl, suspended, _, rfl, shape⟩ :=
    turn_advances begins advances
  have knows := sound.coherent.frames slot
  rw [suspended] at knows
  have reached := took.frame_acting begins performed
  rw [shape] at reached
  have member : (row.id, row.stepIndex) ∈ before.db.runSteps run.id :=
    mem_runSteps.mpr ⟨row.identity, knows.1, knows.2.1, rfl⟩
  exact ⟨run.id, row.stepIndex, runSteps_mono took.extends_db member,
    .inl ⟨slot, row, run, _, reached, rfl, rfl⟩⟩

section Policies

variable
    (sound : PolicySound before)
    (follows : FollowsPolicies server before action)
    (begins : Tasks.turn server before action = some turn)
    (took : Took server before action turn after)
include sound follows begins took

theorem PolicySound.closed_step
    (closed : (before.relay runId).Closed entry)
    (ended :
      entry.1 ∈ before.advanced.map Prod.fst ∨ entry.1 ∈ before.refused) :
    (after.relay runId).Closed entry := by
  apply closed.step
    (relay_step sound.coherent sound.recorded follows.movesOnce begins
      took runId)
  intro item passed
  by_contra unpassed
  obtain ⟨isItem, slot, answer, status, row, run, rfl, suspended, live, rfl⟩ :=
    advances_of_passed sound.coherent sound.recorded begins took passed unpassed
  obtain ⟨other, otherMade, named⟩ := List.mem_map.mp isItem
  have isLast :=
    (sound.relays runId).lastUnpassed other otherMade
      (by rw [named]; exact unpassed)
  have same : entry = other :=
    Option.some.inj (closed.isLast.symm.trans isLast)
  simp only [FollowsPolicies, suspended] at follows
  rw [same, named] at ended
  rcases ended with reported | refused
  · exact (follows live).1 reported
  · exact (follows live).2 refused

/-- A report that waits is carried out when its coroutine is resumed. -/
theorem PolicySound.carriedOut_step
    {status : TaskStatus}
    {row : TaskRow}
    {run : PipelineRun}
    {pipeline : Option Pipeline}
    (suspended :
      before.frames action.slot = .advancePipeline status row run pipeline) :
    (status.failing = true →
      ∀ step ∈ definitionOf before.db run.id,
        step.stepIndex = row.stepIndex →
        ReportCovered (definitionOf before.db run.id) step) ∧
      CarriedOut after run.id (row.id, row.stepIndex)
        (advanceDecision status (definitionOf before.db run.id)
          row.stepIndex) := by
  obtain ⟨defined, rfl, definition⟩ := sound.coherent.definition suspended
  obtain ⟨freshId, rfl⟩ := turn_advancing begins suspended
  have member := sound.coherent.advancing suspended
  have created := sound.coherent.runCreated member
  rw [definition]
  constructor
  · cases action with
    | resume slot answer =>
      simp only [Action.slot] at suspended
      simp only [FollowsPolicies, suspended] at follows
      exact follows
    | _ =>
      rcases turn_cases begins with ⟨_, _, same, _⟩ | ⟨free, _⟩
      · cases same
      · rw [suspended] at free
        cases free
  · have holds :
        (before.relay run.id).batons action.slot = some (.deciding row.id) := by
      simp only [TaskSystem.relay, suspended, Frame.baton, if_pos]
    cases decided : advanceDecision status defined.steps row.stepIndex with
    | fail =>
      have shape :
          advanceTurn status row run defined freshId =
            .last (.updatePipelineRunStatus run.id .failed
              (some row.stepIndex)) := by
        rw [advanceTurn, decided]
      rw [shape] at begins took
      obtain ⟨failed, _⟩ := runStatus_of_update begins took created rfl
      refine ⟨?_, failed⟩
      have performed :
          (Turn.last (.updatePipelineRunStatus run.id .failed
            (some row.stepIndex))).perform before.db action.now =
              some after.db := by
        rcases took.db with performed | ⟨fails, _⟩
        · exact performed
        · cases fails
      have dropped :
          after.relay run.id =
            (before.relay run.id).withBaton action.slot none := by
        rw [took.relay_withBaton begins performed
          (runSteps_perform performed (by rintro task ⟨⟩))
          (by rintro report ⟨⟩) (by rintro taskId ⟨⟩)]
        rfl
      rw [dropped]
      have entryHolds :
          (before.relay run.id).batons action.slot =
            some (.deciding (row.id, row.stepIndex).1) :=
        holds
      exact (sound.relays run.id).closed_drop entryHolds member
    | complete =>
      trivial
    | launch step =>
      have shape : advanceTurn status row run defined freshId =
            { statement :=
                some <| .updatePipelineRunStatus run.id .running
                  (some (row.stepIndex + 1))
              next :=
                .creating
                  (TaskFactory.createPipelineStepTask run.agentId
                    run.session run.id step "pipeline" "server"
                    freshId).val
                  run.id (row.stepIndex + 1) } := by
        rw [advanceTurn, decided]
      rw [shape] at begins took
      obtain ⟨_, reached⟩ := runStatus_of_update begins took created rfl
      refine .inl ⟨action.slot, _, _, reached, ?_⟩
      rw [TaskFactory.createPipelineStepTask_stepIndex]
      exact (advanceDecision_launch decided).2

/-- What has been carried out stays carried out. -/
theorem PolicySound.carriedOut_mono
    (reported : entry.1 ∈ before.advanced.map Prod.fst)
    {decision : AdvanceDecision}
    (carriedOut : CarriedOut before runId entry decision) :
    CarriedOut after runId entry decision := by
  cases decision with
  | fail =>
    obtain ⟨closed, failed⟩ := carriedOut
    exact ⟨sound.closed_step follows begins took closed (.inl reported),
      failed_step begins took closed failed⟩
  | complete =>
    trivial
  | launch step =>
    rcases carriedOut with
      ⟨slot, task, currentStep, suspended, nextStep⟩ | ⟨taskId, created⟩
    · by_cases acts : slot = action.slot
      · subst slot
        have issues := turn_makes begins suspended
        have performed : turn.perform before.db action.now = some after.db := by
          rcases took.db with performed | ⟨fails, _⟩
          · exact performed
          · have fresh :
                task.id ∉ before.db.taskIdentities.map TaskIdentity.id := by
              rcases turn_cases begins with
                ⟨slot, answer, rfl, _⟩ | ⟨free, _⟩
              · simp only [Action.slot] at suspended
                simp only [FollowsPolicies, suspended] at follows
                exact follows
              · rw [suspended] at free
                cases free
            have inserts := createTask_isSome action.now fresh
            simp only [Turn.perform, issues, TaskDB.execute] at fails
            rw [fails] at inserts
            cases inserts
        have executed := performed
        simp only [Turn.perform, issues] at executed
        have knows := sound.coherent.frames action.slot
        rw [suspended] at knows
        refine .inr ⟨task.id, ?_⟩
        rw [← nextStep]
        refine mem_runSteps.mpr ⟨task.identity, ?_, knows.1, rfl⟩
        rw [taskIdentities_createTask executed]
        exact List.mem_append_right _ (List.mem_singleton.mpr rfl)
      · refine .inl ⟨slot, task, currentStep, ?_, nextStep⟩
        exact stays_suspended took acts suspended Frame.noConfusion
    · exact .inr ⟨taskId, runSteps_mono took.extends_db created⟩

theorem PolicySound.reports_step
    {report : String × TaskStatus}
    (reported : report ∈ before.advanced) :
    ReportCarried after report := by
  have grows := took.extends_db
  obtain ⟨ofRun, stepIndex, member, carried⟩ :=
    sound.reports report reported
  have created := sound.coherent.runCreated member
  refine ⟨ofRun, stepIndex, runSteps_mono grows member, ?_⟩
  rw [definitionOf_mono sound.coherent grows created]
  rcases carried with ⟨slot, row, run, pipeline, suspended, named, rfl⟩ |
    ⟨covered, carriedOut⟩
  · by_cases acts : slot = action.slot
    · subst slot
      have own := sound.coherent.advancing suspended
      rw [named] at own
      obtain ⟨_, rfl⟩ := runSteps_unique member own
      have carriedOut :=
        sound.carriedOut_step follows begins took suspended
      rw [named] at carriedOut
      exact .inr carriedOut
    · exact .inl ⟨slot, row, run, pipeline,
        stays_suspended took acts suspended Frame.noConfusion, named, rfl⟩
  · have ended : report.1 ∈ before.advanced.map Prod.fst :=
      List.mem_map_of_mem reported
    exact .inr ⟨covered,
      sound.carriedOut_mono follows begins took ended carriedOut⟩

theorem PolicySound.refusals_step
    (refused : taskId ∈ before.refused) :
    RefusalCarried after taskId := by
  have grows := took.extends_db
  have carried := sound.refusals taskId refused
  have earlier :
      ∀ {runId stepIndex},
        (taskId, stepIndex) ∈ after.db.runSteps runId →
        (taskId, stepIndex) ∈ before.db.runSteps runId := by
    intro runId stepIndex member
    obtain ⟨stored, storedMember, named⟩ := List.mem_map.mp carried.stored
    obtain ⟨task, taskMember, belongs, shape⟩ := mem_runSteps.mp member
    have same : stored = task :=
      taskIdentity_unique (grows.tasks.subset storedMember) taskMember
        (named.trans (congrArg Prod.fst shape).symm)
    subst stored
    exact mem_runSteps.mpr ⟨task, storedMember, belongs, shape⟩
  refine ⟨?_, ?_, ?_, ?_⟩
  · exact (grows.tasks.map TaskIdentity.id).subset carried.stored
  · intro runId stepIndex member
    exact sound.closed_step follows begins took
      (carried.closed runId stepIndex (earlier member)) (.inr refused)
  · intro runId stepIndex member
    have created := sound.coherent.runCreated (earlier member)
    rw [definitionOf_mono sound.coherent grows created]
    exact carried.covered runId stepIndex (earlier member)
  · intro runId stepIndex member
    have created := sound.coherent.runCreated (earlier member)
    rcases carried.failing runId stepIndex (earlier member) with
      ⟨slot, currentStep, suspended⟩ | failed
    · by_cases acts : slot = action.slot
      · subst slot
        have issues := turn_refusing begins suspended
        exact .inr (runStatus_of_update begins took created issues).1
      · exact .inl ⟨slot, currentStep,
          stays_suspended took acts suspended Frame.noConfusion⟩
    · exact .inr (failed_step begins took
        (carried.closed runId stepIndex (earlier member)) failed)

/-- A task that is refused closes its run, which is to fail next. -/
theorem PolicySound.refusal_carried
    (performed : turn.perform before.db action.now = some after.db)
    (refuses : turn.refuses = some taskId) :
    RefusalCarried after taskId := by
  obtain ⟨silent, createsNone, task, refusal, rfl, suspended, allowed,
    fails⟩ := turn_refuses follows begins refuses
  have grows := took.extends_db
  have stored : StoredFor before.db task.identity refusal := by
    have knows := sound.coherent.frames action.slot
    rcases suspended with waits | ⟨_, sends⟩
    · rw [waits] at knows
      exact knows
    · rw [sends] at knows
      exact knows
  have ofRun :
      ∀ {runId stepIndex},
        (task.id, stepIndex) ∈ after.db.runSteps runId →
        stepIndex = task.stepIndex ∧
          (task.id, task.stepIndex) ∈ before.db.runSteps runId ∧
          ∃ currentStep, refusal = some (runId, currentStep) := by
    intro runId stepIndex member
    rw [runSteps_perform performed createsNone] at member
    obtain ⟨other, otherStored, belongs, shape⟩ := mem_runSteps.mp member
    have same : other = task.identity :=
      taskIdentity_unique otherStored stored.1 (congrArg Prod.fst shape)
    subst other
    have sameIndex : task.stepIndex = stepIndex :=
      congrArg Prod.snd shape
    subst stepIndex
    refine ⟨rfl, member, ?_⟩
    have failing := stored.2.symm.trans belongs
    rw [Option.map_eq_some_iff] at failing
    obtain ⟨⟨failingRun, currentStep⟩, isRefusal, rfl⟩ := failing
    exact ⟨currentStep, isRefusal⟩
  refine ⟨?_, ?_, ?_, ?_⟩
  · exact (grows.tasks.map TaskIdentity.id).subset
      (List.mem_map.mpr ⟨task.identity, stored.1, rfl⟩)
  · intro runId stepIndex member
    obtain ⟨rfl, made, currentStep, rfl⟩ := ofRun member
    have unpassed : task.id ∉ (before.relay runId).passed := by
      intro passed
      exact (allowed (runId, currentStep) rfl).1 (List.mem_filter.mp passed).1
    have closed := (sound.relays runId).closed made unpassed
    apply closed.step
      (relay_step sound.coherent sound.recorded follows.movesOnce begins
        took runId)
    intro item passed
    by_contra itemUnpassed
    obtain ⟨_, slot, answer, status, row, run, rfl, reports, _⟩ :=
      advances_of_passed sound.coherent sound.recorded begins took passed
        itemUnpassed
    rcases suspended with waits | ⟨_, sends⟩
    · cases waits.symm.trans reports
    · cases sends.symm.trans reports
  · intro runId stepIndex member
    obtain ⟨rfl, made, currentStep, rfl⟩ := ofRun member
    have created := sound.coherent.runCreated made
    rw [definitionOf_mono sound.coherent grows created]
    exact (allowed (runId, currentStep) rfl).2
  · intro runId stepIndex member
    obtain ⟨rfl, made, currentStep, rfl⟩ := ofRun member
    refine .inl ⟨action.slot, currentStep, ?_⟩
    rw [took.frame_acting begins performed, fails runId currentStep rfl]

end Policies

theorem PolicySound.step
    (sound : PolicySound before)
    (follows : FollowsPolicies server before action)
    (taken : step? server before action = some after) :
    PolicySound after := by
  have pipelineSound := sound.toPipelineSound.step follows.movesOnce taken
  obtain ⟨turn, begins, took⟩ := step_cases taken
  refine ⟨pipelineSound, ?_, ?_⟩
  · intro report member
    rcases took.histories with ⟨grown, _, _, performed⟩ | ⟨same, _⟩
    · rw [grown, List.mem_append, Option.mem_toList] at member
      rcases member with earlier | advances
      · exact sound.reports_step follows begins took earlier
      · exact sound.report_waits begins took performed advances
    · rw [same] at member
      exact sound.reports_step follows begins took member
  · intro taskId member
    rcases took.histories with ⟨_, _, grown, performed⟩ | ⟨_, _, same, _⟩
    · rw [grown, List.mem_append, Option.mem_toList] at member
      rcases member with earlier | refuses
      · exact sound.refusals_step follows begins took earlier
      · exact sound.refusal_carried follows begins took performed refuses
    · rw [same] at member
      exact sound.refusals_step follows begins took member

end Step

theorem policySound_started (files : Files) :
    PolicySound (.started .empty files) where
  toPipelineSound := pipelineSound_started files
  reports := by
    intro report member
    cases member
  refusals := by
    intro taskId member
    cases member

/-- In a run that follows the policies, they are honoured. -/
theorem policiesHonoured_of_followsPolicies (server : Server) :
    PoliciesHonoured
      (Guarded (Fires (step? server)) (FollowsPolicies server)) := by
  intro files final actions run runId entry member ended step defined atEntry
  have sound : PolicySound final := by
    apply run.preserves ?_ (policySound_started files)
    rintro before action after ⟨taken, follows⟩ sound
    exact sound.step follows taken
  rcases ended with ⟨status, reported, failing⟩ | refused
  · exact sound.honours_report member reported failing defined atEntry
  · exact sound.honours_refusal member refused defined atEntry

/-- A step fails and the run continues; the next one fails and stops it. -/
theorem failingSteps_honourPolicies :
    ∃ final,
      Run (Guarded (Fires (step? exampleServer))
          (FollowsPolicies exampleServer))
        (.started .empty fun _ => none)
        (launchRun (exampleStep 0 .continue 0)
            [exampleStep 1 .stop 0, exampleStep 2 .stop 0] ++
          reportTask "t" "failed" ++ launchNext "u" ++
          reportTask "u" "timeout" ++ [.resume 0 {}]) final ∧
        final.db.runStatus "r" = some .failed ∧
        dispatchedSteps final "r" = [0, 1] ∧
        ∀ taskId stepIndex,
          (taskId, stepIndex) ∈ [("t", 0), ("u", 1)] →
          ∀ step ∈ definitionOf final.db "r",
            step.stepIndex = stepIndex →
            HonoursPolicy final "r" taskId step := by
  obtain ⟨final, checkedRun, reached⟩ :=
    exists_run_of_execute
      (show (execute (checked (step? exampleServer)
            (FollowsPolicies exampleServer))
          (.started .empty fun _ => none)
          (launchRun (exampleStep 0 .continue 0)
              [exampleStep 1 .stop 0, exampleStep 2 .stop 0] ++
            reportTask "t" "failed" ++ launchNext "u" ++
            reportTask "u" "timeout" ++ [.resume 0 {}])).any
          (fun sys : TaskSystem =>
            decide (sys.db.runStatus "r" = some .failed) &&
              decide (dispatchedSteps sys "r" = [0, 1]) &&
              decide (sys.db.runSteps "r" = [("t", 0), ("u", 1)]) &&
              decide (sys.advanced =
                [("t", .failed), ("u", .timeout)])) = true by
        decide)
  simp only [Bool.and_eq_true, decide_eq_true_eq] at reached
  obtain ⟨⟨⟨failed, dispatched⟩, tasks⟩, reports⟩ := reached
  have run := checkedRun.guarded_of_checked
  refine ⟨final, run, failed, dispatched, ?_⟩
  intro taskId stepIndex member step defined atStep
  refine policiesHonoured_of_followsPolicies exampleServer run "r"
    (taskId, stepIndex) (tasks ▸ member) (.inl ?_) step defined atStep
  rw [reports]
  simp only [List.mem_cons, List.not_mem_nil, or_false, Prod.mk.injEq] at member
  rcases member with ⟨rfl, rfl⟩ | ⟨rfl, rfl⟩
  · exact ⟨.failed, by decide, rfl⟩
  · exact ⟨.timeout, by decide, rfl⟩

/-! ### A retry that is not made -/

/-- An action in slot 0 that starts nothing in the background elsewhere. -/
def InSlotZero (_ : TaskSystem) (action : Action) : Prop :=
  action.slot = 0 ∧ action.background = 0

instance (sys : TaskSystem) (action : Action) :
    Decidable (InSlotZero sys action) := by
  unfold InSlotZero
  infer_instance

theorem idle_elsewhere
    {server : Server}
    {files : Files}
    {final : TaskSystem}
    {actions : List Action}
    (run :
      Run (Guarded (Fires (step? server)) InSlotZero)
        (.started .empty files) actions final)
    {slot : Nat}
    (other : slot ≠ 0) :
    final.frames slot = .idle := by
  let keeps : TaskSystem → Prop := fun sys => sys.frames slot = .idle
  have start : keeps (.started .empty files) := rfl
  have kept : keeps final := by
    refine run.preserves ?_ start
    rintro before action after ⟨taken, zero, background⟩ idle
    obtain ⟨turn, begins, took⟩ := step_cases taken
    rcases took.frame slot with
      ⟨_, kept⟩ | ⟨same, _⟩ | ⟨same, _⟩ | ⟨_, same, _⟩
    · exact kept.trans idle
    · exact (other (same.trans zero)).elim
    · exact (other (same.trans zero)).elim
    · exact (other (same.trans background)).elim
  exact kept

/--
Without the condition policies are not honoured: a step that is to be tried
again fails, and its run is completed.
-/
theorem not_policiesHonoured :
    ¬ PoliciesHonoured (Fires (step? exampleServer)) := by
  intro claimed
  obtain ⟨final, checkedRun, reached⟩ :=
    exists_run_of_execute
      (show (execute (checked (step? exampleServer) InSlotZero)
          (.started .empty fun _ => none)
          (launchRun (exampleStep 0 .retry 1) [] ++
            reportTask "t" "failed" ++ [.resume 0 {}])).any
          (fun sys : TaskSystem =>
            decide (("t", 0) ∈ sys.db.runSteps "r") &&
              decide (("t", .failed) ∈ sys.advanced) &&
              decide (∃ step ∈ definitionOf sys.db "r",
                step.stepIndex = 0 ∧ step.onFail = .retry ∧
                  step.retryCount = 1) &&
              decide (dispatchesAt sys "r" 0 = ["t"]) &&
              (sys.frames 0).isIdle) = true by
        decide)
  simp only [Bool.and_eq_true, decide_eq_true_eq] at reached
  obtain ⟨⟨⟨⟨member, reported⟩, defined⟩, dispatches⟩, idle⟩ := reached
  obtain ⟨step, stepMember, atZero, retries, once⟩ := defined
  have run := checkedRun.guarded_of_checked
  have settled : Settled final "r" := by
    intro slot
    by_cases zero : slot = 0
    · subst slot
      rw [Frame.eq_idle_of_isIdle idle]
      rfl
    · rw [idle_elsewhere run zero]
      rfl
  have honoured :=
    claimed run.unguarded "r" ("t", 0) member (.inl ⟨.failed, reported, rfl⟩)
      step stepMember atZero
  simp only [HonoursPolicy, retries] at honoured
  have again := honoured settled 0
  rw [atZero, dispatches, once] at again
  have twice := again rfl
  rw [if_pos Nat.zero_lt_one] at twice
  exact absurd twice (by decide)

end RpaPlatform.Tasks
