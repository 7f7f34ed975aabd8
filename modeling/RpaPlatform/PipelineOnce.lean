import RpaPlatform.PipelineRelay

namespace RpaPlatform.Tasks

open TaskDB Transition

/-!
# Steps that run once

A pipeline step is run again when its run is moved on twice by one task.
Nothing in `advance_pipeline` rules that out: the run is still live when the
report is repeated.  Without such repetitions the tasks of a run are the items
of a valid relay, so there is one task at each step and one dispatch of it.
-/

/-- The steps of the pipeline of a run have no retry policy. -/
def WithoutRetry (db : TaskDB) (runId : String) : Prop :=
  ∀ run ∈ db.getPipelineRun runId,
    ∀ pipeline ∈ db.getPipeline run.pipelineId,
      ∀ step ∈ pipeline.steps, step.onFail ≠ .retry

instance (db : TaskDB) (runId : String) :
    Decidable (WithoutRetry db runId) := by
  unfold WithoutRetry
  infer_instance

/-- The tasks that were created for a step of a run. -/
def tasksAt
    (db : TaskDB)
    (runId : String)
    (stepIndex : Nat) : List String :=
  ((db.runSteps runId).filter fun entry =>
    decide (entry.2 = stepIndex)).map Prod.fst

/-- The dispatches of tasks of a step of a run. -/
def dispatchesAt
    (sys : TaskSystem)
    (runId : String)
    (stepIndex : Nat) : List String :=
  sys.dispatched.filter fun taskId =>
    decide (taskId ∈ tasksAt sys.db runId stepIndex)

/--
In every run of the subsystem, one task at most is created and dispatched for
each step of a pipeline run whose steps have no retry policy.
-/
def EachStepRunsOnce
    (step : TaskSystem → Action → TaskSystem → Prop) : Prop :=
  ∀ {files : Files} {final : TaskSystem} {actions : List Action},
    Run step (.started .empty files) actions final →
    ∀ runId,
      WithoutRetry final.db runId →
      ∀ stepIndex,
        (tasksAt final.db runId stepIndex).length ≤ 1 ∧
          (dispatchesAt final runId stepIndex).length ≤ 1

theorem length_le_one_of_nodup
    {Item : Type*}
    {items : List Item}
    (distinct : items.Nodup)
    (same : ∀ first ∈ items, ∀ second ∈ items, first = second) :
    items.length ≤ 1 := by
  match items with
  | [] =>
    exact Nat.zero_le 1
  | [_] =>
    exact Nat.le_refl 1
  | first :: second :: rest =>
    have equal : first = second :=
      same first List.mem_cons_self second
        (List.mem_cons_of_mem first List.mem_cons_self)
    have absent : first ∉ second :: rest :=
      (List.nodup_cons.mp distinct).1
    exact (absent (equal ▸ List.mem_cons_self)).elim

theorem PipelineSound.tasksAt_unique
    {sys : TaskSystem}
    (sound : PipelineSound sys)
    {runId first second : String}
    {stepIndex : Nat}
    (firstMember : first ∈ tasksAt sys.db runId stepIndex)
    (secondMember : second ∈ tasksAt sys.db runId stepIndex) :
    first = second := by
  obtain ⟨firstEntry, firstFound, rfl⟩ := List.mem_map.mp firstMember
  obtain ⟨secondEntry, secondFound, rfl⟩ := List.mem_map.mp secondMember
  rw [List.mem_filter, decide_eq_true_eq] at firstFound secondFound
  have samePosition : firstEntry.2 = secondEntry.2 :=
    firstFound.2.trans secondFound.2.symm
  have same : firstEntry = secondEntry :=
    (sound.relays runId).unique firstFound.1 secondFound.1 samePosition
  rw [same]

theorem PipelineSound.tasksAt_nodup
    {sys : TaskSystem}
    (sound : PipelineSound sys)
    (runId : String)
    (stepIndex : Nat) :
    (tasksAt sys.db runId stepIndex).Nodup := by
  have distinct : ((sys.db.runSteps runId).map Prod.fst).Nodup :=
    (sound.relays runId).distinct
  exact distinct.sublist (List.filter_sublist.map Prod.fst)

/-- While no run is moved on twice by one task, each step runs once. -/
theorem eachStep_runsOnce_of_movesOnce (server : Server) :
    EachStepRunsOnce (Guarded (Fires (step? server)) MovesOnce) := by
  intro files final actions run runId _ stepIndex
  have sound : PipelineSound final := by
    apply run.preserves ?_ (pipelineSound_started files)
    rintro before action after ⟨taken, once⟩ sound
    exact sound.step once taken
  constructor
  · apply length_le_one_of_nodup (sound.tasksAt_nodup runId stepIndex)
    intro first firstMember second secondMember
    exact sound.tasksAt_unique firstMember secondMember
  · have distinct : (dispatchesAt final runId stepIndex).Nodup :=
      sound.recorded.once.filter _
    apply length_le_one_of_nodup distinct
    intro first firstMember second secondMember
    rw [dispatchesAt, List.mem_filter,
      decide_eq_true_eq] at firstMember secondMember
    exact sound.tasksAt_unique firstMember.2 secondMember.2

/-! ### Runs of a small pipeline -/

theorem timeoutPositive_default : 1 ≤ 300 := by
  decide

/-- A step of an example pipeline. -/
def exampleStep
    (stepIndex : Nat)
    (onFail : OnFail)
    (retryCount : Nat) : PipelineStepRequest where
  stepIndex := stepIndex
  script := "run"
  onFail := onFail
  retryCount := retryCount
  scriptNonempty := exampleTaskRequest.scriptNonempty
  timeoutPositive := timeoutPositive_default

/--
Agent `a` runs the pipeline `p` as run `r`, up to where its first task `t` has
been sent.
-/
def launchRun (first : PipelineStepRequest)
    (rest : List PipelineStepRequest) : List Action :=
  [.createPipeline 0 "p"
      { steps := first :: rest,
        stepsNonempty := List.cons_ne_nil first rest } 0,
    .runPipeline 0 "p"
      { agentId := "a"
        agentIdNonempty := exampleTaskRequest.agentIdNonempty } "",
    .resume 0 { freshId := "r" },
    .resume 0 { freshId := "t" },
    .resume 0 {},
    .resume 0 {},
    .resume 0 {}]

/-- A report that is handled up to where a run is found live. -/
def reportTask (taskId status : String) : List Action :=
  [.taskStatus 0 (some "a") { taskId, status } 1,
    .resume 0 {},
    .resume 0 {},
    .resume 0 {}]

def launchNext (taskId : String) : List Action :=
  [.resume 0 { freshId := taskId }, .resume 0 {}, .resume 0 {}, .resume 0 {}]

/-- The run of a pipeline of two steps without repeated reports. -/
theorem twoSteps_runOnce :
    ∃ final,
      Run (Guarded (Fires (step? exampleServer)) MovesOnce)
        (.started .empty fun _ => none)
        (launchRun (exampleStep 0 .stop 0) [exampleStep 1 .stop 0] ++
          reportTask "t" "completed" ++ launchNext "u") final ∧
        tasksAt final.db "r" 1 = ["u"] ∧
        (dispatchesAt final "r" 1).length ≤ 1 := by
  obtain ⟨final, checkedRun, reached⟩ :=
    exists_run_of_execute
      (show (execute (checked (step? exampleServer) MovesOnce)
          (.started .empty fun _ => none)
          (launchRun (exampleStep 0 .stop 0) [exampleStep 1 .stop 0] ++
            reportTask "t" "completed" ++ launchNext "u")).any
          (fun sys =>
            decide (WithoutRetry sys.db "r") &&
              decide (tasksAt sys.db "r" 1 = ["u"])) = true by
        decide)
  rw [Bool.and_eq_true, decide_eq_true_eq, decide_eq_true_eq] at reached
  have run := checkedRun.guarded_of_checked
  exact ⟨final, run, reached.2,
    (eachStep_runsOnce_of_movesOnce exampleServer run "r" reached.1 1).2⟩

/--
Without the condition a step runs twice: the first task's report is repeated,
and each time the task of the second step is created and sent.
-/
theorem not_eachStep_runsOnce :
    ¬ EachStepRunsOnce (Fires (step? exampleServer)) := by
  intro claimed
  obtain ⟨final, run, reached⟩ :=
    exists_run_of_execute
      (show (execute (step? exampleServer)
          (.started .empty fun _ => none)
          (launchRun (exampleStep 0 .stop 0) [exampleStep 1 .stop 0] ++
            reportTask "t" "completed" ++ launchNext "u" ++
            reportTask "t" "completed" ++ launchNext "v")).any
          (fun sys =>
            decide (WithoutRetry sys.db "r") &&
              decide (tasksAt sys.db "r" 1 = ["u", "v"])) = true by
        decide)
  rw [Bool.and_eq_true, decide_eq_true_eq, decide_eq_true_eq] at reached
  have single := (claimed run "r" reached.1 1).1
  rw [reached.2] at single
  exact absurd single (by decide)

end RpaPlatform.Tasks
