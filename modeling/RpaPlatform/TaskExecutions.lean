import RpaPlatform.Dictionary
import RpaPlatform.TaskService

namespace RpaPlatform.Tasks

open Transition

/-!
# Executions on the agent and the statuses they report

An execution is in the table of running tasks from its `running` status until
its coroutine ends.  The coroutine reports how it ended: by the exit of the
process, unless the task was cancelled, by the timeout, or by an exception.
`cancel` reports for whatever execution is in the table, and a task whose
session is not there is reported as failed without a look at the table.
-/

/-- Where the coroutine of an execution is. -/
inductive ExecutionStage where
  /-- In `wait_for`. -/
  | waiting
  /-- After the timeout, until the tail loops have ended. -/
  | timedOut
  /-- After the exit, in the second `gather`. -/
  | exited
  /-- Out of the table. -/
  | left
deriving DecidableEq

structure TaskExecution where
  taskId : String
  pid : Int
  stage : ExecutionStage := .waiting
  cancelled : Bool := false
  /-- The statuses sent for its task while it is in the table. -/
  reported : List TaskStatusData

namespace TaskExecution

variable (execution : TaskExecution)

def report (data : TaskStatusData) : TaskExecution :=
  { execution with reported := execution.reported ++ [data] }

def terminals : Nat :=
  execution.reported.countP fun data =>
    (TaskStatus.ofText data.status).terminal

/-- The status of the timeout. -/
def timeoutStatus : TaskStatusData where
  taskId := execution.taskId
  status := "timeout"
  pid := some execution.pid

/-- The status of an exit. -/
def exitStatus (exitCode : Int) : TaskStatusData where
  taskId := execution.taskId
  status := if exitCode = 0 then "completed" else "failed"
  pid := some execution.pid
  exitCode := some exitCode

/-- The status of an exception. -/
def errorStatus (error : String) : TaskStatusData where
  taskId := execution.taskId
  status := "failed"
  error := some error

/-- What `cancel` does to an execution. -/
def cancel : TaskExecution :=
  { execution with
    cancelled := true
    reported :=
      execution.reported ++
        [{ taskId := execution.taskId
           status := "cancelled"
           pid := some execution.pid }] }

/-- The end of the coroutine. -/
def leave (reports : List TaskStatusData) : TaskExecution :=
  { execution with
    stage := .left
    reported := execution.reported ++ reports }

end TaskExecution

/-- How an `execute_task` command begins. -/
inductive Launch where
  /-- The script cannot be written; the coroutine raises. -/
  | unwritten
  /-- `_start_managed_task` raises. -/
  | fails (error : String)
  | starts (pid : Int)

/-- `TaskExecutor`, with the executions that it has started. -/
structure TaskExecutor where
  executions : List TaskExecution := []
  /-- `_running`: the executions in the table, by their tasks. -/
  running : List (String × Nat) := []

/-- What happens. -/
inductive ExecutorAction where
  /-- `_execute_task` finds no session for the task. -/
  | refuse (taskId error : String)
  | execute (taskId : String) (launch : Launch)
  | cancel (taskId : String)
  | timeout (index : Nat)
  | exit (index : Nat)
  /-- `_run_with_timeout` ends; `GetExitCodeProcess` can raise. -/
  | finish (index : Nat) (exitCode : Except String Int)
  /-- Any other exception in `_run_with_timeout`. -/
  | raise (index : Nat) (error : String)

namespace TaskExecutor

variable (sys : TaskExecutor)

/-- Change an execution. -/
def modify
    (index : Nat)
    (change : TaskExecution → TaskExecution) : TaskExecutor :=
  { sys with executions := sys.executions.modify index change }

/-- The end of an execution. -/
def leave
    (index : Nat)
    (execution : TaskExecution)
    (reports : List TaskStatusData) : TaskExecutor where
  executions := sys.executions.modify index (·.leave reports)
  running := Dictionary.erase execution.taskId sys.running

/-- The first turn of `execute`; a launch that fails is reported as failed,
of a task that is not in the table. -/
def execute (taskId : String) (launch : Launch) : TaskExecutor :=
  if (sys.running.lookup taskId).isSome then
    sys
  else
    match launch with
    | .unwritten => sys
    | .fails _ => sys
    | .starts pid =>
      { executions :=
          sys.executions ++
            [{ taskId
               pid
               reported :=
                [{ taskId, status := "running", pid := some pid }] }]
        running :=
          Dictionary.set taskId sys.executions.length sys.running }

/-- One step. -/
def step? (sys : TaskExecutor) : ExecutorAction → Option TaskExecutor
  | .refuse taskId error =>
    match sys.running.lookup taskId with
    | none => some sys
    | some index =>
      some
        (sys.modify index fun execution =>
          execution.report (execution.errorStatus error))
  | .execute taskId launch => some (sys.execute taskId launch)
  | .cancel taskId =>
    match sys.running.lookup taskId with
    | none => some sys
    | some index => some (sys.modify index TaskExecution.cancel)
  | .timeout index =>
    match sys.executions[index]? with
    | none => none
    | some execution =>
      if execution.stage = .waiting then
        some
          (sys.modify index fun execution =>
            { execution with stage := .timedOut })
      else
        none
  | .exit index =>
    match sys.executions[index]? with
    | none => none
    | some execution =>
      if execution.stage = .waiting then
        some
          (sys.modify index fun execution =>
            { execution with stage := .exited })
      else
        none
  | .finish index exitCode =>
    match sys.executions[index]? with
    | none => none
    | some execution =>
      match execution.stage with
      | .timedOut =>
        some (sys.leave index execution [execution.timeoutStatus])
      | .exited =>
        if execution.cancelled then
          some (sys.leave index execution [])
        else
          match exitCode with
          | .ok code =>
            some (sys.leave index execution [execution.exitStatus code])
          | .error error =>
            some (sys.leave index execution [execution.errorStatus error])
      | _ => none
  | .raise index error =>
    match sys.executions[index]? with
    | none => none
    | some execution =>
      if execution.stage = .left then
        none
      else
        some (sys.leave index execution [execution.errorStatus error])

end TaskExecutor

def TaskExecution.Running (execution : TaskExecution) : Prop :=
  execution.stage ≠ .left

instance (execution : TaskExecution) : Decidable execution.Running :=
  inferInstanceAs (Decidable (_ ≠ _))

/-- No task is in the table twice. -/
def TaskExecutor.RunsOnce (sys : TaskExecutor) : Prop :=
  ∀ {index other : Nat} {execution second : TaskExecution},
    sys.executions[index]? = some execution →
    sys.executions[other]? = some second →
    execution.Running →
    second.Running →
    execution.taskId = second.taskId →
    index = other

def TaskExecutor.ReportsOnce (sys : TaskExecutor) : Prop :=
  ∀ execution ∈ sys.executions, ¬ execution.Running → execution.terminals = 1

/--
A cancelled task is not cancelled again, does not report a timeout or an
exception, and a task in the table is not refused.
-/
def TaskExecutor.ReportsFirst (sys : TaskExecutor) : ExecutorAction → Prop
  | .refuse taskId _ => sys.running.lookup taskId = none
  | .cancel taskId =>
    ∀ index ∈ sys.running.lookup taskId,
      ∀ execution ∈ sys.executions[index]?, execution.cancelled = false
  | .finish index _ =>
    ∀ execution ∈ sys.executions[index]?,
      execution.stage = .timedOut → execution.cancelled = false
  | .raise index _ =>
    ∀ execution ∈ sys.executions[index]?, execution.cancelled = false
  | _ => True

/-! ### The table -/

/-- The table holds the executions that have not left it. -/
structure Tabled (sys : TaskExecutor) : Prop where
  listed :
    ∀ {taskId index},
      sys.running.lookup taskId = some index →
      ∃ execution,
        sys.executions[index]? = some execution ∧
          execution.taskId = taskId ∧ execution.Running
  held :
    ∀ {index execution},
      sys.executions[index]? = some execution →
      execution.Running →
      sys.running.lookup execution.taskId = some index

/-- What an execution has reported when it is cancelled or has left. -/
def TaskExecution.Settled (execution : TaskExecution) : Prop :=
  execution.terminals =
    if execution.Running ∧ execution.cancelled = false then 0 else 1

/-- What a step does to the executor. -/
inductive ExecutorEffect (sys : TaskExecutor) (action : ExecutorAction) :
    TaskExecutor → Prop where
  | nothing : ExecutorEffect sys action sys
  | start
      {taskId : String}
      {added : TaskExecution}
      (absent : sys.running.lookup taskId = none)
      (isAdded : added.taskId = taskId ∧ added.Running)
      (settles : added.Settled) :
      ExecutorEffect sys action
        { executions := sys.executions ++ [added]
          running :=
            Dictionary.set taskId sys.executions.length sys.running }
  /-- A change of an execution in the table, which stays there. -/
  | change
      {index : Nat}
      {execution : TaskExecution}
      {change : TaskExecution → TaskExecution}
      (found : sys.executions[index]? = some execution)
      (isRunning : execution.Running)
      (stays :
        (change execution).taskId = execution.taskId ∧
          (change execution).Running)
      (settles :
        sys.ReportsFirst action → execution.Settled →
          (change execution).Settled) :
      ExecutorEffect sys action (sys.modify index change)
  /-- The end of an execution in the table. -/
  | leave
      {index : Nat}
      {execution : TaskExecution}
      {reports : List TaskStatusData}
      (found : sys.executions[index]? = some execution)
      (isRunning : execution.Running)
      (settles :
        sys.ReportsFirst action → execution.Settled →
          (execution.leave reports).Settled) :
      ExecutorEffect sys action (sys.leave index execution reports)

section Steps

variable
    {sys before after : TaskExecutor}
    {execution : TaskExecution}
    {action : ExecutorAction}

theorem settled_of_report
    {changed : TaskExecution}
    {data : TaskStatusData}
    (isRunning : execution.Running)
    (notCancelled : execution.cancelled = false)
    (isReported : changed.reported = execution.reported ++ [data])
    (isTerminal : (TaskStatus.ofText data.status).terminal = true)
    (ends : changed.Running → changed.cancelled = true)
    (settled : execution.Settled) :
    changed.Settled := by
  unfold TaskExecution.Settled at settled ⊢
  have notOpen : ¬ (changed.Running ∧ changed.cancelled = false) := by
    rintro ⟨stillRunning, isOpen⟩
    rw [ends stillRunning] at isOpen
    cases isOpen
  rw [if_pos ⟨isRunning, notCancelled⟩] at settled
  rw [if_neg notOpen]
  unfold TaskExecution.terminals at settled ⊢
  rw [isReported, List.countP_append, settled, List.countP_singleton,
    if_pos isTerminal]

theorem settled_leave
    (isCancelled : execution.cancelled = true)
    (settled : execution.Settled) :
    (execution.leave []).Settled := by
  unfold TaskExecution.Settled at settled ⊢
  rw [if_neg (by simp [isCancelled])] at settled
  rw [if_neg fun running => running.1 rfl]
  unfold TaskExecution.terminals TaskExecution.leave at *
  rwa [List.append_nil]

theorem settled_stage
    {stage : ExecutionStage}
    (isRunning : execution.Running)
    (stays : stage ≠ .left)
    (settled : execution.Settled) :
    TaskExecution.Settled { execution with stage } := by
  have sameRunning :
      TaskExecution.Running { execution with stage } ↔ execution.Running :=
    iff_of_true stays isRunning
  exact settled.trans (if_congr (and_congr_left' sameRunning.symm) rfl rfl)

theorem terminal_exitStatus (execution : TaskExecution) (exitCode : Int) :
    (TaskStatus.ofText (execution.exitStatus exitCode).status).terminal =
      true := by
  unfold TaskExecution.exitStatus
  dsimp only
  split
  · decide
  · decide

/-- Every step has one of the effects. -/
theorem executorEffect_of_step
    (tabled : Tabled before)
    (stepped : Fires TaskExecutor.step? before action after) :
    ExecutorEffect before action after := by
  unfold Fires TaskExecutor.step? at stepped
  cases action with
  | refuse taskId error =>
    dsimp only at stepped
    split at stepped
    · cases stepped
      exact .nothing
    · rename_i index listed
      cases stepped
      obtain ⟨execution, found, _, isRunning⟩ := tabled.listed listed
      refine .change found isRunning ⟨rfl, isRunning⟩ ?_
      intro absent
      rw [show before.running.lookup taskId = none from absent] at listed
      cases listed
  | execute taskId launch =>
    dsimp only at stepped
    cases stepped
    unfold TaskExecutor.execute
    split
    · exact .nothing
    · rename_i absent
      rw [Option.not_isSome_iff_eq_none] at absent
      cases launch with
      | unwritten =>
        exact .nothing
      | fails error =>
        exact .nothing
      | starts pid =>
        exact .start absent ⟨rfl, nofun⟩ rfl
  | cancel taskId =>
    dsimp only at stepped
    split at stepped
    · cases stepped
      exact .nothing
    · rename_i index listed
      cases stepped
      obtain ⟨execution, found, _, isRunning⟩ := tabled.listed listed
      refine .change found isRunning ⟨rfl, isRunning⟩ ?_
      intro first
      exact
        settled_of_report isRunning (first index listed execution found)
          rfl rfl fun _ => rfl
  | timeout index | exit index =>
    dsimp only at stepped
    split at stepped
    · cases stepped
    · rename_i execution found
      split at stepped
      · rename_i isWaiting
        cases stepped
        have isRunning : execution.Running := by
          unfold TaskExecution.Running
          rw [isWaiting]
          decide
        exact
          .change found isRunning ⟨rfl, nofun⟩ fun _ =>
            settled_stage isRunning nofun
      · cases stepped
  | finish index exitCode =>
    dsimp only at stepped
    split at stepped
    · cases stepped
    · rename_i execution found
      split at stepped
      · rename_i isTimedOut
        cases stepped
        have isRunning : execution.Running := by
          unfold TaskExecution.Running
          rw [isTimedOut]
          decide
        refine .leave found isRunning fun first => ?_
        exact
          settled_of_report isRunning (first execution found isTimedOut)
            rfl rfl fun stays => (stays rfl).elim
      · rename_i isExited
        have isRunning : execution.Running := by
          unfold TaskExecution.Running
          rw [isExited]
          decide
        split at stepped
        · rename_i isCancelled
          cases stepped
          exact .leave found isRunning fun _ => settled_leave isCancelled
        · rename_i notCancelled
          rw [Bool.not_eq_true] at notCancelled
          split at stepped
          · rename_i code
            cases stepped
            exact
              .leave found isRunning fun _ =>
                settled_of_report isRunning notCancelled rfl
                  (terminal_exitStatus execution code)
                  fun stays => (stays rfl).elim
          · cases stepped
            exact
              .leave found isRunning fun _ =>
                settled_of_report isRunning notCancelled rfl rfl
                  fun stays => (stays rfl).elim
      · cases stepped
  | raise index error =>
    dsimp only at stepped
    split at stepped
    · cases stepped
    · rename_i execution found
      split at stepped
      · cases stepped
      · rename_i isRunning
        cases stepped
        refine .leave found isRunning fun first => ?_
        exact
          settled_of_report isRunning (first execution found) rfl rfl
            fun stays => (stays rfl).elim

theorem getElem?_modify_cases
    {executions : List TaskExecution}
    {changed index : Nat}
    {change : TaskExecution → TaskExecution}
    {found : TaskExecution}
    (isFound : (executions.modify changed change)[index]? = some found) :
    (∃ execution,
        index = changed ∧ executions[index]? = some execution ∧
          found = change execution) ∨
      index ≠ changed ∧ executions[index]? = some found := by
  rw [List.getElem?_modify] at isFound
  obtain ⟨execution, wasFound, rfl⟩ := Option.map_eq_some_iff.mp isFound
  by_cases same : changed = index
  · rw [if_pos same]
    exact .inl ⟨execution, same.symm, wasFound, rfl⟩
  · rw [if_neg same]
    exact .inr ⟨Ne.symm same, wasFound⟩

/-- Every step keeps the table. -/
theorem Tabled.step
    (tabled : Tabled before)
    (effect : ExecutorEffect before action after) :
    Tabled after := by
  cases effect with
  | nothing =>
    exact tabled
  | @start taskId added absent isAdded _ =>
    constructor
    · intro other index listed
      by_cases same : other = taskId
      · subst same
        rw [Dictionary.lookup_set_self] at listed
        cases listed
        exact ⟨added, List.getElem?_concat_length, isAdded⟩
      · rw [Dictionary.lookup_set_other same] at listed
        obtain ⟨execution, found, isOther⟩ := tabled.listed listed
        have within := (List.getElem?_eq_some_iff.mp found).1
        exact
          ⟨execution, (List.getElem?_append_left within).trans found, isOther⟩
    · intro index execution found isRunning
      dsimp only at found ⊢
      rcases Nat.lt_or_ge index before.executions.length with
        within | beyond
      · rw [List.getElem?_append_left within] at found
        have held := tabled.held found isRunning
        rw [Dictionary.lookup_set_other ?_]
        · exact held
        · intro same
          rw [same, absent] at held
          cases held
      · rw [List.getElem?_append_right beyond, List.getElem?_singleton] at found
        split at found
        · rename_i isLast
          cases found
          rw [isAdded.1, Dictionary.lookup_set_self]
          exact congrArg some (by omega)
        · cases found
  | @change changed execution change found isRunning stays _ =>
    constructor
    · intro taskId index listed
      obtain ⟨other, otherFound, isOther⟩ := tabled.listed listed
      by_cases same : changed = index
      · subst same
        obtain rfl := Option.some.inj (found.symm.trans otherFound)
        refine ⟨change execution, ?_, stays.1.trans isOther.1, stays.2⟩
        exact (List.getElem?_modify_eq _ _ _).trans (by rw [found]; rfl)
      · exact
          ⟨other, (List.getElem?_modify_ne _ _ same).trans otherFound, isOther⟩
    · intro index other otherFound isOther
      rcases getElem?_modify_cases otherFound with
        ⟨previous, rfl, wasFound, rfl⟩ | ⟨_, wasFound⟩
      · obtain rfl := Option.some.inj (found.symm.trans wasFound)
        rw [stays.1]
        exact tabled.held found isRunning
      · exact tabled.held wasFound isOther
  | @leave gone execution reports found isRunning _ =>
    have held := tabled.held found isRunning
    constructor
    · intro taskId index listed
      change (Dictionary.erase _ _).lookup _ = _ at listed
      by_cases same : taskId = execution.taskId
      · rw [same, Dictionary.lookup_erase_self] at listed
        cases listed
      · rw [Dictionary.lookup_erase_other same] at listed
        obtain ⟨other, otherFound, isOther⟩ := tabled.listed listed
        have different : gone ≠ index := by
          rintro rfl
          obtain rfl := Option.some.inj (found.symm.trans otherFound)
          exact same isOther.1.symm
        exact
          ⟨other,
            (List.getElem?_modify_ne _ _ different).trans otherFound,
            isOther⟩
    · intro index other otherFound isOther
      rcases getElem?_modify_cases otherFound with
        ⟨previous, _, _, rfl⟩ | ⟨different, wasFound⟩
      · exact (isOther rfl).elim
      · have otherHeld := tabled.held wasFound isOther
        refine (Dictionary.lookup_erase_other ?_ _).trans otherHeld
        intro same
        rw [same, held] at otherHeld
        exact different (Option.some.inj otherHeld).symm

theorem settled_modify
    {index : Nat}
    {change : TaskExecution → TaskExecution}
    (found : sys.executions[index]? = some execution)
    (settled : ∀ execution ∈ sys.executions, execution.Settled)
    (settles : execution.Settled → (change execution).Settled) :
    ∀ other ∈ sys.executions.modify index change, other.Settled := by
  intro other member
  obtain ⟨position, isFound⟩ := List.mem_iff_getElem?.mp member
  rcases getElem?_modify_cases isFound with
    ⟨previous, rfl, wasFound, rfl⟩ | ⟨_, wasFound⟩
  · obtain rfl := Option.some.inj (found.symm.trans wasFound)
    exact settles (settled execution (List.mem_of_getElem? found))
  · exact settled other (List.mem_of_getElem? wasFound)

theorem settled_step
    (first : before.ReportsFirst action)
    (settled : ∀ execution ∈ before.executions, execution.Settled)
    (effect : ExecutorEffect before action after) :
    ∀ execution ∈ after.executions, execution.Settled := by
  cases effect with
  | nothing =>
    exact settled
  | start absent isAdded settles =>
    intro execution member
    rcases List.mem_append.mp member with old | isNew
    · exact settled execution old
    · rw [List.mem_singleton.mp isNew]
      exact settles
  | change found isRunning stays settles =>
    exact settled_modify found settled (settles first)
  | leave found isRunning settles =>
    exact settled_modify found settled (settles first)

end Steps

theorem tabled_empty : Tabled {} :=
  ⟨nofun, nofun⟩

/-- The system, restricted to steps that report first. -/
abbrev ReportingStep : TaskExecutor → ExecutorAction → TaskExecutor → Prop :=
  Guarded (Fires TaskExecutor.step?) TaskExecutor.ReportsFirst

theorem runsOnce
    {actions : List ExecutorAction}
    {final : TaskExecutor}
    (run : Run (Fires TaskExecutor.step?) {} actions final) :
    final.RunsOnce := by
  have stepPreserves :
      ∀ before action after,
        Fires TaskExecutor.step? before action after →
        Tabled before →
        Tabled after :=
    fun _ _ _ stepped tabled =>
      tabled.step (executorEffect_of_step tabled stepped)
  have tabled := run.preserves stepPreserves tabled_empty
  intro index other execution second found otherFound isRunning isSecond same
  have held := tabled.held found isRunning
  rw [same, tabled.held otherFound isSecond] at held
  exact (Option.some.inj held).symm

/-- In every run an execution reports one end, and no task runs twice. -/
def OneReport
    (step : TaskExecutor → ExecutorAction → TaskExecutor → Prop) : Prop :=
  ∀ actions final,
    Run step {} actions final → final.ReportsOnce ∧ final.RunsOnce

/--
Where every step reports first, an execution that has left the table has
reported one end, and no task is in the table twice.
-/
theorem reportsOnce_of_reportsFirst
    {actions : List ExecutorAction}
    {final : TaskExecutor}
    (run : Run ReportingStep {} actions final) :
    final.ReportsOnce ∧ final.RunsOnce := by
  refine ⟨?_, runsOnce run.unguarded⟩
  have stepPreserves :
      ∀ before action after,
        ReportingStep before action after →
        (Tabled before ∧ ∀ execution ∈ before.executions, execution.Settled) →
        Tabled after ∧ ∀ execution ∈ after.executions, execution.Settled := by
    rintro before action after ⟨stepped, first⟩ ⟨tabled, settled⟩
    have effect := executorEffect_of_step tabled stepped
    exact ⟨tabled.step effect, settled_step first settled effect⟩
  obtain ⟨_, settled⟩ :=
    run.preserves stepPreserves ⟨tabled_empty, nofun⟩
  intro execution member hasLeft
  have isSettled := settled execution member
  unfold TaskExecution.Settled at isSettled
  rwa [if_neg fun running => hasLeft running.1] at isSettled

instance (sys : TaskExecutor) :
    (action : ExecutorAction) → Decidable (sys.ReportsFirst action)
  | .refuse _ _ => inferInstanceAs (Decidable (_ = _))
  | .execute _ _ => inferInstanceAs (Decidable True)
  | .cancel taskId =>
    inferInstanceAs
      (Decidable
        (∀ index ∈ sys.running.lookup taskId,
          ∀ execution ∈ sys.executions[index]?, _ = _))
  | .timeout _ => inferInstanceAs (Decidable True)
  | .exit _ => inferInstanceAs (Decidable True)
  | .finish index _ =>
    inferInstanceAs (Decidable (∀ execution ∈ sys.executions[index]?, _ → _))
  | .raise index _ =>
    inferInstanceAs (Decidable (∀ execution ∈ sys.executions[index]?, _ = _))

/-- A task that is cancelled some times before its process exits. -/
def cancelled (times : Nat) : List ExecutorAction :=
  [.execute "task-1" (.starts 4711)] ++
    List.replicate times (.cancel "task-1") ++
    [.exit 0, .finish 0 (.ok 1)]

/-- A task that is cancelled once reports once. -/
theorem cancelledOnce_reportsOnce :
    ∃ final,
      Run ReportingStep {} (cancelled 1) final ∧
        final.ReportsOnce ∧ final.RunsOnce := by
  obtain ⟨final, run, _⟩ :=
    exists_run_of_execute
      (show
        (execute (checked TaskExecutor.step? TaskExecutor.ReportsFirst) {}
            (cancelled 1)).any (fun _ => true) =
          true by decide)
  have guarded := run.guarded_of_checked
  exact ⟨final, guarded, reportsOnce_of_reportsFirst guarded⟩

/-- A task that is cancelled twice is reported as cancelled twice. -/
theorem not_oneReport : ¬ OneReport (Fires TaskExecutor.step?) := by
  intro claimed
  obtain ⟨final, run, reached⟩ :=
    exists_run_of_execute
      (show
        (execute TaskExecutor.step? {} (cancelled 2)).any (fun sys =>
            sys.executions.any fun execution =>
              !decide execution.Running && decide (execution.terminals ≠ 1)) =
          true by decide)
  obtain ⟨execution, member, holds⟩ := List.any_eq_true.mp reached
  obtain ⟨hasLeft, differs⟩ := Bool.and_eq_true_iff.mp holds
  rw [Bool.not_eq_true', decide_eq_false_iff_not] at hasLeft
  exact
    of_decide_eq_true differs ((claimed _ final run).1 execution member hasLeft)

end RpaPlatform.Tasks
