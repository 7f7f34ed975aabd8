import RpaPlatform.TaskService

namespace RpaPlatform.Tasks

open TaskDB Transition

/-!
# Terminal task statuses

Four writers share the unguarded status update: `dispatch`, the cancel
endpoint, `_run_prepare` and the agent's own reports.  Each of the first three
decides at one suspension and writes at a later one.  This module states when
a terminal status is final, shows that the writers do not guarantee it, and
proves it for every interleaving in which a terminal status is given only
while no other coroutine still has a decided status to write.
-/

/-- Once a task is in a terminal status, it keeps status and completion time. -/
def TerminalStatusesFinal
    (step : TaskSystem → Action → TaskSystem → Prop) : Prop :=
  ∀ {db : TaskDB} {files : Files} {middle final : TaskSystem}
    {first second : List Action}
    {taskId : String} {row : TaskRow},
    Run step (.started db files) first middle →
    Run step middle second final →
    middle.db.getTask taskId = some row →
    row.status.terminal = true →
    ∃ later,
      final.db.getTask taskId = some later ∧
        later.status = row.status ∧
        later.completedAt = row.completedAt

/--
The task whose status a suspended coroutine is going to write, from a decision
it has already taken or from a row it has already read.
-/
def Frame.writes : Frame → Option String
  | .dispatching task _ => some task.id
  | .deploying task _ => some task.id
  | .sending task _ _ => some task.id
  | .cancelTask taskId _ (some row) =>
    if row.status.cancellable then some taskId else none
  | .cancelSending taskId _ => some taskId
  | .preparing taskId => some taskId
  | .prepareFailed taskId _ => some taskId
  | _ => none

/-- The task to which a resumed coroutine gives a terminal status. -/
def Frame.ends
    (server : Server)
    (answer : Answer) : Frame → Option String
  | .dispatching task _ =>
    if (refusedAtOnce server task answer).isSome then
      some task.id
    else
      none
  | .sending task sent _ =>
    if sent then none else some task.id
  | .cancelSending taskId _ =>
    if answer.sent then some taskId else none
  | .preparing taskId =>
    if answer.raises = none then some taskId else none
  | .prepareFailed taskId _ => some taskId
  | _ => none

/-- No coroutine in another slot is going to write the task's status. -/
def Undisturbed
    (sys : TaskSystem)
    (slot : Nat)
    (taskId : String) : Prop :=
  ∀ other, other ≠ slot → (sys.frames other).writes ≠ some taskId

/--
The condition under which terminal statuses are final.  Agents report only on
tasks that are not terminal; a terminal status is given only while no other
coroutine is going to write the task's status; and nothing raises after a
preparation has stored its completed status.
-/
def Orderly
    (server : Server)
    (sys : TaskSystem) : Action → Prop
  | .taskStatus slot _ data _ =>
    (∀ row,
      sys.db.getTask data.taskId = some row →
      row.status.terminal = false) ∧
    ((TaskStatus.ofText data.status).terminal = true →
      Undisturbed sys slot data.taskId)
  | .resume slot answer =>
    (∀ taskId,
      (sys.frames slot).ends server answer = some taskId →
      Undisturbed sys slot taskId) ∧
    (∀ taskId, sys.frames slot = .prepared taskId → answer.raises = none)
  | _ => True

/-- No coroutine is going to write the status of a terminal task. -/
def WritersLive (sys : TaskSystem) : Prop :=
  ∀ slot taskId row,
    (sys.frames slot).writes = some taskId →
    sys.db.getTask taskId = some row →
    row.status.terminal = false

/-! ### What a turn writes -/

variable
    {taskId : String}
    {status : TaskStatus}
    {detail : StatusDetail}
    {actor : String}
    {answer : Answer}
    {turn : Turn}

theorem recordTurn_statement
    {task : TaskSpec}
    {result : TaskDispatchResult}
    {refusal : Option (String × Nat)}
    (issues :
      (recordTurn task result refusal).statement =
        some (.updateTaskStatus taskId status detail actor)) :
    taskId = task.id ∧ result.status = some status := by
  simp only [recordTurn, Option.map_eq_some_iff,
    Statement.updateTaskStatus.injEq] at issues
  obtain ⟨recorded, sameStatus, rfl, rfl, _⟩ := issues
  exact ⟨rfl, sameStatus⟩

theorem recordTurn_writes
    (task : TaskSpec)
    (result : TaskDispatchResult)
    (refusal : Option (String × Nat)) :
    (recordTurn task result refusal).next.writes = none := by
  unfold recordTurn
  dsimp only
  split
  · rfl
  · split <;> rfl

theorem advanceTurn_writes
    (status : TaskStatus)
    (task : TaskRow)
    (run : PipelineRun)
    (pipeline : Pipeline)
    (freshId : String) :
    (advanceTurn status task run pipeline freshId).next.writes = none := by
  unfold advanceTurn
  split <;> rfl

theorem advanceTurn_statement
    {task : TaskRow}
    {run : PipelineRun}
    {pipeline : Pipeline}
    {freshId : String}
    {statement : Statement}
    (issues :
      (advanceTurn status task run pipeline freshId).statement =
        some statement) :
    ∃ runStatus currentStep,
      statement = .updatePipelineRunStatus run.id runStatus currentStep := by
  unfold advanceTurn at issues
  split at issues <;> cases issues <;> exact ⟨_, _, rfl⟩

theorem handlerFrame_writes
    {task : TaskSpec}
    {refusal : Option (String × Nat)}
    (writes : (handlerFrame task refusal answer).writes = some taskId) :
    task.id = taskId := by
  unfold handlerFrame at writes
  split at writes
  · split at writes
    · exact Option.some.inj writes
    · cases writes
  · exact Option.some.inj writes

/--
A resumed coroutine is going to write a status only for a task it has just
created, for the task it was going to write before, or because it handles an
exception after the completed status of a preparation.
-/
theorem Resumed.writes
    {server : Server}
    {db : TaskDB}
    {frame : Frame}
    (resumed : Resumed server db answer frame turn)
    (writes : turn.next.writes = some taskId) :
    (∃ task,
      turn.statement = some (.createTask task) ∧ task.id = taskId) ∨
      (turn.statement = none ∧ frame.writes = some taskId) ∨
      (frame = .prepared taskId ∧ answer.raises ≠ none) := by
  cases resumed with
  | created =>
    exact .inl ⟨_, rfl, Option.some.inj writes⟩
  | handed =>
    exact .inr (.inl ⟨rfl, congrArg some (handlerFrame_writes writes)⟩)
  | cancelAllowed allowed =>
    refine .inr (.inl ⟨rfl, ?_⟩)
    rw [Frame.writes, if_pos allowed]
    exact writes
  | packagingRaised =>
    exact .inr (.inl ⟨rfl, writes⟩)
  | preparedRaised raised =>
    cases writes
    exact .inr (.inr ⟨rfl, by simp [raised]⟩)
  | turnedDown | deployed | sent =>
    rw [recordTurn_writes] at writes
    cases writes
  | advanced =>
    rw [advanceTurn_writes] at writes
    cases writes
  | _ =>
    cases writes

/--
A resumed coroutine updates the status of the task it was going to write, and
the statuses that end a task are those announced by `Frame.ends`.
-/
theorem Resumed.updates
    {server : Server}
    {db : TaskDB}
    {frame : Frame}
    (resumed : Resumed server db answer frame turn)
    (updates :
      turn.statement = some (.updateTaskStatus taskId status detail actor)) :
    frame.writes = some taskId ∧
      (status.terminal = true → frame.ends server answer = some taskId) := by
  cases resumed with
  | @turnedDown task refusal error refused =>
    have issues :
        (recordTurn task (refusedResult error) refusal).statement =
          some (.updateTaskStatus taskId status detail actor) :=
      updates
    obtain ⟨rfl, _⟩ := recordTurn_statement issues
    exact ⟨rfl, fun _ => by simp [Frame.ends, refused]⟩
  | @deployed task refusal =>
    have issues :
        (recordTurn task acceptedResult refusal).statement =
          some (.updateTaskStatus taskId status detail actor) :=
      updates
    obtain ⟨rfl, recorded⟩ := recordTurn_statement issues
    refine ⟨rfl, fun terminal => ?_⟩
    cases recorded
    cases terminal
  | @sent task sent refusal =>
    obtain ⟨rfl, recorded⟩ := recordTurn_statement updates
    refine ⟨rfl, fun terminal => ?_⟩
    cases sent with
    | true =>
      cases recorded
      cases terminal
    | false =>
      rfl
  | cancelSent sent =>
    cases updates
    exact ⟨rfl, fun _ => by simp [Frame.ends, sent]⟩
  | packaged quiet =>
    cases updates
    exact ⟨rfl, fun _ => by simp [Frame.ends, quiet]⟩
  | prepareFailed =>
    cases updates
    exact ⟨rfl, fun _ => rfl⟩
  | advanced =>
    obtain ⟨_, _, other⟩ := advanceTurn_statement updates
    cases other
  | _ =>
    cases updates

theorem start_updates
    {sys : TaskSystem}
    {action : Action}
    (starts : start sys action = some turn)
    (updates :
      turn.statement = some (.updateTaskStatus taskId status detail actor)) :
    ∃ slot clientId data now,
      action = .taskStatus slot clientId data now ∧
        data.taskId = taskId ∧
        TaskStatus.ofText data.status = status := by
  cases action with
  | taskStatus slot clientId data now =>
    cases starts
    cases updates
    exact ⟨slot, clientId, data, now, rfl, rfl, rfl⟩
  | resume =>
    cases starts
  | _ =>
    cases starts
    cases updates

/--
A coroutine that is started is going to write the status of the task it has
just created, or of the task it has just read in a status that can be
cancelled.
-/
theorem start_writes
    {sys : TaskSystem}
    {action : Action}
    (starts : start sys action = some turn)
    (writes : turn.next.writes = some taskId) :
    (∃ task,
      turn.statement = some (.createTask task) ∧ task.id = taskId) ∨
      (turn.statement = none ∧
        ∃ row,
          sys.db.getTask taskId = some row ∧ row.status.terminal = false) := by
  cases action with
  | createTask | submitDeployment =>
    cases starts
    exact .inl ⟨_, rfl, Option.some.inj writes⟩
  | cancelTask slot cancelled actor =>
    cases starts
    simp only [Turn.await] at writes
    cases found : sys.db.getTask cancelled with
    | none =>
      rw [found] at writes
      cases writes
    | some row =>
      rw [found] at writes
      simp only [Frame.writes] at writes
      split at writes
      · rename_i allowed
        cases writes
        exact .inr ⟨rfl, row, found,
          TaskStatus.not_terminal_of_cancellable allowed⟩
      · cases writes
  | resume =>
    cases starts
  | _ =>
    cases starts
    cases writes

/-! ### Orderly steps -/

section Orderly

variable
    {server : Server}
    {before after : TaskSystem}
    {action : Action}
    {turn : Turn}

variable {taskId : String}

variable
    (orderly : Orderly server before action)
    (live : WritersLive before)
    (begins : Tasks.turn server before action = some turn)
include orderly live begins

/--
An orderly update is made to a row that is not terminal, and one that ends the
task is made while no other coroutine is going to write its status.
-/
theorem Orderly.updates
    {status : TaskStatus}
    {detail : StatusDetail}
    {actor : String}
    (updates :
      turn.statement = some (.updateTaskStatus taskId status detail actor)) :
    (∀ row,
      before.db.getTask taskId = some row →
      row.status.terminal = false) ∧
      (status.terminal = true → Undisturbed before action.slot taskId) := by
  rcases turn_cases begins with ⟨slot, answer, rfl, resumed⟩ | ⟨_, starts⟩
  · obtain ⟨writes, ends⟩ := resumed.updates updates
    exact ⟨fun row => live slot taskId row writes,
      fun terminal => orderly.1 taskId (ends terminal)⟩
  · obtain ⟨slot, clientId, data, now, rfl, rfl, rfl⟩ :=
      start_updates starts updates
    exact orderly

theorem Orderly.row
    (took : Took server before action turn after)
    (taskId : String) :
    after.db.getTask taskId = before.db.getTask taskId ∨
      (∀ row,
        before.db.getTask taskId = some row →
        row.status.terminal = false) ∧
      (∀ row,
        after.db.getTask taskId = some row →
        row.status.terminal = true →
        Undisturbed before action.slot taskId) := by
  rcases took.executed with same | ⟨statement, issues, _, executed⟩
  · exact .inl (by rw [same])
  · rcases getTask_execute executed taskId with
      ⟨task, rfl, rfl, created⟩ |
      ⟨status, detail, actor, rfl, updated⟩ | same
    · refine .inr ⟨?_, ?_⟩
      · intro row found
        rw [getTask_eq_none_of_createTask executed] at found
        cases found
      · intro row found terminal
        rw [created] at found
        cases found
        cases terminal
    · obtain ⟨rowLive, alone⟩ :=
        orderly.updates live begins issues
      refine .inr ⟨rowLive, ?_⟩
      intro row found terminal
      rw [updated, Option.map_eq_some_iff] at found
      obtain ⟨earlier, _, rfl⟩ := found
      exact alone terminal
    · exact .inl same

theorem Orderly.writes
    (writes : turn.next.writes = some taskId) :
    (∃ task,
      turn.statement = some (.createTask task) ∧ task.id = taskId) ∨
      (turn.statement = none ∧
        ∀ row,
          before.db.getTask taskId = some row →
          row.status.terminal = false) := by
  rcases turn_cases begins with ⟨slot, answer, rfl, resumed⟩ | ⟨_, starts⟩
  · rcases resumed.writes writes with
      created | ⟨silent, carried⟩ | ⟨prepared, raised⟩
    · exact .inl created
    · exact .inr ⟨silent, fun row => live slot taskId row carried⟩
    · exact (raised (orderly.2 taskId prepared)).elim
  · rcases start_writes starts writes with
      created | ⟨silent, row, found, rowLive⟩
    · exact .inl created
    · refine .inr ⟨silent, ?_⟩
      intro other otherFound
      rw [found] at otherFound
      cases otherFound
      exact rowLive

theorem Orderly.writersLive
    (took : Took server before action turn after) :
    WritersLive after := by
  intro slot taskId row writes found
  rcases took.frame slot with
    ⟨elsewhere, kept⟩ | ⟨_, idle, _⟩ | ⟨rfl, reached, performed⟩ |
    ⟨prepared, _, _, prepares, reached, performed⟩
  · rw [kept] at writes
    rcases orderly.row live begins took taskId with same | ⟨_, ends⟩
    · rw [same] at found
      exact live slot taskId row writes found
    · rw [Bool.eq_false_iff]
      intro terminal
      exact ends row found terminal slot elsewhere writes
  · rw [idle] at writes
    cases writes
  · rw [reached] at writes
    rcases orderly.writes live begins writes with
      ⟨task, issues, rfl⟩ | ⟨silent, rowLive⟩
    · simp only [Turn.perform, issues] at performed
      rw [getTask_createTask performed, if_pos rfl] at found
      cases found
      rfl
    · simp only [Turn.perform, silent, Option.some.injEq] at performed
      rw [← performed] at found
      exact rowLive row found
  · rw [reached] at writes
    cases writes
    obtain ⟨_, _, _, _, _, _, _, issues⟩ :=
      prepares_running begins prepares
    simp only [Turn.perform, issues, TaskDB.execute,
      Option.some.injEq] at performed
    rw [← performed, getTask_updateTaskStatus, if_pos rfl,
      Option.map_eq_some_iff] at found
    obtain ⟨_, _, rfl⟩ := found
    rfl

theorem Orderly.terminalRow
    (took : Took server before action turn after)
    {row : TaskRow}
    (found : before.db.getTask taskId = some row)
    (terminal : row.status.terminal = true) :
    after.db.getTask taskId = some row := by
  rcases orderly.row live begins took taskId with same | ⟨rowLive, _⟩
  · rw [same, found]
  · rw [rowLive row found] at terminal
    cases terminal

end Orderly

theorem writersLive_started (db : TaskDB) (files : Files) :
    WritersLive (.started db files) := by
  intro slot taskId row writes
  cases writes

/-- In an orderly run, terminal statuses are final. -/
theorem terminalStatuses_final_of_orderly (server : Server) :
    TerminalStatusesFinal
      (Guarded (Fires (step? server)) (Orderly server)) := by
  intro db files middle final first second taskId row leading trailing
    found terminal
  have middleLive : WritersLive middle := by
    refine leading.preserves ?_ (writersLive_started db files)
    rintro before action after ⟨taken, orderly⟩ live
    obtain ⟨turn, begins, took⟩ := step_cases taken
    exact orderly.writersLive live begins took
  let keeps : TaskSystem → Prop :=
    fun sys => WritersLive sys ∧ sys.db.getTask taskId = some row
  have start : keeps middle :=
    ⟨middleLive, found⟩
  have kept : keeps final := by
    refine trailing.preserves ?_ start
    rintro before action after ⟨taken, orderly⟩ ⟨live, unchanged⟩
    obtain ⟨turn, begins, took⟩ := step_cases taken
    exact ⟨orderly.writersLive live begins took,
      orderly.terminalRow live begins took unchanged terminal⟩
  exact ⟨row, kept.2, rfl, rfl⟩

/-- A database with one task, which has completed. -/
def completedDB : TaskDB :=
  ((TaskDB.empty.createTask 0
    (TaskFactory.createAgentTaskFromRequest exampleTaskRequest ""
      "t").val).getD .empty).updateTaskStatus 5 "t" .completed {} "a"

/-- A cancel request that comes too late leaves a completed task completed. -/
theorem completedTask_survives_cancel :
    ∃ final,
      Run (Guarded (Fires (step? exampleServer)) (Orderly exampleServer))
        (.started completedDB fun _ => none)
        [.cancelTask 0 "t" "user", .resume 0 {}] final ∧
        final.statusOf "t" = some .completed := by
  obtain ⟨final, run⟩ :
      ∃ final,
        Run (Guarded (Fires (step? exampleServer)) (Orderly exampleServer))
          (.started completedDB fun _ => none)
          [.cancelTask 0 "t" "user", .resume 0 {}] final := by
    refine ⟨_, .cons ⟨rfl, trivial⟩ (.cons ⟨rfl, ?_, ?_⟩ (.nil _))⟩
    · intro taskId ends
      cases ends
    · intro taskId suspended
      cases suspended
  have status : (completedDB.getTask "t").map TaskRow.status =
      some .completed := by
    decide
  rw [Option.map_eq_some_iff] at status
  obtain ⟨row, found, completed⟩ := status
  obtain ⟨later, laterFound, sameStatus, _⟩ :=
    terminalStatuses_final_of_orderly exampleServer (.nil _) run found
      (by rw [completed]; rfl)
  refine ⟨final, run, ?_⟩
  rw [TaskSystem.statusOf, laterFound]
  exact congrArg some (sameStatus.trans completed)

/-- A task that is sent, and completes before its dispatch is recorded. -/
def overtakenDispatch : List Action :=
  [.createTask 0 exampleTaskRequest "" "t" 0,
    .resume 0 {},
    .taskStatus 1 (some "a") { taskId := "t", status := "completed" } 5]

def lateRecording : List Action :=
  [.resume 0 { now := 6 }]

/--
Without the condition terminal statuses are not final: the recording of a
dispatch sets a task that has already completed back to running.
-/
theorem not_terminalStatuses_final :
    ¬ TerminalStatusesFinal (Fires (step? exampleServer)) := by
  intro claimed
  obtain ⟨middle, final, leading, trailing, passed, reached⟩ :=
    exists_runs_of_execute
      (show (execute (step? exampleServer)
          (.started .empty fun _ => none) overtakenDispatch).any
          (fun sys => sys.statusOf "t" = some .completed) = true by
        decide)
      (show (execute (step? exampleServer)
          (.started .empty fun _ => none)
          (overtakenDispatch ++ lateRecording)).any
          (fun sys => sys.statusOf "t" = some .running) = true by
        decide)
  rw [decide_eq_true_eq, TaskSystem.statusOf,
    Option.map_eq_some_iff] at passed reached
  obtain ⟨row, found, completed⟩ := passed
  obtain ⟨later, laterFound, running⟩ := reached
  obtain ⟨same, sameFound, sameStatus, _⟩ :=
    claimed leading trailing found (by rw [completed]; rfl)
  rw [laterFound] at sameFound
  cases sameFound
  rw [running, completed] at sameStatus
  cases sameStatus

end RpaPlatform.Tasks
