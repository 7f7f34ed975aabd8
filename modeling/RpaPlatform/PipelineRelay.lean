import RpaPlatform.Relay
import RpaPlatform.TaskCoherence

namespace RpaPlatform.Tasks

open TaskDB Transition

/-!
# A pipeline run is a relay

The tasks of one pipeline run are the items of a relay.  The run's baton is
held by the coroutine that has launched the run and is to create its first
task, by the one that has found the run live after a report and is to decide
what follows, and by the one that is to create the task that follows.  As long
as the report of a task moves its run on once at most, every step of the
subsystem is a step of the relay of every run.
-/

/-- The baton of a run that a suspended coroutine holds. -/
def Frame.baton (runId : String) : Frame → Option (Baton String)
  | .runCreated _ _ launched first =>
    if launched = runId then some (.making first.stepIndex) else none
  | .creating task launched _ =>
    if launched = runId then some (.making task.stepIndex) else none
  | .advancePipeline _ task run _ =>
    if run.id = runId then some (.deciding task.id) else none
  | _ => none

/-- The tasks of a run and their steps, in the order of their creation. -/
def TaskDB.runSteps
    (db : TaskDB)
    (runId : String) : List (String × Nat) :=
  (db.taskIdentities.filter fun task =>
    decide (task.pipelineRunId = some runId)).map
      fun task => (task.id, task.stepIndex)

/-- The relay of a run. -/
def TaskSystem.relay
    (sys : TaskSystem)
    (runId : String) : Relay Nat String where
  made := sys.db.runSteps runId
  passed :=
    (sys.advanced.map Prod.fst).filter fun taskId =>
      decide (taskId ∈ (sys.db.runSteps runId).map Prod.fst)
  handed :=
    sys.dispatched.filter fun taskId =>
      decide (taskId ∈ (sys.db.runSteps runId).map Prod.fst)
  batons := fun slot => (sys.frames slot).baton runId

/-- The task that a coroutine is about to hand to the dispatcher. -/
def Frame.waiting : Frame → Option String
  | .dispatching task _ => some task.id
  | _ => none

/-- What the recorded history of reports and dispatches is about. -/
structure Recorded (sys : TaskSystem) : Prop where
  /-- Runs are moved on by reports of stored tasks. -/
  advanced :
    ∀ report ∈ sys.advanced,
      report.1 ∈ sys.db.taskIdentities.map TaskIdentity.id
  /-- Stored tasks are dispatched. -/
  dispatched :
    ∀ taskId ∈ sys.dispatched,
      taskId ∈ sys.db.taskIdentities.map TaskIdentity.id
  /-- Tasks are dispatched once. -/
  once : sys.dispatched.Nodup
  /-- A task that waits for its dispatch has not been dispatched. -/
  waiting :
    ∀ slot taskId,
      (sys.frames slot).waiting = some taskId →
      taskId ∉ sys.dispatched
  /-- A task waits for its dispatch in one slot. -/
  alone :
    ∀ first second taskId,
      (sys.frames first).waiting = some taskId →
      (sys.frames second).waiting = some taskId →
      first = second
  /-- Every task is dispatched, or waits for it. -/
  reached :
    ∀ task ∈ sys.db.taskIdentities,
      task.id ∈ sys.dispatched ∨
        ∃ slot, (sys.frames slot).waiting = some task.id

section Turns

variable
    {server : Server}
    {before after : TaskSystem}
    {action : Action}
    {turn : Turn}

theorem recordTurn_waiting
    (task : TaskSpec)
    (result : TaskDispatchResult)
    (refusal : Option (String × Nat)) :
    (recordTurn task result refusal).next.waiting = none := by
  unfold recordTurn
  dsimp only
  split
  · rfl
  · split <;> rfl

theorem handlerFrame_waiting
    (task : TaskSpec)
    (refusal : Option (String × Nat))
    (answer : Answer) :
    (handlerFrame task refusal answer).waiting = none := by
  unfold handlerFrame
  split
  · split <;> rfl
  · rfl

theorem advanceTurn_quiet
    (status : TaskStatus)
    (task : TaskRow)
    (run : PipelineRun)
    (pipeline : Pipeline)
    (freshId : String) :
    (advanceTurn status task run pipeline freshId).next.waiting = none ∧
      (advanceTurn status task run pipeline freshId).dispatches = none ∧
      (advanceTurn status task run pipeline freshId).advances = none := by
  unfold advanceTurn
  split <;> exact ⟨rfl, rfl, rfl⟩

variable {taskId : String}

section Turns

variable
    (begins : Tasks.turn server before action = some turn)
include begins

theorem turn_waiting
    (waits : turn.next.waiting = some taskId) :
    turn.dispatches = none ∧
      ∃ task, turn.statement = some (.createTask task) ∧ task.id = taskId := by
  rcases turn_cases begins with ⟨slot, answer, rfl, resumed⟩ | ⟨_, starts⟩
  · generalize before.frames slot = frame at resumed
    cases resumed with
    | created =>
      exact ⟨rfl, _, rfl, Option.some.inj waits⟩
    | handed =>
      rw [handlerFrame_waiting] at waits
      cases waits
    | turnedDown | deployed | sent =>
      rw [recordTurn_waiting] at waits
      cases waits
    | advanced =>
      rw [(advanceTurn_quiet ..).1] at waits
      cases waits
    | _ =>
      cases waits
  · cases action with
    | createTask | submitDeployment =>
      cases starts
      exact ⟨rfl, _, rfl, Option.some.inj waits⟩
    | resume =>
      cases starts
    | _ =>
      cases starts
      cases waits

theorem turn_dispatches
    (dispatches : turn.dispatches = some taskId) :
    (before.frames action.slot).waiting = some taskId ∧
      turn.next.waiting = none ∧
      turn.advances = none ∧
      ∀ task, turn.statement ≠ some (.createTask task) := by
  rcases turn_cases begins with ⟨slot, answer, rfl, resumed⟩ | ⟨_, starts⟩
  · simp only [Action.slot]
    generalize before.frames slot = frame at resumed
    cases resumed with
    | handed =>
      cases dispatches
      refine ⟨rfl, handlerFrame_waiting .., rfl, ?_⟩
      rintro task ⟨⟩
    | @turnedDown task refusal error refused =>
      cases dispatches
      refine ⟨rfl,
        recordTurn_waiting task (refusedResult error) refusal, rfl, ?_⟩
      intro task issues
      simp [recordTurn] at issues
    | advanced =>
      rw [(advanceTurn_quiet ..).2.1] at dispatches
      cases dispatches
    | _ =>
      cases dispatches
  · cases action with
    | resume =>
      cases starts
    | _ =>
      cases starts
      cases dispatches

theorem dispatches_of_waiting
    (waits : (before.frames action.slot).waiting = some taskId) :
    turn.dispatches = some taskId ∧
      turn.perform before.db action.now ≠ none := by
  rcases turn_cases begins with ⟨slot, answer, rfl, resumed⟩ | ⟨free, _⟩
  · simp only [Action.slot] at waits
    generalize before.frames slot = frame at resumed waits
    cases resumed with
    | handed | turnedDown =>
      exact ⟨waits, Option.some_ne_none _⟩
    | _ =>
      cases waits
  · generalize before.frames action.slot = frame at free waits
    cases frame with
    | dispatching =>
      cases free
    | _ =>
      cases waits

theorem waiting_of_creates
    {task : TaskSpec}
    (creates : turn.statement = some (.createTask task)) :
    turn.next.waiting = some task.id := by
  rcases turn_cases begins with ⟨slot, answer, rfl, resumed⟩ | ⟨_, starts⟩
  · generalize before.frames slot = frame at resumed
    cases resumed with
    | created =>
      cases creates
      rfl
    | turnedDown | deployed | sent =>
      simp [recordTurn] at creates
    | advanced =>
      unfold advanceTurn at creates
      split at creates <;> cases creates
    | _ =>
      cases creates
  · cases action with
    | createTask | submitDeployment =>
      cases starts
      cases creates
      rfl
    | resume =>
      cases starts
    | _ =>
      cases starts
      cases creates

theorem turn_advances
    {report : String × TaskStatus}
    (advances : turn.advances = some report) :
    ∃ slot answer status task run,
      action = .resume slot answer ∧
        before.frames slot = .advanceRun status task (some run) ∧
        run.status.live = true ∧
        report = (task.id, status) ∧
        turn =
          { next :=
              .advancePipeline status task run
                (before.db.getPipeline run.pipelineId)
            advances := some (task.id, status) } := by
  rcases turn_cases begins with ⟨slot, answer, rfl, resumed⟩ | ⟨_, starts⟩
  · generalize suspended : before.frames slot = frame at resumed
    cases resumed with
    | @runLive status task run live =>
      cases advances
      exact ⟨slot, answer, status, task, run, rfl, suspended, live, rfl, rfl⟩
    | advanced =>
      rw [(advanceTurn_quiet ..).2.2] at advances
      cases advances
    | _ =>
      cases advances
  · cases action with
    | resume =>
      cases starts
    | _ =>
      cases starts
      cases advances

end Turns

/-! ### The history is about stored tasks -/

theorem Coherent.waiting
    (coherent : Coherent before)
    {slot : Nat}
    (waits : (before.frames slot).waiting = some taskId) :
    taskId ∈ before.db.taskIdentities.map TaskIdentity.id := by
  have knows := coherent.frames slot
  generalize before.frames slot = frame at waits knows
  cases frame with
  | dispatching task refusal =>
    cases waits
    exact List.mem_map.mpr ⟨task.identity, knows.1, rfl⟩
  | _ =>
    cases waits

theorem Took.histories
    (took : Took server before action turn after) :
    (after.advanced = before.advanced ++ turn.advances.toList ∧
        after.dispatched = before.dispatched ++ turn.dispatches.toList ∧
        after.refused = before.refused ++ turn.refuses.toList ∧
        turn.perform before.db action.now = some after.db) ∨
      (after.advanced = before.advanced ∧
        after.dispatched = before.dispatched ∧
        after.refused = before.refused ∧
        after.db = before.db ∧
        turn.perform before.db action.now = none ∧
        after.frames = Function.update before.frames action.slot .idle) := by
  cases took with
  | raised performed =>
    exact .inr ⟨rfl, rfl, rfl, rfl, performed, rfl⟩
  | passed db performed =>
    exact .inl ⟨rfl, rfl, rfl, performed⟩
  | spawned db taskId performed =>
    exact .inl ⟨rfl, rfl, rfl, performed⟩

theorem Took.waiting
    (begins : Tasks.turn server before action = some turn)
    (took : Took server before action turn after)
    {slot : Nat}
    (waits : (after.frames slot).waiting = some taskId) :
    (slot ≠ action.slot ∧
        (before.frames slot).waiting = some taskId) ∨
      (slot = action.slot ∧
        turn.dispatches = none ∧
        taskId ∉ before.db.taskIdentities.map TaskIdentity.id) := by
  rcases took.frame slot with
    ⟨elsewhere, kept⟩ | ⟨_, idle, _⟩ | ⟨acts, reached, performed⟩ |
    ⟨_, _, _, _, reached, _⟩
  · rw [kept] at waits
    exact .inl ⟨elsewhere, waits⟩
  · rw [idle] at waits
    cases waits
  · rw [reached] at waits
    obtain ⟨silent, task, issues, rfl⟩ := turn_waiting begins waits
    simp only [Turn.perform, issues] at performed
    exact .inr ⟨acts, silent, createTask_fresh performed⟩
  · rw [reached] at waits
    cases waits

theorem Took.dispatched_cases
    (took : Took server before action turn after) :
    after.dispatched = before.dispatched ∨
      ∃ taskId,
        turn.dispatches = some taskId ∧
          after.dispatched = before.dispatched ++ [taskId] := by
  rcases took.histories with ⟨_, grown, _⟩ | ⟨_, same, _⟩
  · cases dispatches : turn.dispatches with
    | none =>
      exact .inl (by simpa [dispatches] using grown)
    | some taskId =>
      exact .inr ⟨taskId, rfl, by simpa [dispatches] using grown⟩
  · exact .inl same

theorem Took.stored
    (took : Took server before action turn after)
    (member : taskId ∈ before.db.taskIdentities.map TaskIdentity.id) :
    taskId ∈ after.db.taskIdentities.map TaskIdentity.id :=
  (took.extends_db.tasks.map TaskIdentity.id).subset member

section Histories

variable
    (recorded : Recorded before)
    (coherent : Coherent before)
    (begins : Tasks.turn server before action = some turn)
    (took : Took server before action turn after)
include recorded coherent begins took

theorem Recorded.advanced_step
    (report : String × TaskStatus)
    (member : report ∈ after.advanced) :
    report.1 ∈ after.db.taskIdentities.map TaskIdentity.id := by
  rcases took.histories with ⟨grown, _⟩ | ⟨same, _⟩
  · rw [grown, List.mem_append, Option.mem_toList] at member
    rcases member with earlier | advances
    · exact took.stored (recorded.advanced report earlier)
    · obtain ⟨slot, _, status, task, run, rfl, suspended, _, rfl, _⟩ :=
        turn_advances begins advances
      have knows := coherent.frames slot
      rw [suspended] at knows
      exact took.stored (List.mem_map.mpr ⟨task.identity, knows.1, rfl⟩)
  · rw [same] at member
    exact took.stored (recorded.advanced report member)

theorem Recorded.dispatched_step
    (taskId : String)
    (member : taskId ∈ after.dispatched) :
    taskId ∈ after.db.taskIdentities.map TaskIdentity.id := by
  rcases took.dispatched_cases with same | ⟨added, dispatches, grown⟩
  · rw [same] at member
    exact took.stored (recorded.dispatched taskId member)
  · rw [grown, List.mem_append, List.mem_singleton] at member
    rcases member with earlier | rfl
    · exact took.stored (recorded.dispatched taskId earlier)
    · exact took.stored (coherent.waiting (turn_dispatches begins dispatches).1)

omit coherent in
theorem Recorded.waiting_step
    (slot : Nat)
    (taskId : String)
    (waits : (after.frames slot).waiting = some taskId) :
    taskId ∉ after.dispatched := by
  rcases took.waiting begins waits with
    ⟨elsewhere, waited⟩ | ⟨_, silent, fresh⟩
  · rcases took.dispatched_cases with same | ⟨added, dispatches, grown⟩
    · rw [same]
      exact recorded.waiting slot taskId waited
    · rw [grown, List.mem_append, List.mem_singleton, not_or]
      refine ⟨recorded.waiting slot taskId waited, ?_⟩
      rintro rfl
      exact elsewhere
        (recorded.alone slot action.slot taskId waited
          (turn_dispatches begins dispatches).1)
  · rcases took.dispatched_cases with same | ⟨added, dispatches, _⟩
    · rw [same]
      exact fun member => fresh (recorded.dispatched taskId member)
    · rw [silent] at dispatches
      cases dispatches

theorem Recorded.alone_step
    (first second : Nat)
    (taskId : String)
    (firstWaits : (after.frames first).waiting = some taskId)
    (secondWaits : (after.frames second).waiting = some taskId) :
    first = second := by
  rcases took.waiting begins firstWaits with
    ⟨_, firstWaited⟩ | ⟨firstActs, _, firstFresh⟩
  · rcases took.waiting begins secondWaits with
      ⟨_, secondWaited⟩ | ⟨_, _, fresh⟩
    · exact recorded.alone first second taskId firstWaited secondWaited
    · exact (fresh (coherent.waiting firstWaited)).elim
  · rcases took.waiting begins secondWaits with
      ⟨_, secondWaited⟩ | ⟨secondActs, _⟩
    · exact (firstFresh (coherent.waiting secondWaited)).elim
    · rw [firstActs, secondActs]

omit coherent in
/-- A task that has been reached is still reached after a step. -/
theorem Recorded.reached_step
    {task : TaskIdentity}
    (stored : task ∈ before.db.taskIdentities) :
    task.id ∈ after.dispatched ∨
      ∃ slot, (after.frames slot).waiting = some task.id := by
  rcases recorded.reached task stored with dispatched | ⟨slot, waited⟩
  · left
    rcases took.dispatched_cases with same | ⟨_, _, grown⟩
    · exact same ▸ dispatched
    · rw [grown]
      exact List.mem_append_left _ dispatched
  · by_cases acts : slot = action.slot
    · subst slot
      obtain ⟨dispatches, succeeds⟩ := dispatches_of_waiting begins waited
      rcases took.histories with ⟨_, grown, _⟩ | ⟨_, _, _, _, fails, _⟩
      · rw [grown, dispatches]
        exact .inl (List.mem_append_right _ (List.mem_singleton.mpr rfl))
      · exact (succeeds fails).elim
    · refine .inr ⟨slot, ?_⟩
      rw [took.frame_other acts (by
        intro idle
        rw [idle] at waited
        cases waited)]
      exact waited

/-- Every step keeps the history about stored tasks. -/
theorem Recorded.step : Recorded after where
  advanced := recorded.advanced_step coherent begins took
  dispatched := recorded.dispatched_step coherent begins took
  once := by
    rcases took.dispatched_cases with same | ⟨added, dispatches, grown⟩
    · rw [same]
      exact recorded.once
    · rw [grown]
      refine List.nodup_append.mpr
        ⟨recorded.once, List.nodup_singleton added, ?_⟩
      rintro earlier member _ isAdded rfl
      rw [List.mem_singleton] at isAdded
      subst earlier
      exact
        recorded.waiting action.slot added (turn_dispatches begins dispatches).1
          member
  waiting := recorded.waiting_step begins took
  alone := recorded.alone_step coherent begins took
  reached := by
    intro task member
    have earlier :
        task ∈ before.db.taskIdentities →
        task.id ∈ after.dispatched ∨
          ∃ slot, (after.frames slot).waiting = some task.id :=
      recorded.reached_step begins took
    rcases took.executed with same | ⟨statement, issues, performed, executed⟩
    · rw [same] at member
      exact earlier member
    · rcases taskIdentities_execute executed with
        same | ⟨created, rfl, appended⟩
      · rw [same] at member
        exact earlier member
      · rw [appended, List.mem_append, List.mem_singleton] at member
        rcases member with old | rfl
        · exact earlier old
        · have waits := waiting_of_creates begins issues
          refine .inr ⟨action.slot, ?_⟩
          rw [took.frame_acting begins performed]
          exact waits

end Histories

theorem recorded_started (files : Files) :
    Recorded (.started .empty files) where
  advanced := by
    intro report member
    cases member
  dispatched := by
    intro taskId member
    cases member
  once := List.nodup_nil
  waiting := by
    intro slot taskId waits
    cases waits
  alone := by
    intro first second taskId waits
    cases waits
  reached := by
    intro task member
    cases member

end Turns

/--
Whatever happens, no task is dispatched twice, and the stored tasks are those
that have been dispatched and those that just one coroutine is to dispatch.
-/
theorem dispatchedOnce_of_run
    {server : Server}
    {files : Files}
    {actions : List Action}
    {final : TaskSystem}
    (run : Run (Fires (step? server)) (.started .empty files) actions final) :
    final.dispatched.Nodup ∧
      ∀ taskId,
        taskId ∈ final.db.taskIdentities.map TaskIdentity.id ↔
          Xor (taskId ∈ final.dispatched)
            (∃! slot, (final.frames slot).waiting = some taskId) := by
  have stepPreserves :
      ∀ (before : TaskSystem) action after,
        Fires (step? server) before action after →
        Coherent before ∧ Recorded before →
        Coherent after ∧ Recorded after := by
    rintro before action after taken ⟨coherent, recorded⟩
    obtain ⟨turn, begins, took⟩ := step_cases taken
    exact ⟨coherent.step begins took, recorded.step coherent begins took⟩
  obtain ⟨coherent, recorded⟩ :=
    run.preserves stepPreserves ⟨coherent_started files, recorded_started files⟩
  refine ⟨recorded.once, fun taskId => ⟨?_, ?_⟩⟩
  · intro stored
    obtain ⟨task, member, rfl⟩ := List.mem_map.mp stored
    rcases recorded.reached task member with dispatched | ⟨slot, waits⟩
    · refine .inl ⟨dispatched, ?_⟩
      rintro ⟨slot, waits, _⟩
      exact recorded.waiting slot task.id waits dispatched
    · refine .inr ⟨⟨slot, waits, ?_⟩, recorded.waiting slot task.id waits⟩
      exact fun other waited => recorded.alone other slot task.id waited waits
  · rintro (⟨dispatched, _⟩ | ⟨⟨slot, waits, _⟩, _⟩)
    · exact recorded.dispatched taskId dispatched
    · exact coherent.waiting waits

/-- A task is created by a request, and dispatched. -/
theorem createdTask_dispatchedOnce :
    ∃ final : TaskSystem,
      final.dispatched = ["t"] ∧
        final.dispatched.Nodup ∧
        ("t" ∈ final.db.taskIdentities.map TaskIdentity.id ↔
          Xor ("t" ∈ final.dispatched)
            (∃! slot, (final.frames slot).waiting = some "t")) := by
  obtain ⟨final, run, reached⟩ :=
    exists_run_of_execute
      (show (execute (step? exampleServer) (.started .empty fun _ => none)
          [.createTask 0 exampleTaskRequest "" "t" 0, .resume 0 {}]).any
          (fun sys => decide (sys.dispatched = ["t"])) = true by
        decide)
  obtain ⟨once, stored⟩ := dispatchedOnce_of_run run
  exact ⟨final, of_decide_eq_true reached, once, stored "t"⟩

/-! ### Steps of the subsystem are steps of the relays -/

/-- The report of a task moves its run on once at most. -/
def MovesOnce (sys : TaskSystem) : Action → Prop
  | .resume slot _ =>
    match sys.frames slot with
    | .advanceRun _ task (some run) =>
      run.status.live = true →
      task.id ∉ sys.advanced.map Prod.fst
    | _ => True
  | _ => True

instance (sys : TaskSystem) (action : Action) :
    Decidable (MovesOnce sys action) :=
  match action with
  | .resume slot _ => by
    unfold MovesOnce
    dsimp only
    split
    · infer_instance
    · infer_instance
  | .taskStatus .. | .taskOutput .. | .createTask .. |
    .submitDeployment .. | .cancelTask .. | .createPipeline .. |
    .runPipeline .. => isTrue trivial

variable {db : TaskDB}

theorem mem_items
    {runId taskId : String} :
    taskId ∈ (db.runSteps runId).map Prod.fst ↔
      ∃ task ∈ db.taskIdentities,
        task.pipelineRunId = some runId ∧ task.id = taskId := by
  simp only [runSteps, List.map_map, List.mem_map, List.mem_filter,
    decide_eq_true_eq, Function.comp_def]
  constructor
  · rintro ⟨task, ⟨member, belongs⟩, rfl⟩
    exact ⟨task, member, belongs, rfl⟩
  · rintro ⟨task, member, belongs, rfl⟩
    exact ⟨task, ⟨member, belongs⟩, rfl⟩

theorem mem_runSteps
    {runId : String}
    {entry : String × Nat} :
    entry ∈ db.runSteps runId ↔
      ∃ task ∈ db.taskIdentities,
        task.pipelineRunId = some runId ∧
          (task.id, task.stepIndex) = entry := by
  simp only [runSteps, List.mem_map, List.mem_filter, decide_eq_true_eq,
    and_assoc]

theorem not_mem_items
    {task : TaskIdentity}
    {runId : String}
    (member : task ∈ db.taskIdentities)
    (other : task.pipelineRunId ≠ some runId) :
    task.id ∉ (db.runSteps runId).map Prod.fst := by
  rw [mem_items]
  rintro ⟨same, sameMember, belongs, sameId⟩
  rw [taskIdentity_unique sameMember member sameId] at belongs
  exact other belongs

section Simulation

variable
    {server : Server}
    {before after : TaskSystem}
    {action : Action}
    {turn : Turn}
    {runId : String}

section Baton

variable
    (begins : Tasks.turn server before action = some turn)
    (took : Took server before action turn after)
    (performed : turn.perform before.db action.now = some after.db)
include begins took performed

theorem Took.relay :
    after.relay runId =
      { made := after.db.runSteps runId
        passed :=
          ((before.advanced ++ turn.advances.toList).map Prod.fst).filter
            fun taskId =>
              decide (taskId ∈ (after.db.runSteps runId).map Prod.fst)
        handed :=
          (before.dispatched ++ turn.dispatches.toList).filter
            fun taskId =>
              decide (taskId ∈ (after.db.runSteps runId).map Prod.fst)
        batons :=
          Function.update (before.relay runId).batons action.slot
            (turn.next.baton runId) } := by
  have batons :
      (after.relay runId).batons =
        Function.update (before.relay runId).batons action.slot
          (turn.next.baton runId) := by
    funext slot
    by_cases acts : slot = action.slot
    · subst slot
      rw [Function.update_self]
      exact congrArg (Frame.baton runId) (took.frame_acting begins performed)
    · rw [Function.update_of_ne acts]
      rcases took.frame slot with
        ⟨_, kept⟩ | ⟨same, _⟩ | ⟨same, _⟩ | ⟨_, _, free, _, reached, _⟩
      · exact congrArg (Frame.baton runId) kept
      · exact (acts same).elim
      · exact (acts same).elim
      · simp only [TaskSystem.relay, reached, free]
        rfl
  rcases took.histories with
    ⟨advanced, dispatched, _⟩ | ⟨_, _, _, _, fails, _⟩
  · simp only [TaskSystem.relay] at batons ⊢
    rw [batons, advanced, dispatched]
  · rw [performed] at fails
    cases fails

theorem Took.relay_withBaton
    (sameSteps : after.db.runSteps runId = before.db.runSteps runId)
    (advancesNone :
      ∀ report,
        turn.advances = some report →
        report.1 ∉ (before.db.runSteps runId).map Prod.fst)
    (dispatchesNone :
      ∀ taskId,
        turn.dispatches = some taskId →
        taskId ∉ (before.db.runSteps runId).map Prod.fst) :
    after.relay runId =
      (before.relay runId).withBaton action.slot (turn.next.baton runId) := by
  have passed :
      ((before.advanced ++ turn.advances.toList).map Prod.fst).filter
          (fun taskId =>
            decide (taskId ∈ (before.db.runSteps runId).map Prod.fst)) =
        (before.relay runId).passed := by
    rw [List.map_append, List.filter_append]
    cases advances : turn.advances with
    | none =>
      simp [TaskSystem.relay]
    | some report =>
      have other := advancesNone report advances
      simp only [Option.toList_some, List.map_cons, List.map_nil,
        List.filter_cons, other, decide_false, Bool.false_eq_true,
        if_false, List.filter_nil, List.append_nil]
      rfl
  have handed :
      (before.dispatched ++ turn.dispatches.toList).filter
          (fun taskId =>
            decide (taskId ∈ (before.db.runSteps runId).map Prod.fst)) =
        (before.relay runId).handed := by
    rw [List.filter_append]
    cases dispatches : turn.dispatches with
    | none =>
      simp [TaskSystem.relay]
    | some taskId =>
      have other := dispatchesNone taskId dispatches
      simp only [Option.toList_some,
        List.filter_cons, other, decide_false, Bool.false_eq_true,
        if_false, List.filter_nil, List.append_nil]
      rfl
  rw [took.relay begins performed, sameSteps, passed, handed]
  rfl

end Baton

theorem recordTurn_baton
    (task : TaskSpec)
    (result : TaskDispatchResult)
    (refusal : Option (String × Nat)) :
    (recordTurn task result refusal).next.baton runId = none := by
  unfold recordTurn
  dsimp only
  split
  · rfl
  · split <;> rfl

/-- A baton that a coroutine holds after a turn that moves no run on. -/
theorem turn_baton
    {baton : Baton String}
    (coherent : Coherent before)
    (begins : Tasks.turn server before action = some turn)
    (performed : turn.perform before.db action.now = some after.db)
    (silent : turn.advances = none)
    (holds : turn.next.baton runId = some baton) :
    (before.frames action.slot).baton runId = some baton ∨
      (∃ item position,
        (before.frames action.slot).baton runId =
            some (.deciding item) ∧
          (item, position) ∈ before.db.runSteps runId ∧
          baton = .making (position + 1)) ∨
      ∃ position,
        baton = .making position ∧
          runId ∉ before.db.runIdentities.map RunIdentity.id := by
  rcases turn_cases begins with ⟨slot, answer, rfl, resumed⟩ | ⟨_, starts⟩
  · have knows := coherent.frames slot
    simp only [Action.slot]
    generalize before.frames slot = frame at resumed knows
    cases resumed with
    | runLive =>
      cases silent
    | @advanced status task run pipeline =>
      unfold advanceTurn at holds
      split at holds
      · cases holds
      · cases holds
      · rename_i step decided
        simp only [Frame.baton,
          TaskFactory.createPipelineStepTask_stepIndex,
          (advanceDecision_launch decided).2] at holds ⊢
        split at holds
        · rename_i same
          cases holds
          subst runId
          refine .inr (.inl ⟨task.id, task.stepIndex, if_pos rfl, ?_, rfl⟩)
          exact mem_runSteps.mpr ⟨task.identity, knows.1.1, knows.1.2.1, rfl⟩
        · cases holds
    | @runStarted body requestedFrom pipeline first rest steps =>
      simp only [Frame.baton] at holds
      split at holds
      · rename_i same
        cases holds
        subst runId
        exact .inr (.inr ⟨first.stepIndex, rfl,
          createPipelineRun_fresh performed⟩)
      · cases holds
    | @runLaunched body requestedFrom launched first =>
      simp only [Frame.baton,
        TaskFactory.createPipelineStepTask_stepIndex] at holds ⊢
      exact .inl holds
    | @handed task refusal accepted =>
      unfold handlerFrame at holds
      split at holds
      · split at holds <;> cases holds
      · cases holds
    | @turnedDown task refusal error refused =>
      rw [recordTurn_baton task (refusedResult error)] at holds
      cases holds
    | deployed | sent =>
      rw [recordTurn_baton] at holds
      cases holds
    | _ =>
      cases holds
  · cases action with
    | resume =>
      cases starts
    | _ =>
      cases starts
      cases holds

theorem runSteps_perform
    {db : TaskDB}
    (performed : turn.perform before.db action.now = some db)
    (createsNone : ∀ task, turn.statement ≠ some (.createTask task)) :
    db.runSteps runId = before.db.runSteps runId := by
  cases issues : turn.statement with
  | none =>
    simp only [Turn.perform, issues, Option.some.injEq] at performed
    rw [performed]
  | some statement =>
    simp only [Turn.perform, issues] at performed
    rcases taskIdentities_execute performed with
      same | ⟨task, rfl, _⟩
    · simp only [runSteps, same]
    · exact (createsNone task issues).elim

/-- Creating a task of a run is making the item that is due. -/
theorem relay_create
    {task : TaskSpec}
    (coherent : Coherent before)
    (recorded : Recorded before)
    (begins : Tasks.turn server before action = some turn)
    (took : Took server before action turn after)
    (performed : turn.perform before.db action.now = some after.db)
    (issues : turn.statement = some (.createTask task)) :
    Relay.Step (before.relay runId) (after.relay runId) := by
  have waits := waiting_of_creates begins issues
  have noBaton : turn.next.baton runId = none := by
    generalize turn.next = frame at waits
    cases frame with
    | dispatching => rfl
    | _ => cases waits
  have silent : turn.dispatches = none ∧ turn.advances = none := by
    refine ⟨(turn_waiting begins waits).1, ?_⟩
    cases advances : turn.advances with
    | none =>
      rfl
    | some report =>
      obtain ⟨_, _, _, _, _, _, _, _, _, shape⟩ :=
        turn_advances begins advances
      rw [shape] at issues
      cases issues
  have executed := performed
  simp only [Turn.perform, issues] at executed
  have grown := taskIdentities_createTask executed
  have fresh := createTask_fresh executed
  by_cases belongs : task.pipelineRunId = some runId
  · have holds :
        (before.relay runId).batons action.slot =
          some (.making task.stepIndex) := by
      rcases turn_cases begins with
        ⟨slot, answer, rfl, resumed⟩ | ⟨_, starts⟩
      · have knows := coherent.frames slot
        simp only [TaskSystem.relay, Action.slot]
        generalize before.frames slot = frame at resumed knows
        cases resumed with
        | created =>
          cases issues
          have sameRun := knows.1.symm.trans belongs
          cases sameRun
          exact if_pos rfl
        | turnedDown | deployed | sent =>
          simp [recordTurn] at issues
        | advanced =>
          unfold advanceTurn at issues
          split at issues <;> cases issues
        | _ =>
          cases issues
      · rw [start_createdTask starts issues] at belongs
        cases belongs
    have steps :
        after.db.runSteps runId =
          before.db.runSteps runId ++ [(task.id, task.stepIndex)] := by
      have sameRun : task.identity.pipelineRunId = some runId :=
        belongs
      simp only [runSteps, grown, List.filter_append, List.map_append,
        List.filter_cons, sameRun, decide_true, if_true,
        List.filter_nil, List.map_cons, List.map_nil]
      rfl
    have stale :
        ∀ {taskId},
          taskId ∈ before.db.taskIdentities.map TaskIdentity.id →
          decide (taskId ∈ (after.db.runSteps runId).map Prod.fst) =
            decide (taskId ∈ (before.db.runSteps runId).map Prod.fst) := by
      intro taskId stored
      have different : taskId ≠ task.id := by
        rintro rfl
        exact fresh stored
      rw [steps]
      simp [different]
    have made :
        after.relay runId =
          { (before.relay runId).withBaton action.slot none with
            made :=
              (before.relay runId).made ++
                [(task.id, task.stepIndex)] } := by
      rw [took.relay begins performed, silent.1, silent.2, noBaton]
      simp only [Option.toList_none, List.append_nil]
      have passed :
          (before.advanced.map Prod.fst).filter (fun taskId =>
              decide (taskId ∈ (after.db.runSteps runId).map Prod.fst)) =
            (before.relay runId).passed := by
        apply List.filter_congr
        intro taskId member
        obtain ⟨report, reported, rfl⟩ := List.mem_map.mp member
        exact stale (recorded.advanced report reported)
      have handed :
          before.dispatched.filter (fun taskId =>
              decide (taskId ∈ (after.db.runSteps runId).map Prod.fst)) =
            (before.relay runId).handed := by
        apply List.filter_congr
        intro taskId member
        exact stale (recorded.dispatched taskId member)
      rw [passed, handed, steps]
      rfl
    rw [made]
    refine .make action.slot task.id task.stepIndex holds ?_
    intro isItem
    obtain ⟨old, oldMember, _, oldId⟩ := mem_items.mp isItem
    exact fresh (List.mem_map.mpr ⟨old, oldMember, oldId⟩)
  · have steps : after.db.runSteps runId = before.db.runSteps runId := by
      have otherRun : task.identity.pipelineRunId ≠ some runId :=
        belongs
      simp only [runSteps, grown, List.filter_append, List.filter_cons,
        otherRun, decide_false, Bool.false_eq_true, if_false,
        List.filter_nil, List.append_nil]
    rw [took.relay_withBaton begins performed steps
      (by simp [silent.2]) (by simp [silent.1]), noBaton]
    exact .drop action.slot

/-- Finding a run live is passing the task whose report moves it on. -/
theorem relay_advance
    {report : String × TaskStatus}
    (coherent : Coherent before)
    (once : MovesOnce before action)
    (begins : Tasks.turn server before action = some turn)
    (took : Took server before action turn after)
    (performed : turn.perform before.db action.now = some after.db)
    (advances : turn.advances = some report) :
    Relay.Step (before.relay runId) (after.relay runId) := by
  obtain ⟨slot, answer, status, task, run, rfl, suspended, live, rfl,
    shape⟩ := turn_advances begins advances
  have steps : after.db.runSteps runId = before.db.runSteps runId := by
    refine runSteps_perform performed ?_
    rw [shape]
    rintro task ⟨⟩
  have knows := coherent.frames slot
  rw [suspended] at knows
  obtain ⟨member, belongs, _⟩ := knows
  by_cases same : run.id = runId
  · subst runId
    have isItem : task.id ∈ (before.db.runSteps run.id).map Prod.fst :=
      mem_items.mpr ⟨task.identity, member, belongs, rfl⟩
    have unpassed : task.id ∉ (before.relay run.id).passed := by
      intro passed
      simp only [MovesOnce, suspended] at once
      exact once live (List.mem_filter.mp passed).1
    have passes :
        after.relay run.id =
          { (before.relay run.id).withBaton slot (some (.deciding task.id)) with
            passed := (before.relay run.id).passed ++ [task.id] } := by
      rw [took.relay begins performed, steps, shape]
      simp only [Option.toList_none, List.append_nil, Option.toList_some,
        List.map_append, List.map_cons, List.map_nil, List.filter_append,
        List.filter_cons, isItem, decide_true, if_true, List.filter_nil,
        Frame.baton, Action.slot]
      rfl
    rw [passes]
    exact .pass slot task.id isItem unpassed
  · have noBaton : turn.next.baton runId = none := by
      rw [shape]
      exact if_neg same
    have otherRun : task.identity.pipelineRunId ≠ some runId := by
      intro sameRun
      exact same (Option.some.inj (belongs.symm.trans sameRun))
    rw [took.relay_withBaton begins performed steps ?_ ?_, noBaton]
    · exact .drop slot
    · intro report reports
      rw [advances] at reports
      cases reports
      exact not_mem_items member otherRun
    · intro taskId dispatches
      rw [shape] at dispatches
      cases dispatches

theorem Coherent.baton
    (coherent : Coherent before)
    {slot : Nat}
    {baton : Baton String}
    (holds : (before.frames slot).baton runId = some baton) :
    runId ∈ before.db.runIdentities.map RunIdentity.id := by
  have knows := coherent.frames slot
  generalize before.frames slot = frame at holds knows
  cases frame with
  | runCreated body requestedFrom launched first =>
    simp only [Frame.baton] at holds
    split at holds
    · rename_i same
      obtain ⟨_, _, _, member, _⟩ := knows
      exact List.mem_map.mpr ⟨_, member, same⟩
    · cases holds
  | creating task launched currentStep =>
    simp only [Frame.baton] at holds
    split at holds
    · rename_i same
      obtain ⟨run, _, _, member, named, _⟩ := knows.2 launched knows.1
      exact List.mem_map.mpr ⟨run, member, named.trans same⟩
    · cases holds
  | advancePipeline status task run pipeline =>
    simp only [Frame.baton] at holds
    split at holds
    · rename_i same
      exact List.mem_map.mpr ⟨_, knows.1.2.2, same⟩
    · cases holds
  | _ =>
    cases holds

theorem Coherent.runSteps_fresh
    (coherent : Coherent before)
    (fresh : runId ∉ before.db.runIdentities.map RunIdentity.id) :
    before.db.runSteps runId = [] := by
  rw [List.eq_nil_iff_forall_not_mem]
  intro entry member
  obtain ⟨task, taskMember, belongs, _⟩ := mem_runSteps.mp member
  obtain ⟨run, _, _, runMember, named, _⟩ :=
    coherent.tasks task taskMember runId belongs
  exact fresh (List.mem_map.mpr ⟨run, runMember, named⟩)

theorem Coherent.noBaton_fresh
    (coherent : Coherent before)
    (fresh : runId ∉ before.db.runIdentities.map RunIdentity.id)
    (slot : Nat) :
    (before.relay runId).batons slot = none := by
  cases holds : (before.relay runId).batons slot with
  | none =>
    rfl
  | some baton =>
    exact (fresh (coherent.baton holds)).elim

theorem baton_of_dispatches
    {taskId : String}
    (begins : Tasks.turn server before action = some turn)
    (dispatches : turn.dispatches = some taskId) :
    turn.next.baton runId = none := by
  rcases turn_cases begins with ⟨slot, answer, rfl, resumed⟩ | ⟨_, starts⟩
  · generalize before.frames slot = frame at resumed
    cases resumed with
    | @handed task refusal accepted =>
      dsimp only
      unfold handlerFrame
      split
      · split <;> rfl
      · rfl
    | @turnedDown task refusal error refused =>
      exact recordTurn_baton task (refusedResult error) refusal
    | advanced =>
      rw [(advanceTurn_quiet ..).2.1] at dispatches
      cases dispatches
    | _ =>
      cases dispatches
  · cases action with
    | resume =>
      cases starts
    | _ =>
      cases starts
      cases dispatches

theorem relay_dispatch
    {taskId : String}
    (recorded : Recorded before)
    (begins : Tasks.turn server before action = some turn)
    (took : Took server before action turn after)
    (performed : turn.perform before.db action.now = some after.db)
    (dispatches : turn.dispatches = some taskId) :
    Relay.Step (before.relay runId) (after.relay runId) := by
  obtain ⟨waited, waitsNone, advancesNone, createsNone⟩ :=
    turn_dispatches begins dispatches
  have steps : after.db.runSteps runId = before.db.runSteps runId :=
    runSteps_perform performed createsNone
  have noBaton : turn.next.baton runId = none :=
    baton_of_dispatches begins dispatches
  by_cases isItem : taskId ∈ (before.db.runSteps runId).map Prod.fst
  · have noneHeld : (before.relay runId).batons action.slot = none := by
      simp only [TaskSystem.relay]
      generalize before.frames action.slot = frame at waited
      cases frame with
      | dispatching => rfl
      | _ => cases waited
    have hands : after.relay runId =
          { before.relay runId with
            handed := (before.relay runId).handed ++ [taskId] } := by
      rw [took.relay begins performed, steps, noBaton, advancesNone,
        dispatches, ← noneHeld, Function.update_eq_self]
      simp only [Option.toList_none, List.append_nil, Option.toList_some,
        List.filter_append, List.filter_cons, isItem, decide_true,
        if_true, List.filter_nil]
      rfl
    rw [hands]
    refine .hand taskId isItem ?_
    intro handed
    exact recorded.waiting action.slot taskId waited
      (List.mem_filter.mp handed).1
  · rw [took.relay_withBaton begins performed steps ?_ ?_, noBaton]
    · exact .drop action.slot
    · simp [advancesNone]
    · intro other otherDispatches
      rw [dispatches] at otherDispatches
      cases otherDispatches
      exact isItem

/--
While reports move their runs on once at most, every step of the subsystem is
a step of the relay of every run.
-/
theorem relay_step
    (coherent : Coherent before)
    (recorded : Recorded before)
    (once : MovesOnce before action)
    (begins : Tasks.turn server before action = some turn)
    (took : Took server before action turn after)
    (runId : String) :
    Relay.Step (before.relay runId) (after.relay runId) := by
  rcases took.histories with
    ⟨_, _, _, performed⟩ | ⟨advanced, dispatched, _, same, _, frames⟩
  · by_cases creates : ∃ task, turn.statement = some (.createTask task)
    · obtain ⟨task, issues⟩ := creates
      exact relay_create coherent recorded begins took performed issues
    · cases advances : turn.advances with
      | some report =>
        exact relay_advance coherent once begins took performed advances
      | none =>
        cases dispatches : turn.dispatches with
        | some taskId =>
          exact relay_dispatch recorded begins took performed dispatches
        | none =>
          have steps : after.db.runSteps runId = before.db.runSteps runId :=
            runSteps_perform performed fun task issues => creates ⟨task, issues⟩
          rw [took.relay_withBaton begins performed steps
            (by simp [advances]) (by simp [dispatches])]
          cases holds : turn.next.baton runId with
          | none =>
            exact .drop action.slot
          | some baton =>
            rcases turn_baton coherent begins performed advances holds with
              kept | ⟨item, position, held, member, rfl⟩ |
              ⟨position, rfl, fresh⟩
            · have unchanged :
                  (before.relay runId).withBaton action.slot
                      (some baton) =
                    before.relay runId := by
                have sameBaton :
                    (before.relay runId).batons action.slot = some baton :=
                  kept
                rw [Relay.withBaton, ← sameBaton, Function.update_eq_self]
              rw [unchanged]
              exact .stay
            · exact .follow action.slot item position held member
            · exact .start action.slot position
                (coherent.runSteps_fresh fresh)
                (coherent.noBaton_fresh fresh)
  · have dropped :
        after.relay runId =
          (before.relay runId).withBaton action.slot none := by
      have batons :
          (fun slot => (after.frames slot).baton runId) =
            Function.update
              (fun slot => (before.frames slot).baton runId)
              action.slot none := by
        funext slot
        by_cases acts : slot = action.slot
        · subst slot
          simp [frames, Frame.baton]
        · simp [frames, acts]
      simp only [TaskSystem.relay, Relay.withBaton, advanced, dispatched,
        same, batons]
    rw [dropped]
    exact .drop action.slot

end Simulation

/-! ### Runs of the subsystem -/

/-- What holds in every state while reports move their runs on once. -/
structure PipelineSound (sys : TaskSystem) : Prop where
  coherent : Coherent sys
  recorded : Recorded sys
  relays : ∀ runId, (sys.relay runId).Valid

theorem pipelineSound_started (files : Files) :
    PipelineSound (.started .empty files) where
  coherent := coherent_started files
  recorded := recorded_started files
  relays := fun _ => Relay.valid_of_empty rfl fun _ => rfl

theorem PipelineSound.step
    {server : Server}
    {before after : TaskSystem}
    {action : Action}
    (sound : PipelineSound before)
    (once : MovesOnce before action)
    (taken : step? server before action = some after) :
    PipelineSound after := by
  obtain ⟨turn, begins, took⟩ := step_cases taken
  exact {
    coherent := sound.coherent.step begins took
    recorded := sound.recorded.step sound.coherent begins took
    relays := fun runId =>
      (sound.relays runId).step
        (relay_step sound.coherent sound.recorded once begins took runId)
  }

end RpaPlatform.Tasks
