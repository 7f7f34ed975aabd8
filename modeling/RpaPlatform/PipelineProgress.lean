import RpaPlatform.PipelinePolicy
import RpaPlatform.TaskFinality

namespace RpaPlatform.Tasks

open TaskDB Transition

/-!
# Runs that get stuck

A live run is moved on by the report on its last task.  `advance_pipeline` is
called for completed, failed and timed out tasks, and a refused dispatch fails
its run, but nothing is called for a task that is cancelled: neither the
cancel endpoint nor an agent's report of a cancellation touches the run, which
stays live with no task left.

The invariant behind the positive result says that every live run has a task
that is not terminal, or a suspended coroutine that is going to move it on.
-/

/-- A run has a task that is not in a terminal status. -/
def HasOpenTask (db : TaskDB) (runId : String) : Prop :=
  ∃ row,
    row ∈ db.tasks.rows ∧
      row.pipelineRunId = some runId ∧
      row.status.terminal = false

def RunLive (db : TaskDB) (runId : String) : Prop :=
  ∃ status, db.runStatus runId = some status ∧ status.live = true

/--
In every state that is reached and in which no coroutine is suspended, every
run that is queued or running has a task that is not terminal.
-/
def NoRunStuck
    (step : TaskSystem → Action → TaskSystem → Prop) : Prop :=
  ∀ {files : Files} {final : TaskSystem} {actions : List Action},
    Run step (.started .empty files) actions final →
    (∀ slot, final.frames slot = .idle) →
    ∀ run ∈ final.db.pipelineRuns.rows,
      run.status.live = true →
      HasOpenTask final.db run.id

/-- A suspended coroutine is going to move a run on, or to fail it. -/
def MovesOn (db : TaskDB) (runId : String) : Frame → Prop
  | .statusBroadcast taskId status =>
    status.advances = true ∧
      ∃ task ∈ db.taskIdentities,
        task.id = taskId ∧ task.pipelineRunId = some runId
  | .advanceTask _ (some task) =>
    task.pipelineRunId = some runId
  | .advanceRun _ _ (some run) =>
    run.id = runId ∧ run.status.live = true
  | frame =>
    frame.serves runId = true

/-- A live run has an open task, or a coroutine that moves it on. -/
def Carried (sys : TaskSystem) (runId : String) : Prop :=
  HasOpenTask sys.db runId ∨ ∃ slot, MovesOn sys.db runId (sys.frames slot)

def Frame.cancels (answer : Answer) : Frame → Option String
  | .cancelSending taskId _ => if answer.sent then some taskId else none
  | _ => none

/-- The task that the next turn cancels. -/
def cancels (sys : TaskSystem) : Action → Option String
  | .taskStatus _ _ data _ =>
    if TaskStatus.ofText data.status = .cancelled then
      some data.taskId
    else
      none
  | .resume slot answer =>
    (sys.frames slot).cancels answer
  | _ =>
    none

/--
The condition under which no run gets stuck: when a task of a live run is
cancelled, it is terminal already, the run has another open task, or a
coroutine is going to move the run on.
-/
def SparesLastTask (sys : TaskSystem) (action : Action) : Prop :=
  ∀ taskId row runId,
    cancels sys action = some taskId →
    sys.db.getTask taskId = some row →
    row.pipelineRunId = some runId →
    RunLive sys.db runId →
    row.status.terminal = true ∨
      (∃ other ∈ sys.db.tasks.rows,
        other.id ≠ taskId ∧
          other.pipelineRunId = some runId ∧
          other.status.terminal = false) ∨
      ∃ slot, MovesOn sys.db runId (sys.frames slot)

/--
What `uuid4` guarantees: its values are not empty, and a task that is about
to be created has an id that is not in use.
-/
def FreshIds (sys : TaskSystem) : Action → Prop
  | .resume slot answer =>
    match sys.frames slot with
    | .runPipeline _ _ _ =>
      answer.freshId ≠ ""
    | .creating task _ _ =>
      task.id ∉ sys.db.taskIdentities.map TaskIdentity.id
    | _ =>
      True
  | _ =>
    True

def KeepsMoving (sys : TaskSystem) (action : Action) : Prop :=
  FreshIds sys action ∧ SparesLastTask sys action

def Standalone (db : TaskDB) (taskId : String) : Prop :=
  ∃ task ∈ db.taskIdentities, task.id = taskId ∧ task.pipelineRunId = none

/-- What keeps a coroutine from ending before its run is moved on. -/
def FrameSteady (db : TaskDB) : Frame → Prop
  | .creating task _ _ =>
    task.kind = .agent ∧ (task.getComponent "execution").isSome = true
  | .dispatching task (some _) =>
    task.kind = .agent ∧ (task.getComponent "execution").isSome = true
  | .deploying _ refusal =>
    refusal = none
  | .preparing taskId =>
    Standalone db taskId
  | .prepared taskId =>
    Standalone db taskId
  | .prepareFailed taskId _ =>
    Standalone db taskId
  | _ =>
    True

/-- Coroutines are steady, and no run has an empty id. -/
structure Steady (sys : TaskSystem) : Prop where
  frames : ∀ slot, FrameSteady sys.db (sys.frames slot)
  runs : ∀ run ∈ sys.db.runIdentities, run.id ≠ ""

/-! ### Coroutines stay steady -/

section Growth

variable
    {before after : TaskDB}
    (grows : Extends before after)

include grows

theorem Standalone.mono
    {taskId : String}
    (standalone : Standalone before taskId) :
    Standalone after taskId := by
  obtain ⟨task, member, rest⟩ := standalone
  exact ⟨task, grows.tasks.subset member, rest⟩

theorem FrameSteady.mono
    {frame : Frame}
    (steady : FrameSteady before frame) :
    FrameSteady after frame := by
  cases frame with
  | dispatching task refusal =>
    cases refusal <;> exact steady
  | preparing | prepared | prepareFailed =>
    exact Standalone.mono grows steady
  | _ =>
    exact steady

theorem MovesOn.mono
    {runId : String}
    {frame : Frame}
    (moves : MovesOn before runId frame) :
    MovesOn after runId frame := by
  cases frame with
  | statusBroadcast taskId status =>
    obtain ⟨advances, task, member, rest⟩ := moves
    exact ⟨advances, task, grows.tasks.subset member, rest⟩
  | advanceTask status task =>
    cases task <;> exact moves
  | advanceRun status task run =>
    cases run <;> exact moves
  | _ =>
    exact moves

end Growth

section Step

variable
    {server : Server}
    {before after : TaskSystem}
    {action : Action}
    {turn : Turn}

variable {db : TaskDB}

theorem createPipelineStepTask_steady
    (agentId session runId : String)
    (step : PipelineStepRow)
    (requestedBy requestedFrom taskId : String)
    (made : String)
    (stepIndex : Nat) :
    FrameSteady db
      (.creating
        (TaskFactory.createPipelineStepTask agentId session runId step
          requestedBy requestedFrom taskId).val made stepIndex) :=
  (TaskFactory.createPipelineStepTask agentId session runId step
    requestedBy requestedFrom taskId).property

theorem recordTurn_steady
    (task : TaskSpec)
    (result : TaskDispatchResult)
    (refusal : Option (String × Nat)) :
    FrameSteady db (recordTurn task result refusal).next := by
  rcases recordTurn_next task result refusal with
    idle | ⟨runId, currentStep, _, _, refusing⟩
  · rw [idle]
    trivial
  · rw [refusing]
    trivial

theorem advanceTurn_steady
    (status : TaskStatus)
    (task : TaskRow)
    (run : PipelineRun)
    (pipeline : Pipeline)
    (freshId : String) :
    FrameSteady db (advanceTurn status task run pipeline freshId).next := by
  unfold advanceTurn
  split
  · trivial
  · trivial
  · exact createPipelineStepTask_steady ..

theorem handlerFrame_steady
    {task : TaskSpec}
    {refusal : Option (String × Nat)}
    (answer : Answer)
    (steady : FrameSteady db (.dispatching task refusal)) :
    FrameSteady db (handlerFrame task refusal answer) := by
  unfold handlerFrame
  split
  · split <;> trivial
  · rename_i deployment
    cases refusal with
    | none =>
      exact (rfl : none = none)
    | some failing =>
      have ofAgent : task.kind = .agent := steady.1
      rw [deployment] at ofAgent
      cases ofAgent

theorem Resumed.nextSteady
    {answer : Answer}
    {frame : Frame}
    (resumed : Resumed server db answer frame turn)
    (steady : FrameSteady db frame) :
    FrameSteady db turn.next := by
  cases resumed with
  | advanced =>
    exact advanceTurn_steady ..
  | runLaunched =>
    exact createPipelineStepTask_steady ..
  | created | packagingRaised | preparedRaised | packaged =>
    exact steady
  | handed =>
    exact handlerFrame_steady answer steady
  | @turnedDown task refusal error refused =>
    exact recordTurn_steady task (refusedResult error) refusal
  | @deployed task refusal =>
    exact recordTurn_steady task acceptedResult refusal
  | @sent task sent refusal =>
    exact recordTurn_steady task (agentResult sent) refusal
  | _ =>
    trivial

theorem start_nextSteady
    (starts : start before action = some turn) :
    FrameSteady db turn.next := by
  cases action with
  | resume =>
    cases starts
  | _ =>
    cases starts
    trivial

theorem turn_runId
    {runId pipelineId agentId session requestedBy requestedFrom : String}
    (fresh : FreshIds before action)
    (begins : Tasks.turn server before action = some turn)
    (creates :
      turn.statement =
        some (.createPipelineRun runId pipelineId agentId session
          requestedBy requestedFrom)) :
    runId ≠ "" := by
  rcases turn_cases begins with ⟨slot, answer, rfl, resumed⟩ | ⟨_, starts⟩
  · simp only [FreshIds] at fresh
    generalize before.frames slot = frame at resumed fresh
    cases resumed with
    | runStarted =>
      cases creates
      exact fresh
    | turnedDown | deployed | sent =>
      simp [recordTurn] at creates
    | advanced =>
      unfold advanceTurn at creates
      split at creates <;> cases creates
    | _ =>
      cases creates
  · cases action with
    | resume =>
      cases starts
    | _ =>
      cases starts
      cases creates

/-- Every step keeps the coroutines steady. -/
theorem Steady.step
    (steady : Steady before)
    (coherent : Coherent before)
    (fresh : FreshIds before action)
    (begins : Tasks.turn server before action = some turn)
    (took : Took server before action turn after) :
    Steady after := by
  have grows := took.extends_db
  refine ⟨?_, ?_⟩
  · intro slot
    rcases took.frame slot with
      ⟨_, kept⟩ | ⟨_, idle, _⟩ | ⟨acts, reached, performed⟩ |
      ⟨taskId, _, _, prepares, reached, _⟩
    · rw [kept]
      exact (steady.frames slot).mono grows
    · rw [idle]
      trivial
    · rw [reached]
      rcases turn_cases begins with
        ⟨acting, answer, rfl, resumed⟩ | ⟨_, starts⟩
      · exact (resumed.nextSteady (steady.frames acting)).mono grows
      · exact start_nextSteady starts
    · rw [reached]
      obtain ⟨acting, answer, task, refusal, rfl, suspended, rfl, _⟩ :=
        prepares_running begins prepares
      have stored := coherent.frames acting
      have standalone := steady.frames acting
      rw [suspended] at stored standalone
      refine Standalone.mono grows ⟨task.identity, stored.1, rfl, ?_⟩
      rw [stored.2, standalone]
      rfl
  · intro run member
    rcases took.executed with same | ⟨statement, issues, _, executed⟩
    · rw [same] at member
      exact steady.runs run member
    · rcases runIdentities_execute executed with
        same | ⟨_, _, _, _, _, _, rfl, appended⟩
      · rw [same] at member
        exact steady.runs run member
      · rw [appended, List.mem_append, List.mem_singleton] at member
        rcases member with earlier | rfl
        · exact steady.runs run earlier
        · exact turn_runId fresh begins issues

/-! ### Every step carries the runs on -/

theorem identity_of_mem
    {row : TaskRow}
    (member : row ∈ db.tasks.rows) :
    row.identity ∈ db.taskIdentities :=
  List.mem_map_of_mem member

theorem eq_cancelled_of_terminal
    {status : TaskStatus}
    (terminal : status.terminal = true)
    (stays : status.advances = false) :
    status = .cancelled := by
  cases status with
  | cancelled =>
    rfl
  | queued | running | other =>
    cases terminal
  | completed | failed | timeout =>
    cases stays

variable {runId : String}

theorem movesOn_refused
    {refusal : Option (String × Nat)}
    (task : TaskSpec)
    (error : String)
    (belongs : refusal.map Prod.fst = some runId) :
    MovesOn db runId (recordTurn task (refusedResult error) refusal).next := by
  obtain ⟨⟨failing, currentStep⟩, rfl, rfl⟩ :=
    Option.map_eq_some_iff.mp belongs
  exact decide_eq_true rfl

/--
A turn that gives a task of a run a terminal status leaves the coroutine to
move the run on, or cancels the task.
-/
theorem turn_ends
    {task : TaskIdentity}
    {status : TaskStatus}
    {detail : StatusDetail}
    {actor : String}
    (coherent : Coherent before)
    (steady : Steady before)
    (begins : Tasks.turn server before action = some turn)
    (issues :
      turn.statement = some (.updateTaskStatus task.id status detail actor))
    (terminal : status.terminal = true)
    (stored : task ∈ before.db.taskIdentities)
    (belongs : task.pipelineRunId = some runId) :
    MovesOn before.db runId turn.next ∨
      cancels before action = some task.id := by
  have ofRun :
      ∀ {other : TaskIdentity} {ofOther : Option String},
        other ∈ before.db.taskIdentities →
        other.id = task.id →
        other.pipelineRunId = ofOther →
        ofOther = some runId := by
    intro other ofOther otherStored sameId otherBelongs
    rw [taskIdentity_unique otherStored stored sameId] at otherBelongs
    exact otherBelongs.symm.trans belongs
  rcases turn_cases begins with ⟨slot, answer, rfl, resumed⟩ | ⟨_, starts⟩
  · have knows := coherent.frames slot
    have steadily := steady.frames slot
    show
      MovesOn before.db runId turn.next ∨
        (before.frames slot).cancels answer = some task.id
    generalize before.frames slot = frame at resumed knows steadily ⊢
    cases resumed with
    | @turnedDown spec refusal error refused =>
      have recorded :
          (recordTurn spec (refusedResult error) refusal).statement =
            some (.updateTaskStatus task.id status detail actor) :=
        issues
      have same := (recordTurn_statement recorded).1
      exact .inl (movesOn_refused spec error (ofRun knows.1 same.symm knows.2))
    | @deployed spec refusal =>
      have recorded :
          (recordTurn spec acceptedResult refusal).statement =
            some (.updateTaskStatus task.id status detail actor) :=
        issues
      cases (recordTurn_statement recorded).2
      cases terminal
    | @sent spec sent refusal =>
      obtain ⟨same, recorded⟩ := recordTurn_statement issues
      cases sent with
      | true =>
        cases recorded
        cases terminal
      | false =>
        exact .inl
          (movesOn_refused spec "Agent not connected"
            (ofRun knows.1 same.symm knows.2))
    | cancelSent sent =>
      cases issues
      exact .inr (if_pos sent)
    | packaged | prepareFailed =>
      cases issues
      obtain ⟨other, otherStored, sameId, standalone⟩ := steadily
      cases ofRun otherStored sameId standalone
    | advanced =>
      obtain ⟨_, _, other⟩ := advanceTurn_statement issues
      cases other
    | _ =>
      cases issues
  · obtain ⟨slot, clientId, data, now, rfl, same, rfl⟩ :=
      start_updates starts issues
    cases starts
    cases advances : (TaskStatus.ofText data.status).advances with
    | true =>
      exact .inl ⟨advances, task, stored, same.symm, belongs⟩
    | false =>
      have cancelled : TaskStatus.ofText data.status = .cancelled :=
        eq_cancelled_of_terminal terminal advances
      exact .inr ((if_pos cancelled).trans (congrArg some same))

theorem mem_runIdentities
    {status : RunStatus}
    (found : db.runStatus runId = some status) :
    runId ∈ db.runIdentities.map RunIdentity.id := by
  obtain ⟨row, foundRow, _⟩ := Option.map_eq_some_iff.mp found
  obtain ⟨member, rfl⟩ := db.pipelineRuns.find?_eq_some_iff.mp foundRow
  exact List.mem_map_of_mem (List.mem_map_of_mem member)

theorem live_execute
    {db after : TaskDB}
    {now : Int}
    {statement : Statement}
    (executed : db.execute now statement = some after)
    (dead : ¬ RunLive db runId)
    (live : RunLive after runId) :
    (∃ pipelineId agentId session requestedBy requestedFrom,
      statement =
        .createPipelineRun runId pipelineId agentId session requestedBy
          requestedFrom) ∨
      ∃ status currentStep,
        statement = .updatePipelineRunStatus runId status currentStep ∧
          status.live = true := by
  rcases runStatus_execute executed runId with
    ⟨absent, created⟩ | ⟨status, currentStep, rfl, updated⟩ | same
  · left
    obtain ⟨run, member, rfl⟩ :=
      List.mem_map.mp (mem_runIdentities created)
    have unstored : run ∉ db.runIdentities := by
      intro stored
      have isStored := runStatus_isSome (List.mem_map_of_mem stored)
      rw [absent] at isStored
      cases isStored
    rcases runIdentities_execute executed with
      same | ⟨_, _, _, _, _, _, rfl, appended⟩
    · rw [same] at member
      exact (unstored member).elim
    · rw [appended, List.mem_append, List.mem_singleton] at member
      rcases member with stored | rfl
      · exact (unstored stored).elim
      · exact ⟨_, _, _, _, _, rfl⟩
  · obtain ⟨reached, isReached, isLive⟩ := live
    rw [updated, Option.map_eq_some_iff] at isReached
    obtain ⟨_, _, rfl⟩ := isReached
    exact .inr ⟨status, currentStep, rfl, isLive⟩
  · unfold RunLive at dead live
    rw [same] at live
    exact (dead live).elim

/-- The coroutine that makes a run live moves it on. -/
theorem turn_revives
    (begins : Tasks.turn server before action = some turn)
    (performed : turn.perform before.db action.now = some db)
    (dead : ¬ RunLive before.db runId)
    (live : RunLive db runId) :
    MovesOn db runId turn.next := by
  cases issues : turn.statement with
  | none =>
    simp only [Turn.perform, issues, Option.some.injEq] at performed
    rw [performed] at dead
    exact (dead live).elim
  | some statement =>
    simp only [Turn.perform, issues] at performed
    rcases turn_cases begins with
      ⟨slot, answer, rfl, resumed⟩ | ⟨_, starts⟩
    · generalize before.frames slot = frame at resumed
      rcases live_execute performed dead live with
        ⟨_, _, _, _, _, rfl⟩ | ⟨status, currentStep, rfl, isLive⟩
      · cases resumed with
        | runStarted =>
          cases issues
          exact decide_eq_true rfl
        | turnedDown | deployed | sent =>
          simp [recordTurn] at issues
        | advanced =>
          obtain ⟨_, _, other⟩ := advanceTurn_statement issues
          cases other
        | _ =>
          cases issues
      · cases resumed with
        | advanced =>
          unfold advanceTurn at issues ⊢
          split at issues
          · cases issues
            cases isLive
          · cases issues
            cases isLive
          · cases issues
            exact decide_eq_true rfl
        | runLaunched =>
          cases issues
          exact decide_eq_true rfl
        | refused =>
          cases issues
          cases isLive
        | turnedDown | deployed | sent =>
          simp [recordTurn] at issues
        | _ =>
          cases issues
    · rcases live_execute performed dead live with
        ⟨_, _, _, _, _, rfl⟩ | ⟨_, _, rfl, _⟩ <;>
        cases action <;> cases starts <;> cases issues

theorem hasOpenTask_of_getTask
    {taskId runId : String}
    {row : TaskRow}
    (found : db.getTask taskId = some row)
    (belongs : row.pipelineRunId = some runId)
    (isOpen : row.status.terminal = false) :
    HasOpenTask db runId :=
  ⟨row, (db.tasks.find?_eq_some_iff.mp found).1, belongs, isOpen⟩

theorem getPipelineRun_of_live
    (live : RunLive db runId) :
    ∃ run,
      db.getPipelineRun runId = some run ∧
        run.id = runId ∧
        run.status.live = true := by
  obtain ⟨status, found, isLive⟩ := live
  obtain ⟨row, foundRow, rfl⟩ := Option.map_eq_some_iff.mp found
  refine ⟨{ row with tasks := db.tasksOfRun runId }, ?_,
    KeyedTable.key_of_find? foundRow, isLive⟩
  unfold getPipelineRun
  rw [foundRow]
  rfl

theorem live_of_update
    {db after : TaskDB}
    {now : Int}
    {status : RunStatus}
    {currentStep : Option Nat}
    (executed :
      db.execute now
        (.updatePipelineRunStatus runId status currentStep) = some after)
    (live : RunLive after runId) :
    status.live = true := by
  cases executed
  obtain ⟨reached, found, isLive⟩ := live
  rw [runStatus_updatePipelineRunStatus, Option.map_eq_some_iff] at found
  obtain ⟨_, _, rfl⟩ := found
  exact isLive

theorem hasOpenTask_of_running
    {db after : TaskDB}
    {now : Int}
    {task : TaskIdentity}
    {detail : StatusDetail}
    {actor : String}
    (executed :
      db.execute now (.updateTaskStatus task.id .running detail actor) =
        some after)
    (stored : task ∈ db.taskIdentities)
    (belongs : task.pipelineRunId = some runId) :
    HasOpenTask after runId := by
  obtain ⟨row, member, rfl⟩ := List.mem_map.mp stored
  have found : db.getTask row.id = some row :=
    db.tasks.find?_eq_some_iff.mpr ⟨member, rfl⟩
  cases executed
  have lookup :=
    db.getTask_updateTaskStatus now row.id .running detail actor row.id
  rw [if_pos rfl, found] at lookup
  exact hasOpenTask_of_getTask lookup belongs rfl

/-- The coroutine that moves a run on does so at its next turn, too. -/
theorem Resumed.movesOn
    {answer : Answer}
    {slot : Nat}
    {now : Int}
    (resumed : Resumed server before.db answer (before.frames slot) turn)
    (coherent : Coherent before)
    (steady : Steady before)
    (performed : turn.perform before.db now = some db)
    (moves : MovesOn before.db runId (before.frames slot))
    (wasLive : RunLive before.db runId)
    (isLive : RunLive db runId) :
    MovesOn db runId turn.next ∨ HasOpenTask db runId := by
  have knows := coherent.frames slot
  have steadily := steady.frames slot
  generalize before.frames slot = frame at resumed knows steadily moves
  cases resumed with
  | @reportAdvances taskId status advances =>
    cases performed
    obtain ⟨_, task, stored, sameId, belongs⟩ := moves
    obtain ⟨row, member, rfl⟩ := List.mem_map.mp stored
    have found : before.db.getTask taskId = some row :=
      before.db.tasks.find?_eq_some_iff.mpr ⟨member, sameId⟩
    left
    rw [Turn.await, found]
    exact belongs
  | reportEnds ends =>
    rw [moves.1] at ends
    cases ends
  | @taskFound status task named belongs nonempty =>
    cases performed
    have same : named = runId :=
      Option.some.inj (belongs.symm.trans moves)
    subst named
    obtain ⟨run, found, sameId, live⟩ := getPipelineRun_of_live wasLive
    left
    rw [Turn.await, found]
    exact ⟨sameId, live⟩
  | @taskStandalone status task standalone =>
    have belongs : task.pipelineRunId = some runId := moves
    obtain ⟨status, found, _⟩ := wasLive
    obtain ⟨run, member, rfl⟩ :=
      List.mem_map.mp (mem_runIdentities found)
    rw [belongs] at standalone
    rcases standalone with missing | blank
    · cases missing
    · exact (steady.runs run member (Option.some.inj blank)).elim
  | runLive live =>
    exact .inl (decide_eq_true moves.1)
  | runOver isOver =>
    rw [moves.2] at isOver
    cases isOver
  | @advanced status task run pipeline =>
    have same : run.id = runId := of_decide_eq_true moves
    subst runId
    left
    unfold advanceTurn at performed ⊢
    split at performed
    · cases live_of_update performed isLive
    · cases live_of_update performed isLive
    · exact decide_eq_true rfl
  | pipelineMissing =>
    obtain ⟨_, _, missing, _⟩ := knows
    cases missing
  | runLaunched =>
    exact .inl moves
  | @created task made currentStep =>
    have same : made = runId := of_decide_eq_true moves
    subst runId
    right
    have lookup := getTask_createTask performed task.id
    rw [if_pos rfl] at lookup
    exact hasOpenTask_of_getTask lookup knows.1 rfl
  | @handed task refusal refused =>
    have belongs : refusal.map Prod.fst = some runId :=
      of_decide_eq_true moves
    obtain ⟨failing, rfl, rfl⟩ := Option.map_eq_some_iff.mp belongs
    left
    show MovesOn db failing.1 (handlerFrame task (some failing) answer)
    have ofAgent : task.kind = .agent := steadily.1
    unfold handlerFrame
    rw [ofAgent, if_pos steadily.2]
    exact decide_eq_true rfl
  | @turnedDown task refusal error refused =>
    exact .inl (movesOn_refused task error (of_decide_eq_true moves))
  | @deployed task refusal =>
    have none : refusal = none := steadily
    subst refusal
    cases moves
  | @sent task sent refusal =>
    have belongs : refusal.map Prod.fst = some runId :=
      of_decide_eq_true moves
    cases sent with
    | true =>
      have executed :
          before.db.execute now
              (.updateTaskStatus task.identity.id .running {} "server") =
            some db :=
        performed
      exact .inr
        (hasOpenTask_of_running executed knows.1 (knows.2.trans belongs))
    | false =>
      exact .inl (movesOn_refused task "Agent not connected" belongs)
  | @refused failing currentStep =>
    have same : failing = runId := of_decide_eq_true moves
    subst runId
    cases live_of_update performed isLive
  | _ =>
    cases moves

theorem Resumed.performs
    {answer : Answer}
    {slot : Nat}
    (resumed : Resumed server before.db answer (before.frames slot) turn)
    (fresh : FreshIds before (.resume slot answer))
    (moves : MovesOn before.db runId (before.frames slot))
    (now : Int) :
    turn.perform before.db now ≠ none := by
  intro raised
  simp only [FreshIds] at fresh
  generalize before.frames slot = frame at resumed fresh moves
  unfold Turn.perform at raised
  split at raised
  · cases raised
  · rename_i statement issues
    cases statement with
    | createTask task =>
      cases resumed with
      | created =>
        cases issues
        have creates := createTask_isSome now fresh
        rw [show before.db.createTask now task = none from raised] at creates
        cases creates
      | turnedDown | deployed | sent =>
        simp [recordTurn] at issues
      | advanced =>
        obtain ⟨_, _, other⟩ := advanceTurn_statement issues
        cases other
      | _ =>
        cases issues
    | createPipelineRun =>
      cases resumed with
      | runStarted =>
        cases moves
      | turnedDown | deployed | sent =>
        simp [recordTurn] at issues
      | advanced =>
        obtain ⟨_, _, other⟩ := advanceTurn_statement issues
        cases other
      | _ =>
        cases issues
    | _ =>
      cases raised

section Carries

variable
    (coherent : Coherent before)
    (steady : Steady before)
    (begins : Tasks.turn server before action = some turn)
    (took : Took server before action turn after)
include coherent steady begins took

theorem carried_of_movesOn
    {slot : Nat}
    {runId : String}
    (fresh : FreshIds before action)
    (moves : MovesOn before.db runId (before.frames slot))
    (wasLive : RunLive before.db runId)
    (isLive : RunLive after.db runId) :
    Carried after runId := by
  have busy : before.frames slot ≠ .idle := by
    intro idle
    rw [idle] at moves
    cases moves
  by_cases acts : slot = action.slot
  · subst slot
    rcases turn_cases begins with
      ⟨slot, answer, rfl, resumed⟩ | ⟨free, _⟩
    · rcases took.db with performed | ⟨raised, _⟩
      · have reached := took.frame_acting begins performed
        rcases resumed.movesOn coherent steady performed moves wasLive
            isLive with
          still | opened
        · rw [← reached] at still
          exact .inr ⟨_, still⟩
        · exact .inl opened
      · exact (resumed.performs fresh moves _ raised).elim
    · exact (busy (Frame.eq_idle_of_isIdle free)).elim
  · refine .inr ⟨slot, ?_⟩
    rw [took.frame_other acts busy]
    exact moves.mono took.extends_db

/-- A run with an open task is still carried after a step. -/
theorem carried_of_openTask
    {runId : String}
    (keeps : KeepsMoving before action)
    (opened : HasOpenTask before.db runId)
    (wasLive : RunLive before.db runId)
    (isLive : RunLive after.db runId) :
    Carried after runId := by
  obtain ⟨row, member, belongs, isOpen⟩ := opened
  have found : before.db.getTask row.id = some row :=
    before.db.tasks.find?_eq_some_iff.mpr ⟨member, rfl⟩
  rcases took.executed with same | ⟨statement, issues, performed, executed⟩
  · rw [← same] at found
    exact .inl (hasOpenTask_of_getTask found belongs isOpen)
  · rcases getTask_execute executed row.id with
      ⟨task, rfl, same, _⟩ | ⟨status, detail, actor, rfl, updated⟩ |
      same
    · have absent := getTask_eq_none_of_createTask executed
      rw [same, found] at absent
      cases absent
    · rw [found] at updated
      cases terminal : status.terminal with
      | false =>
        exact .inl (hasOpenTask_of_getTask updated belongs terminal)
      | true =>
        have updates :
            turn.statement =
              some (.updateTaskStatus row.identity.id status detail actor) :=
          issues
        rcases turn_ends coherent steady begins updates terminal
            (identity_of_mem member) belongs with
          moves | cancelled
        · refine .inr ⟨action.slot, ?_⟩
          rw [took.frame_acting begins performed]
          exact moves.mono took.extends_db
        · have belongsTo := keeps.2 row.id row runId cancelled found
            belongs wasLive
          rcases belongsTo with
            ended | ⟨other, otherMember, distinct, otherBelongs,
              otherOpen⟩ | ⟨slot, moves⟩
          · rw [isOpen] at ended
            cases ended
          · have otherFound : before.db.getTask other.id = some other :=
              before.db.tasks.find?_eq_some_iff.mpr ⟨otherMember, rfl⟩
            have result :
                before.db.updateTaskStatus action.now row.id status
                    detail actor =
                  after.db :=
              Option.some.inj executed
            have lookup :=
              before.db.getTask_updateTaskStatus action.now row.id
                status detail actor other.id
            rw [result, if_neg distinct.symm, otherFound] at lookup
            exact .inl (hasOpenTask_of_getTask lookup otherBelongs otherOpen)
          · exact carried_of_movesOn coherent steady begins took
              keeps.1 moves wasLive isLive
    · rw [found] at same
      exact .inl (hasOpenTask_of_getTask same belongs isOpen)

theorem carried_step
    (carried : ∀ runId, RunLive before.db runId → Carried before runId)
    (keeps : KeepsMoving before action)
    (runId : String)
    (isLive : RunLive after.db runId) :
    Carried after runId := by
  by_cases wasLive : RunLive before.db runId
  · rcases carried runId wasLive with opened | ⟨slot, moves⟩
    · exact carried_of_openTask coherent steady begins took keeps opened
        wasLive isLive
    · exact carried_of_movesOn coherent steady begins took keeps.1 moves
        wasLive isLive
  · rcases took.db with performed | ⟨_, same⟩
    · refine .inr ⟨action.slot, ?_⟩
      rw [took.frame_acting begins performed]
      exact turn_revives begins performed wasLive isLive
    · rw [same] at isLive
      exact (wasLive isLive).elim

end Carries

end Step

/-- The invariant of runs that keep moving. -/
structure ProgressSound (sys : TaskSystem) : Prop where
  coherent : Coherent sys
  steady : Steady sys
  carried : ∀ runId, RunLive sys.db runId → Carried sys runId

theorem progressSound_started (files : Files) :
    ProgressSound (.started .empty files) where
  coherent := coherent_started files
  steady :=
    { frames := fun _ => trivial
      runs := by
        intro run member
        cases member }
  carried := by
    rintro runId ⟨status, found, _⟩
    cases found

theorem ProgressSound.step
    {server : Server}
    {before after : TaskSystem}
    {action : Action}
    (sound : ProgressSound before)
    (keeps : KeepsMoving before action)
    (taken : step? server before action = some after) :
    ProgressSound after := by
  obtain ⟨turn, begins, took⟩ := step_cases taken
  exact
    { coherent := sound.coherent.step begins took
      steady :=
        sound.steady.step sound.coherent keeps.1 begins took
      carried :=
        carried_step sound.coherent sound.steady begins took
          sound.carried keeps }

/-- While the last task of a live run is not cancelled, no run is stuck. -/
theorem noRunStuck_of_keepsMoving (server : Server) :
    NoRunStuck (Guarded (Fires (step? server)) KeepsMoving) := by
  intro files final actions run idle row member live
  have sound : ProgressSound final := by
    apply run.preserves ?_ (progressSound_started files)
    rintro before action after ⟨taken, keeps⟩ sound
    exact sound.step keeps taken
  have found : final.db.pipelineRuns.find? row.id = some row :=
    final.db.pipelineRuns.find?_eq_some_iff.mpr ⟨member, rfl⟩
  have isLive : RunLive final.db row.id :=
    ⟨row.status, congrArg (Option.map PipelineRunRow.status) found, live⟩
  rcases sound.carried row.id isLive with opened | ⟨slot, moves⟩
  · exact opened
  · rw [idle slot] at moves
    cases moves

/-! ### Runs with and without a cancellation -/

instance (sys : TaskSystem) (action : Action) :
    Decidable (FreshIds sys action) :=
  match action with
  | .resume slot _ => by
    unfold FreshIds
    dsimp only
    generalize sys.frames slot = frame
    induction frame using Frame.casesOn with
    | runPipeline | creating => infer_instance
    | _ => exact isTrue trivial
  | .taskStatus .. | .taskOutput .. | .createTask .. |
    .submitDeployment .. | .cancelTask .. | .createPipeline .. |
    .runPipeline .. => isTrue trivial

def CancelsNothing (sys : TaskSystem) (action : Action) : Prop :=
  InSlotZero sys action ∧ FreshIds sys action ∧ cancels sys action = none

instance (sys : TaskSystem) (action : Action) :
    Decidable (CancelsNothing sys action) := by
  unfold CancelsNothing
  infer_instance

theorem CancelsNothing.keepsMoving
    {sys : TaskSystem}
    {action : Action}
    (quiet : CancelsNothing sys action) :
    KeepsMoving sys action := by
  refine ⟨quiet.2.1, ?_⟩
  intro taskId row runId cancelled
  rw [quiet.2.2] at cancelled
  cases cancelled

/-- A run whose second task has been sent has an open task. -/
theorem secondStep_notStuck :
    ∃ final,
      Run (Guarded (Fires (step? exampleServer)) KeepsMoving)
        (.started .empty fun _ => none)
        (launchRun (exampleStep 0 .stop 0) [exampleStep 1 .stop 0] ++
          reportTask "t" "completed" ++ launchNext "u") final ∧
        (∀ slot, final.frames slot = .idle) ∧
        RunLive final.db "r" ∧
        HasOpenTask final.db "r" := by
  obtain ⟨final, checkedRun, reached⟩ :=
    exists_run_of_execute
      (show (execute (checked (step? exampleServer) CancelsNothing)
          (.started .empty fun _ => none)
          (launchRun (exampleStep 0 .stop 0) [exampleStep 1 .stop 0] ++
            reportTask "t" "completed" ++ launchNext "u")).any
          (fun sys : TaskSystem =>
            decide (sys.db.runStatus "r" = some .running) &&
              (sys.frames 0).isIdle) = true by
        decide)
  rw [Bool.and_eq_true, decide_eq_true_eq] at reached
  have quiet := checkedRun.guarded_of_checked
  have run := quiet.relax fun _ _ => CancelsNothing.keepsMoving
  have idle : ∀ slot, final.frames slot = .idle := by
    intro slot
    by_cases zero : slot = 0
    · rw [zero]
      exact Frame.eq_idle_of_isIdle reached.2
    · exact idle_elsewhere (quiet.relax fun _ _ => And.left) zero
  obtain ⟨row, found, status⟩ := Option.map_eq_some_iff.mp reached.1
  obtain ⟨member, named⟩ :=
    final.db.pipelineRuns.find?_eq_some_iff.mp found
  have live : row.status.live = true := by
    rw [status]
    rfl
  have opened :=
    noRunStuck_of_keepsMoving exampleServer run idle row member live
  rw [named] at opened
  exact ⟨final, run, idle, ⟨.running, reached.1, rfl⟩, opened⟩

/--
Without the condition a run gets stuck: its only task is cancelled through the
cancel endpoint, and the run stays running.
-/
theorem not_noRunStuck :
    ¬ NoRunStuck (Fires (step? exampleServer)) := by
  intro claimed
  obtain ⟨final, checkedRun, reached⟩ :=
    exists_run_of_execute
      (show (execute (checked (step? exampleServer) InSlotZero)
          (.started .empty fun _ => none)
          (launchRun (exampleStep 0 .stop 0) [] ++
            [.cancelTask 0 "t" "user", .resume 0 {}, .resume 0 {}])).any
          (fun sys : TaskSystem =>
            decide (sys.db.runStatus "r" = some .running) &&
              (sys.frames 0).isIdle &&
              sys.db.tasks.rows.all (fun row => row.status.terminal)) =
            true by
        decide)
  simp only [Bool.and_eq_true, decide_eq_true_eq] at reached
  obtain ⟨⟨running, free⟩, ended⟩ := reached
  have run := checkedRun.guarded_of_checked
  have idle : ∀ slot, final.frames slot = .idle := by
    intro slot
    by_cases zero : slot = 0
    · rw [zero]
      exact Frame.eq_idle_of_isIdle free
    · exact idle_elsewhere run zero
  obtain ⟨row, found, status⟩ := Option.map_eq_some_iff.mp running
  have member := (final.db.pipelineRuns.find?_eq_some_iff.mp found).1
  have live : row.status.live = true := by
    rw [status]
    rfl
  obtain ⟨task, stored, _, isOpen⟩ :=
    claimed run.unguarded idle row member live
  have terminal := List.all_eq_true.mp ended task stored
  rw [isOpen] at terminal
  cases terminal

end RpaPlatform.Tasks
