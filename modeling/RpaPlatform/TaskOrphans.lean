import Mathlib.Data.List.Perm.Basic
import RpaPlatform.PipelineRelay
import RpaPlatform.TaskDelivery
import RpaPlatform.TaskFinality

namespace RpaPlatform.Tasks

open TaskDB Transition
open Agents (AgentConnectionStatus ManagerPoint)

/-!
# Tasks that are never reported

The executor reports how a task ended once, and `send_event` drops the report
when there is no connection.  Nothing asks for it again: a heartbeat tells the
server which processes run, but not how tasks ended, and a task whose report
is lost stays running on the server.  A terminal status can also be stored and
then overwritten, since `dispatch` records that a task runs after the agent
may have reported its end.

The invariant behind the positive result says that a task that was sent is in
a terminal status, or will be: its event or its final report is in flight, or
the agent is still going to report it.
-/

namespace DeliverySystem

def settled (sys : DeliverySystem) (taskId : String) : Bool :=
  (sys.server.statusOf taskId).any TaskStatus.terminal

def executes (sys : DeliverySystem) (taskId : String) : Bool :=
  sys.executor.any fun execution => execution.task = some taskId

def executeInFlight (sys : DeliverySystem) (taskId : String) : Bool :=
  sys.status = .connected &&
    sys.down.any fun event => event.executes = some taskId

def reportInFlight (sys : DeliverySystem) (taskId : String) : Bool :=
  sys.links.any fun link =>
    !link.closed && link.up.any (AgentEvent.ends taskId)

def pending (sys : DeliverySystem) (taskId : String) : Bool :=
  sys.executor.any (Execution.willReport taskId) ||
    sys.executeInFlight taskId || sys.reportInFlight taskId

/-- The agent is connected, and the server has authenticated it. -/
def connected (sys : DeliverySystem) : Prop :=
  sys.connectedOn sys.current = true ∧
    sys.activeAgent = some sys.current ∧
    (sys.links[sys.current]?).any TaskLink.authenticated = true

def quiet (sys : DeliverySystem) : Prop :=
  sys.down = [] ∧ ∀ link ∈ sys.links, link.closed = false → link.up = []

end DeliverySystem

/--
In every state that is reached in which the agent is connected and
authenticated and no event is in flight, the tasks that were sent to the agent
and that it does not execute are in a terminal status, and every report of a
terminal status has been handled.
-/
def NoTaskOrphaned
    (step : DeliverySystem → DeliveryAction → DeliverySystem → Prop) :
    Prop :=
  ∀ {files : Files} {final : DeliverySystem}
    {actions : List DeliveryAction},
    Run step (.started files) actions final →
    final.connected →
    final.quiet →
    (∀ taskId ∈ final.sent,
      final.executes taskId = false →
      final.settled taskId = true) ∧
      ∀ data ∈ final.reported,
        data.taskStatus.terminal = true →
        data ∈ final.handled

/-! ### The condition -/

namespace DeliverySystem

/-- No terminal status of a sent task is overwritten for good. -/
def mayReopen (sys : DeliverySystem) (taskId : String) : Prop :=
  taskId ∈ sys.sent →
  sys.settled taskId = true →
  sys.pending taskId = true

/-- No final report is unread on a connection. -/
def nothingFinal (sys : DeliverySystem) (link : Nat) : Prop :=
  ∀ found ∈ sys.links[link]?,
    found.closed = false →
    ∀ event ∈ found.up, event.isFinal = false

/-- The condition on what a handler of the server does. -/
def servesReliably
    (host : DeliveryHost)
    (sys : DeliverySystem)
    (answer : Answer) : Frame → Prop
  | .dispatching task _ =>
    refusedAtOnce host.server task answer = none →
    task.kind = .agent →
    task.agentId = host.agentId →
    answer.sent = true →
    ∀ link ∈ sys.activeAgent, sys.connectedOn link = true
  | .sending task sent _ =>
    sent = true → sys.mayReopen task.id
  | .deploying task _ =>
    sys.mayReopen task.id
  | _ => True

/-- The condition on what a session reads. -/
def readsReliably
    (sys : DeliverySystem)
    (link : Nat)
    (accepted : Bool)
    (found : TaskLink) : List AgentEvent → Prop
  | [] => True
  | .handshake :: rest =>
    if accepted then
      ∀ previous ∈ sys.activeAgent, previous ≠ link → sys.nothingFinal previous
    else
      ∀ event ∈ rest, event.isFinal = false
  | .taskStatus data :: rest =>
    if found.authenticated then
      data.taskStatus.terminal = false → sys.mayReopen data.taskId
    else
      ∀ event ∈ AgentEvent.taskStatus data :: rest, event.isFinal = false

/-- The condition on how an execution goes on. -/
def executesReliably
    (sys : DeliverySystem)
    (outcome : ExecutionOutcome) : Execution → Prop
  | .scheduled data =>
    sys.runningPid data.taskId = none →
    match outcome with
    | .scriptUnwritable => False
    | .launchFails _ => sys.connectedOn sys.current = true
    | _ => True
  | .running _ _ cancelled =>
    match outcome with
    | .exits _ =>
      cancelled = false → sys.connectedOn sys.current = true
    | _ => sys.connectedOn sys.current = true
  | .cancelling taskId =>
    (sys.runningPid taskId).isSome = true →
    sys.connectedOn sys.current = true

end DeliverySystem

open DeliverySystem in
/--
The condition under which no task is orphaned.  Tasks are sent on a connection
that is open on both sides, and read before it ends; every execution ends with
a final report, or was cancelled with one; final reports are sent on a
connection that is open on both sides, and read before the session ends; and a
status that is not terminal is stored for a task in a terminal status only if
another terminal status is still to come.
-/
def DeliversReports
    (host : DeliveryHost)
    (sys : DeliverySystem) : DeliveryAction → Prop
  | .serve (.resume slot answer) =>
    sys.servesReliably host answer (sys.server.frames slot)
  | .receive link _ accepted _ =>
    ∀ found ∈ sys.links[link]?,
      found.closed = false →
      sys.readsReliably link accepted found found.up
  | .closeSession link =>
    sys.nothingFinal link
  | .timeoutAgent =>
    ∀ link ∈ sys.activeAgent, sys.nothingFinal link
  | .readEvent sessionFound =>
    match sys.down with
    | .executeTask data :: _ =>
      data.session ≠ "" →
      sessionFound = false →
      sys.connectedOn sys.current = true
    | _ => True
  | .endReadLoop _ =>
    ∀ event ∈ sys.down, event.executes = none
  | .resumeExecutor position outcome =>
    ∀ execution ∈ sys.executor[position]?,
      sys.executesReliably outcome execution
  | _ => True

section Deciding

variable
    (host : DeliveryHost)
    (sys : DeliverySystem)

instance (taskId : String) : Decidable (sys.mayReopen taskId) := by
  unfold DeliverySystem.mayReopen
  infer_instance

instance (link : Nat) : Decidable (sys.nothingFinal link) := by
  unfold DeliverySystem.nothingFinal
  infer_instance

instance (answer : Answer) (frame : Frame) :
    Decidable (sys.servesReliably host answer frame) := by
  unfold DeliverySystem.servesReliably
  split <;> infer_instance

instance
    (link : Nat)
    (accepted : Bool)
    (found : TaskLink)
    (events : List AgentEvent) :
    Decidable (sys.readsReliably link accepted found events) := by
  unfold DeliverySystem.readsReliably
  split <;> infer_instance

instance (outcome : ExecutionOutcome) (execution : Execution) :
    Decidable (sys.executesReliably outcome execution) := by
  unfold DeliverySystem.executesReliably
  split
  · refine @instDecidableForall _ _ inferInstance ?_
    split <;> infer_instance
  · split <;> infer_instance
  · infer_instance

instance (action : DeliveryAction) :
    Decidable (DeliversReports host sys action) := by
  unfold DeliversReports
  split
  all_goals try infer_instance
  split <;> infer_instance

end Deciding

/-! ### What the task service does to a terminal status -/

/-- The task to which the next turn gives a status that is not terminal. -/
def TaskSystem.reopens (sys : TaskSystem) : Action → Option String
  | .taskStatus _ _ data _ =>
    if data.taskStatus.terminal then none else some data.taskId
  | .resume slot _ =>
    match sys.frames slot with
    | .sending task true _ => some task.id
    | .deploying task _ => some task.id
    | _ => none
  | _ => none

def TaskSystem.ended (sys : TaskSystem) (taskId : String) : Prop :=
  ∃ row, sys.db.getTask taskId = some row ∧ row.status.terminal = true

theorem settled_iff
    {sys : DeliverySystem}
    {taskId : String} :
    sys.settled taskId = true ↔ sys.server.ended taskId := by
  unfold DeliverySystem.settled TaskSystem.statusOf TaskSystem.ended
  cases sys.server.db.getTask taskId <;> simp

section Service

variable
    {server : Server}
    {before after : TaskSystem}
    {action : Action}
    {turn : Turn}
    {taskId : String}

theorem turn_reopens
    {status : TaskStatus}
    {detail : StatusDetail}
    {actor : String}
    (begins : Tasks.turn server before action = some turn)
    (issues :
      turn.statement = some (.updateTaskStatus taskId status detail actor))
    (isOpen : status.terminal = false) :
    before.reopens action = some taskId := by
  rcases turn_cases begins with ⟨slot, answer, rfl, resumed⟩ | ⟨_, starts⟩
  · simp only [TaskSystem.reopens]
    generalize before.frames slot = frame at resumed
    cases resumed with
    | @turnedDown task refusal error refused =>
      have recorded :
          (recordTurn task (refusedResult error) refusal).statement =
            some (.updateTaskStatus taskId status detail actor) :=
        issues
      cases (recordTurn_statement recorded).2
      cases isOpen
    | @deployed task refusal =>
      have recorded :
          (recordTurn task acceptedResult refusal).statement =
            some (.updateTaskStatus taskId status detail actor) :=
        issues
      exact congrArg some (recordTurn_statement recorded).1.symm
    | @sent task sent refusal =>
      obtain ⟨same, recorded⟩ := recordTurn_statement issues
      cases sent with
      | true =>
        exact congrArg some same.symm
      | false =>
        cases recorded
        cases isOpen
    | advanced =>
      obtain ⟨_, _, other⟩ := advanceTurn_statement issues
      cases other
    | _ =>
      cases issues <;> cases isOpen
  · obtain ⟨slot, clientId, data, now, rfl, rfl, rfl⟩ :=
      start_updates starts issues
    exact if_neg (by rw [TaskStatusData.taskStatus, isOpen]; decide)

theorem ended_step
    (taken : step? server before action = some after)
    (ended : before.ended taskId)
    (kept : before.reopens action ≠ some taskId) :
    after.ended taskId := by
  obtain ⟨row, found, terminal⟩ := ended
  obtain ⟨turn, begins, took⟩ := step_cases taken
  rcases took.executed with same | ⟨statement, issues, _, executed⟩
  · exact ⟨row, by rw [same, found], terminal⟩
  · rcases getTask_execute executed taskId with
      ⟨task, rfl, same, _⟩ | ⟨status, detail, actor, rfl, updated⟩ | same
    · have absent := getTask_eq_none_of_createTask executed
      rw [same, found] at absent
      cases absent
    · rw [found] at updated
      cases isTerminal : status.terminal with
      | true =>
        exact ⟨_, updated, isTerminal⟩
      | false =>
        exact (kept (turn_reopens begins issues isTerminal)).elim
    · exact ⟨row, by rw [same, found], terminal⟩

theorem ended_of_report
    {slot : Nat}
    {clientId : Option String}
    {data : TaskStatusData}
    {now : Int}
    (taken :
      step? server before (.taskStatus slot clientId data now) = some after)
    (stored : data.taskId ∈ before.db.taskIdentities.map TaskIdentity.id)
    (terminal : data.taskStatus.terminal = true) :
    after.ended data.taskId := by
  obtain ⟨identity, identityStored, named⟩ := List.mem_map.mp stored
  obtain ⟨row, member, rfl⟩ := List.mem_map.mp identityStored
  have found : before.db.getTask data.taskId = some row :=
    before.db.tasks.find?_eq_some_iff.mpr ⟨member, named⟩
  obtain ⟨turn, begins, took⟩ := step_cases taken
  rcases turn_cases begins with ⟨_, _, other, _⟩ | ⟨_, starts⟩
  · cases other
  · cases starts
    rcases took.db with performed | ⟨raised, _⟩
    · have lookup :=
        before.db.getTask_updateTaskStatus now data.taskId
          data.taskStatus
          { pid := data.pid, exitCode := data.exitCode,
            error := data.error }
          (actorOf clientId) data.taskId
      rw [if_pos rfl, found] at lookup
      have same := Option.some.inj performed
      exact ⟨_, by rw [← same]; exact lookup, terminal⟩
    · cases raised

theorem dispatched_step
    (taken : step? server before action = some after)
    (member : taskId ∈ before.dispatched) :
    taskId ∈ after.dispatched := by
  obtain ⟨turn, begins, took⟩ := step_cases taken
  rcases took.histories with ⟨_, grown, _⟩ | ⟨_, same, _⟩
  · rw [grown]
    exact List.mem_append_left _ member
  · rw [same]
    exact member

theorem handlerFrame_sending
    {task sentTask : TaskSpec}
    {sent : Bool}
    {refusal sentRefusal : Option (String × Nat)}
    {answer : Answer}
    (sends :
      handlerFrame task refusal answer = .sending sentTask sent sentRefusal) :
    sentTask = task ∧ sent = answer.sent ∧ task.kind = .agent := by
  unfold handlerFrame at sends
  split at sends
  · rename_i ofAgent
    split at sends
    · cases sends
      exact ⟨rfl, rfl, ofAgent⟩
    · cases sends
  · cases sends

theorem sending_step
    {slot : Nat}
    {answer : Answer}
    {task sentTask : TaskSpec}
    {sent : Bool}
    {refusal sentRefusal : Option (String × Nat)}
    (taken : step? server before (.resume slot answer) = some after)
    (waits : before.frames slot = .dispatching task refusal)
    (sends : after.frames slot = .sending sentTask sent sentRefusal) :
    sentTask = task ∧
      sent = answer.sent ∧
      refusedAtOnce server task answer = none ∧
      task.kind = .agent ∧
      task.id ∈ after.dispatched := by
  obtain ⟨turn, begins, took⟩ := step_cases taken
  rcases turn_cases begins with ⟨acting, acted, same, resumed⟩ | ⟨free, _⟩
  · cases same
    rw [waits] at resumed
    rcases took.histories with
      ⟨_, grown, _, performed⟩ | ⟨_, _, _, _, _, frames⟩
    · have reached := took.frame_acting begins performed
      rw [show after.frames (Action.resume slot answer).slot =
          .sending sentTask sent sentRefusal from sends] at reached
      cases resumed with
      | handed accepted =>
        have handler :
            handlerFrame task refusal answer =
              .sending sentTask sent sentRefusal :=
          reached.symm
        obtain ⟨rfl, rfl, ofAgent⟩ := handlerFrame_sending handler
        refine ⟨rfl, rfl, accepted, ofAgent, ?_⟩
        rw [grown]
        exact List.mem_append_right _ (List.mem_singleton.mpr rfl)
      | @turnedDown task refusal error refused =>
        have recorded :
            (recordTurn task (refusedResult error) refusal).next =
              .sending sentTask sent sentRefusal :=
          reached.symm
        rcases recordTurn_next task (refusedResult error) refusal with
          idle | ⟨_, _, _, _, refusing⟩
        · rw [idle] at recorded
          cases recorded
        · rw [refusing] at recorded
          cases recorded
    · rw [frames] at sends
      simp [Action.slot] at sends
  · simp only [Action.slot, waits] at free
    cases free

end Service

/-! ### Reports in flight -/

namespace DeliverySystem

/-- A report is on a connection whose session still reads. -/
def unread (sys : DeliverySystem) (data : TaskStatusData) : Prop :=
  ∃ (number : Nat) (link : TaskLink),
    sys.links[number]? = some link ∧
      link.closed = false ∧
      .taskStatus data ∈ link.up

def executions (sys : DeliverySystem) : List String :=
  sys.down.filterMap ServerEvent.executes ++
    sys.executor.filterMap Execution.task

section Links

variable
    {sys : DeliverySystem}
    {changed : Nat}
    {change : TaskLink → TaskLink}
    {data : TaskStatusData}

theorem updateLink_self
    {link : TaskLink}
    (isFound : sys.links[changed]? = some link) :
    (sys.updateLink changed change).links[changed]? = some (change link) := by
  simp [updateLink, isFound]

theorem updateLink_other
    {number : Nat}
    (other : number ≠ changed) :
    (sys.updateLink changed change).links[number]? = sys.links[number]? := by
  simp [updateLink, other.symm]

theorem unread_updateLink
    (isUnread : sys.unread data)
    (keeps :
      ∀ link,
        sys.links[changed]? = some link →
        link.closed = false →
        .taskStatus data ∈ link.up →
        (change link).closed = false ∧ .taskStatus data ∈ (change link).up) :
    (sys.updateLink changed change).unread data := by
  obtain ⟨number, link, isFound, isOpen, member⟩ := isUnread
  by_cases same : number = changed
  · subst number
    obtain ⟨stillOpen, stillMember⟩ := keeps link isFound isOpen member
    exact ⟨changed, change link, updateLink_self isFound, stillOpen,
      stillMember⟩
  · exact ⟨number, link, (updateLink_other same).trans isFound, isOpen, member⟩

theorem unread_closeLink
    {link : Nat}
    (isUnread : sys.unread data)
    (terminal : data.taskStatus.terminal = true)
    (nothing : sys.nothingFinal link) :
    (sys.closeLink link).unread data := by
  refine unread_updateLink isUnread ?_
  intro found isFound isOpen member
  have notFinal := nothing found isFound isOpen _ member
  simp only [AgentEvent.isFinal, terminal] at notFinal
  cases notFinal

theorem unread_sendEvent
    (isUnread : sys.unread data)
    (event : AgentEvent) :
    (sys.sendEvent event).unread data := by
  unfold sendEvent
  split
  · refine unread_updateLink isUnread ?_
    intro link _ isOpen member
    exact ⟨isOpen, List.mem_append_left _ member⟩
  · exact isUnread

theorem unread_sendEvent_self
    (isOpen : sys.connectedOn sys.current = true) :
    (sys.sendEvent (.taskStatus data)).unread data := by
  simp only [connectedOn, Bool.and_eq_true, decide_eq_true_eq,
    Option.any_eq_true, Bool.not_eq_true'] at isOpen
  obtain ⟨⟨connected, _⟩, link, isFound, linkOpen⟩ := isOpen
  unfold sendEvent
  rw [if_pos connected]
  exact ⟨sys.current, _, updateLink_self isFound, linkOpen,
    List.mem_append_right _ (List.mem_singleton.mpr rfl)⟩

theorem reportInFlight_iff
    {taskId : String} :
    sys.reportInFlight taskId = true ↔
      ∃ data,
        sys.unread data ∧ data.taskId = taskId ∧
          data.taskStatus.terminal = true := by
  unfold reportInFlight unread
  simp only [List.any_eq_true, Bool.and_eq_true, Bool.not_eq_true']
  constructor
  · rintro ⟨link, member, isOpen, event, eventMember, ends⟩
    obtain ⟨number, isFound⟩ := List.mem_iff_getElem?.mp member
    cases event with
    | handshake =>
      cases ends
    | taskStatus data =>
      simp only [AgentEvent.ends, Bool.and_eq_true, decide_eq_true_eq] at ends
      exact ⟨data, ⟨number, link, isFound, isOpen, eventMember⟩, ends⟩
  · rintro ⟨data, ⟨number, link, isFound, isOpen, member⟩, named, ends⟩
    refine ⟨link, List.mem_of_getElem? isFound, isOpen, _, member, ?_⟩
    simp [AgentEvent.ends, named, ends]

theorem executeInFlight_iff
    {taskId : String} :
    sys.executeInFlight taskId = true ↔
      sys.status = .connected ∧
        ∃ event ∈ sys.down, event.executes = some taskId := by
  simp [executeInFlight]

theorem pending_iff
    {taskId : String} :
    sys.pending taskId = true ↔
      (∃ execution ∈ sys.executor,
          execution.willReport taskId = true) ∨
        sys.executeInFlight taskId = true ∨
        ∃ data,
          sys.unread data ∧ data.taskId = taskId ∧
            data.taskStatus.terminal = true := by
  simp only [pending, Bool.or_eq_true, List.any_eq_true,
    reportInFlight_iff, or_assoc]

end Links

end DeliverySystem

/-! ### The invariant -/

/-- A task that was sent is in a terminal status, or will be. -/
structure DeliverySound (sys : DeliverySystem) : Prop where
  coherent : Coherent sys.server
  recorded : Recorded sys.server
  reading : sys.status = .connected ↔ sys.manager = .reading
  once : sys.executions.Nodup
  known : ∀ taskId ∈ sys.executions, taskId ∈ sys.server.dispatched
  sent : ∀ taskId ∈ sys.sent, taskId ∈ sys.server.dispatched
  reports :
    ∀ data ∈ sys.reported,
      data.taskStatus.terminal = true →
      data ∈ sys.handled ∨ sys.unread data
  coming :
    ∀ taskId ∈ sys.sent, sys.settled taskId = true ∨ sys.pending taskId = true

theorem deliverySound_started (files : Files) :
    DeliverySound (.started files) where
  coherent := coherent_started files
  recorded := recorded_started files
  reading := ⟨nofun, nofun⟩
  once := List.nodup_nil
  known := by
    intro taskId member
    cases member
  sent := by
    intro taskId member
    cases member
  reports := by
    intro data member
    cases member
  coming := by
    intro taskId member
    cases member

/-- What a step that leaves the server alone does. -/
structure AgentStep (before after : DeliverySystem) : Prop where
  server : after.server = before.server
  sent : after.sent = before.sent
  handled : after.handled = before.handled
  reading : after.status = .connected ↔ after.manager = .reading
  executions : List.Subperm after.executions before.executions
  reported :
    ∀ data ∈ after.reported,
      data.taskStatus.terminal = true →
      data ∈ before.reported ∨ after.unread data
  unread :
    ∀ data,
      data.taskStatus.terminal = true →
      before.unread data →
      after.unread data
  pending : ∀ taskId, before.pending taskId = true → after.pending taskId = true

theorem DeliverySound.agentStep
    {before after : DeliverySystem}
    (sound : DeliverySound before)
    (step : AgentStep before after) :
    DeliverySound after where
  coherent := by
    rw [step.server]
    exact sound.coherent
  recorded := by
    rw [step.server]
    exact sound.recorded
  reading := step.reading
  once := by
    obtain ⟨kept, same, sublist⟩ := step.executions
    exact same.nodup_iff.mp (sublist.nodup sound.once)
  known := by
    intro taskId member
    rw [step.server]
    exact sound.known taskId (step.executions.subset member)
  sent := by
    rw [step.sent, step.server]
    exact sound.sent
  reports := by
    intro data member terminal
    rw [step.handled]
    rcases step.reported data member terminal with earlier | isUnread
    · exact (sound.reports data earlier terminal).imp_right
        (step.unread data terminal)
    · exact .inr isUnread
  coming := by
    intro taskId member
    rw [step.sent] at member
    rw [settled_iff, step.server, ← settled_iff]
    exact (sound.coming taskId member).imp_right (step.pending taskId)

theorem AgentStep.of_transport
    {before after : DeliverySystem}
    (server : after.server = before.server)
    (sent : after.sent = before.sent)
    (handled : after.handled = before.handled)
    (reported : after.reported = before.reported)
    (executor : after.executor = before.executor)
    (reading : after.status = .connected ↔ after.manager = .reading)
    (down :
      (after.down.filterMap ServerEvent.executes).Sublist
        (before.down.filterMap ServerEvent.executes))
    (inFlight :
      ∀ taskId,
        before.executeInFlight taskId = true →
        after.executeInFlight taskId = true)
    (unread :
      ∀ data,
        data.taskStatus.terminal = true →
        before.unread data →
        after.unread data) :
    AgentStep before after where
  server := server
  sent := sent
  handled := handled
  reading := reading
  executions := by
    unfold DeliverySystem.executions
    rw [executor]
    exact (down.append_right _).subperm
  reported := by
    intro data member _
    rw [reported] at member
    exact .inl member
  unread := unread
  pending := by
    intro taskId waits
    rw [DeliverySystem.pending_iff] at waits ⊢
    rw [executor]
    rcases waits with reports | executes | ⟨data, isUnread, named, ends⟩
    · exact .inl reports
    · exact .inr (.inl (inFlight taskId executes))
    · exact .inr (.inr ⟨data, unread data ends isUnread, named, ends⟩)

/-! ### Steps of the connection -/

section Connection

variable
    {before : DeliverySystem}

theorem DeliverySound.notInFlight
    (sound : DeliverySound before)
    (elsewhere : before.manager ≠ .reading)
    (taskId : String) :
    before.executeInFlight taskId ≠ true := by
  intro inFlight
  exact elsewhere
    (sound.reading.mp (DeliverySystem.executeInFlight_iff.mp inFlight).1)

theorem DeliverySound.relinking
    (sound : DeliverySound before)
    {links : List TaskLink}
    {activeAgent : Option Nat}
    (unread :
      ∀ data,
        data.taskStatus.terminal = true →
        before.unread data →
        { before with
          links := links
          activeAgent := activeAgent }.unread data) :
    AgentStep before
      { before with links := links, activeAgent := activeAgent } :=
  .of_transport rfl rfl rfl rfl rfl sound.reading (.refl _) (fun _ => id) unread

theorem DeliverySound.closing
    (sound : DeliverySound before)
    {link : Nat}
    (nothing : before.nothingFinal link)
    (activeAgent : Option Nat) :
    AgentStep before
      { before.closeLink link with activeAgent := activeAgent } :=
  sound.relinking fun _ terminal isUnread =>
    DeliverySystem.unread_closeLink isUnread terminal nothing

theorem DeliverySound.managing
    (sound : DeliverySound before)
    (elsewhere : before.manager ≠ .reading)
    {status : AgentConnectionStatus}
    {manager : ManagerPoint}
    (offline : status ≠ .connected)
    (stays : manager ≠ .reading)
    (hasSocket init : Bool) :
    AgentStep before
      { before with
        status := status
        manager := manager
        hasSocket := hasSocket
        init := init } := by
  refine .of_transport rfl rfl rfl rfl rfl (iff_of_false offline stays)
    (.refl _) ?_ fun _ _ => id
  intro taskId inFlight
  exact (sound.notInFlight elsewhere taskId inFlight).elim

theorem DeliverySound.connecting
    (sound : DeliverySound before)
    (opening : before.manager = .opening) :
    AgentStep before
      { before with
        hasSocket := true
        status := .connected
        manager := .reading
        links := before.links ++ [{}]
        down := [.handshake] } := by
  refine .of_transport rfl rfl rfl rfl rfl (iff_of_true rfl rfl)
    (List.nil_sublist _) ?_ ?_
  · intro taskId inFlight
    have elsewhere : before.manager ≠ .reading := by
      rw [opening]
      exact nofun
    exact (sound.notInFlight elsewhere taskId inFlight).elim
  · rintro data _ ⟨number, link, isFound, rest⟩
    have inside := (List.getElem?_eq_some_iff.mp isFound).1
    exact ⟨number, link, (List.getElem?_append_left inside).trans isFound, rest⟩

theorem AgentStep.disconnecting
    (nothing : ∀ event ∈ before.down, event.executes = none)
    {status : AgentConnectionStatus}
    (ends : status ≠ .connected) :
    AgentStep before
      { before with
        status := status
        manager := .ended } := by
  refine .of_transport rfl rfl rfl rfl rfl
    (iff_of_false ends nofun) (.refl _) ?_ fun _ _ => id
  intro taskId inFlight
  obtain ⟨_, event, member, executes⟩ :=
    DeliverySystem.executeInFlight_iff.mp inFlight
  rw [nothing event member] at executes
  cases executes

end Connection

/-! ### Steps of the agent -/

theorem failed_terminal :
    (TaskStatus.ofText "failed").terminal = true := by
  decide

namespace DeliverySystem

variable (sys : DeliverySystem)

theorem sendEvent_eq (event : AgentEvent) :
    sys.sendEvent event =
      { sys with links := (sys.sendEvent event).links } := by
  unfold sendEvent
  split <;> rfl

theorem report_eq (data : TaskStatusData) :
    sys.report data =
      { sys with
        links := (sys.sendEvent (.taskStatus data)).links
        reported := sys.reported ++ [data] } := by
  unfold report
  rw [sendEvent_eq]

theorem greet_eq :
    ∃ links,
      sys.greet = { sys with init := true, links } ∧
        ∀ data, sys.unread data → sys.greet.unread data := by
  unfold greet
  split
  · rename_i initialized
    exact ⟨sys.links, by rw [← initialized], fun _ => id⟩
  · refine ⟨_, sendEvent_eq _ .handshake, ?_⟩
    intro data isUnread
    have kept : { sys with init := true }.unread data := isUnread
    exact unread_sendEvent kept .handshake

end DeliverySystem

section Agent

variable
    {host : DeliveryHost}
    {before : DeliverySystem}
    {rest : List ServerEvent}

theorem DeliverySound.greeting
    (sound : DeliverySound before)
    (down : before.down = .handshake :: rest) :
    AgentStep before { before with down := rest }.greet := by
  obtain ⟨links, same, unread⟩ :=
    { before with down := rest }.greet_eq
  refine .of_transport ?_ ?_ ?_ ?_ ?_ ?_ ?_ ?_ fun data _ => unread data
  all_goals rw [same]
  · exact sound.reading
  · rw [down]
    exact .refl _
  · intro taskId inFlight
    rw [DeliverySystem.executeInFlight_iff] at inFlight ⊢
    obtain ⟨connected, event, member, executes⟩ := inFlight
    rw [down] at member
    rcases List.mem_cons.mp member with rfl | later
    · cases executes
    · exact ⟨connected, event, later, executes⟩

variable
    {data : ExecuteTaskData}
    {taskId : String}
    {executor : List Execution}
    {position : Nat}
    {outcome : ExecutionOutcome}
    {after : DeliverySystem}

/-- A message that is taken by the executor leaves pending what was. -/
theorem pending_taken
    {event : ServerEvent}
    {execution : Execution}
    (down : before.down = event :: rest)
    (takes :
      ∀ taskId,
        event.executes = some taskId →
        execution.willReport taskId = true)
    (taskId : String)
    (waits : before.pending taskId = true) :
    ({ before with
        down := rest
        executor := before.executor ++ [execution] } :
      DeliverySystem).pending taskId = true := by
  rw [DeliverySystem.pending_iff] at waits ⊢
  rcases waits with ⟨other, member, reports⟩ | inFlight | isUnread
  · exact .inl ⟨other, List.mem_append_left _ member, reports⟩
  · obtain ⟨connected, other, member, executes⟩ :=
      DeliverySystem.executeInFlight_iff.mp inFlight
    rw [down] at member
    rcases List.mem_cons.mp member with rfl | later
    · exact .inl ⟨execution,
        List.mem_append_right _ (List.mem_singleton.mpr rfl),
        takes taskId executes⟩
    · exact .inr <| .inl <|
        DeliverySystem.executeInFlight_iff.mpr
          ⟨connected, other, later, executes⟩
  · exact .inr (.inr isUnread)

theorem DeliverySound.scheduling
    (sound : DeliverySound before)
    (down : before.down = .executeTask data :: rest) :
    AgentStep before
      { before with
        down := rest
        executor := before.executor ++ [.scheduled data] } where
  server := rfl
  sent := rfl
  handled := rfl
  reading := sound.reading
  executions := by
    refine List.Perm.subperm ?_
    simp only [DeliverySystem.executions, down, List.filterMap_cons,
      ServerEvent.executes, List.filterMap_append, Execution.task,
      List.filterMap_nil]
    rw [← List.append_assoc]
    exact List.perm_append_comm
  reported := fun _ member _ => .inl member
  unread := fun _ _ => id
  pending :=
    pending_taken down fun _ executes =>
      decide_eq_true (Option.some.inj executes)

theorem DeliverySound.cancellationRead
    (sound : DeliverySound before)
    (down : before.down = .cancelTask taskId :: rest) :
    AgentStep before
      { before with
        down := rest
        executor := before.executor ++ [.cancelling taskId] } where
  server := rfl
  sent := rfl
  handled := rfl
  reading := sound.reading
  executions := by
    refine List.Perm.subperm ?_
    simp only [DeliverySystem.executions, down, List.filterMap_cons,
      ServerEvent.executes, List.filterMap_append, Execution.task,
      List.filterMap_nil, List.append_nil]
    exact .refl _
  reported := fun _ member _ => .inl member
  unread := fun _ _ => id
  pending := pending_taken down fun _ => nofun

/-- The executor goes on, and reports on a task. -/
theorem DeliverySound.reporting
    (sound : DeliverySound before)
    {down : List ServerEvent}
    {data : TaskStatusData}
    (isOpen :
      data.taskStatus.terminal = true →
        before.connectedOn before.current = true)
    (executions :
      (down.filterMap ServerEvent.executes ++
        executor.filterMap Execution.task).Subperm before.executions)
    (executing :
      ∀ taskId,
        ∀ execution ∈ before.executor,
          execution.willReport taskId = true →
          (∃ next ∈ executor, next.willReport taskId = true) ∨
            data.taskId = taskId ∧ data.taskStatus.terminal = true)
    (told :
      ∀ taskId,
        ∀ event ∈ before.down,
          event.executes = some taskId →
          event ∈ down ∨
            data.taskId = taskId ∧ data.taskStatus.terminal = true) :
    AgentStep before
      ({ before with down := down, executor := executor }.report data) := by
  let next : DeliverySystem :=
    { before with down := down, executor := executor }
  show AgentStep before (next.report data)
  have isUnread
      (terminal : data.taskStatus.terminal = true) :
      (next.report data).unread data :=
    DeliverySystem.unread_sendEvent_self
      (show next.connectedOn next.current = true from isOpen terminal)
  have kept
      {other : TaskStatusData}
      (found : before.unread other) :
      (next.report data).unread other :=
    DeliverySystem.unread_sendEvent (show next.unread other from found) _
  rw [DeliverySystem.report_eq] at isUnread kept ⊢
  exact
    { server := rfl
      sent := rfl
      handled := rfl
      reading := sound.reading
      executions := executions
      reported := by
        intro other member terminal
        rcases List.mem_append.mp member with earlier | latest
        · exact .inl earlier
        · rw [List.mem_singleton.mp latest] at terminal ⊢
          exact .inr (isUnread terminal)
      unread := fun _ _ => kept
      pending := by
        intro taskId waits
        rw [DeliverySystem.pending_iff] at waits ⊢
        rcases waits with
          ⟨execution, member, reports⟩ | inFlight |
          ⟨other, found, ends⟩
        · rcases executing taskId execution member reports with
            stays | ⟨named, terminal⟩
          · exact .inl stays
          · exact .inr (.inr ⟨data, isUnread terminal, named, terminal⟩)
        · obtain ⟨connected, event, member, executes⟩ :=
            DeliverySystem.executeInFlight_iff.mp inFlight
          rcases told taskId event member executes with
            later | ⟨named, terminal⟩
          · exact .inr <| .inl <|
              DeliverySystem.executeInFlight_iff.mpr
                ⟨connected, event, later, executes⟩
          · exact .inr (.inr ⟨data, isUnread terminal, named, terminal⟩)
        · exact .inr (.inr ⟨other, kept found, ends⟩) }

theorem DeliverySound.refusing
    (sound : DeliverySound before)
    (down : before.down = .executeTask data :: rest)
    (isOpen : before.connectedOn before.current = true) :
    AgentStep before
      ({ before with down := rest }.report
        (DeliverySystem.noSessionReport data)) := by
  refine sound.reporting (fun _ => isOpen) ?_ ?_ ?_
  · refine List.Sublist.subperm ?_
    simp only [DeliverySystem.executions, down, List.filterMap_cons,
      ServerEvent.executes]
    exact List.sublist_cons_self _ _
  · intro taskId execution member reports
    exact .inl ⟨execution, member, reports⟩
  · intro taskId event member executes
    rw [down] at member
    rcases List.mem_cons.mp member with rfl | later
    · exact .inr ⟨Option.some.inj executes, failed_terminal⟩
    · exact .inl later

theorem mem_eraseIdx_of_ne
    {execution other : Execution}
    (isFound : executor[position]? = some execution)
    (member : other ∈ executor)
    (different : other ≠ execution) :
    other ∈ executor.eraseIdx position := by
  obtain ⟨elsewhere, otherFound⟩ := List.mem_iff_getElem?.mp member
  refine List.mem_eraseIdx_iff_getElem?.mpr ⟨elsewhere, ?_, otherFound⟩
  rintro rfl
  exact different (Option.some.inj (otherFound.symm.trans isFound))

theorem DeliverySound.endingSilently
    (sound : DeliverySound before)
    {execution : Execution}
    (isFound : before.executor[position]? = some execution)
    (silent : ∀ taskId, execution.willReport taskId = false) :
    AgentStep before
      { before with executor := before.executor.eraseIdx position } where
  server := rfl
  sent := rfl
  handled := rfl
  reading := sound.reading
  executions :=
    (((List.eraseIdx_sublist _ _).filterMap _).append_left _).subperm
  reported := fun _ member _ => .inl member
  unread := fun _ _ => id
  pending := by
    intro taskId waits
    rw [DeliverySystem.pending_iff] at waits ⊢
    refine waits.imp_left ?_
    rintro ⟨other, member, reports⟩
    refine ⟨other, mem_eraseIdx_of_ne isFound member ?_, reports⟩
    rintro rfl
    rw [silent] at reports
    cases reports

theorem DeliverySound.endingReported
    (sound : DeliverySound before)
    {execution : Execution}
    {data : TaskStatusData}
    (isFound : before.executor[position]? = some execution)
    (named :
      ∀ taskId, execution.willReport taskId = true → data.taskId = taskId)
    (terminal : data.taskStatus.terminal = true)
    (isOpen : before.connectedOn before.current = true) :
    AgentStep before
      ({ before with
        executor := before.executor.eraseIdx position }.report data) := by
  refine sound.reporting (fun _ => isOpen) ?_ ?_ fun _ _ member _ => .inl member
  · exact (((List.eraseIdx_sublist _ _).filterMap _).append_left _).subperm
  · intro taskId other member reports
    by_cases same : other = execution
    · rw [same] at reports
      exact .inr ⟨named taskId reports, terminal⟩
    · exact .inl ⟨other, mem_eraseIdx_of_ne isFound member same, reports⟩

theorem filterMap_task_set
    {execution next : Execution}
    (isFound : executor[position]? = some execution)
    (same : next.task = execution.task) :
    (executor.set position next).filterMap Execution.task =
      executor.filterMap Execution.task := by
  induction executor generalizing position with
  | nil =>
    rfl
  | cons first others inductionHypothesis =>
    cases position with
    | zero =>
      cases isFound
      simp only [List.set_cons_zero, List.filterMap_cons, same]
    | succ position =>
      simp only [List.set_cons_succ, List.filterMap_cons,
        inductionHypothesis isFound]

theorem DeliverySound.launching
    (sound : DeliverySound before)
    {report : TaskStatusData}
    (isFound : before.executor[position]? = some (.scheduled data))
    (pid : Int)
    (runs : report.taskStatus.terminal = false) :
    AgentStep before
      ({ before with
        executor :=
          before.executor.set position
            (.running data.taskId pid false) }.report report) := by
  refine sound.reporting ?_ ?_ ?_ fun _ _ member _ => .inl member
  · rw [runs]
    exact nofun
  · have same :
        (before.executor.set position
          (.running data.taskId pid false)).filterMap Execution.task =
            before.executor.filterMap Execution.task :=
      filterMap_task_set isFound rfl
    rw [same]
    exact .refl _
  · intro taskId other member reports
    obtain ⟨elsewhere, otherFound⟩ := List.mem_iff_getElem?.mp member
    left
    by_cases same : position = elsewhere
    · subst elsewhere
      rw [isFound] at otherFound
      cases otherFound
      refine ⟨.running data.taskId pid false, ?_, ?_⟩
      · exact List.mem_of_getElem? <|
          List.getElem?_set_self (List.getElem?_eq_some_iff.mp isFound).1
      · simpa [Execution.willReport] using reports
    · have stays :
          (before.executor.set position
            (.running data.taskId pid false))[elsewhere]? = some other :=
        (List.getElem?_set_ne same).trans otherFound
      exact ⟨other, List.mem_of_getElem? stays, reports⟩

theorem task_markCancelled
    (taskId : String)
    (execution : Execution) :
    (DeliverySystem.markCancelled taskId execution).task = execution.task := by
  cases execution <;> rfl

theorem willReport_markCancelled
    {cancelled taskId : String}
    (other : taskId ≠ cancelled)
    (execution : Execution) :
    (DeliverySystem.markCancelled cancelled execution).willReport taskId =
      execution.willReport taskId := by
  cases execution with
  | running found pid wasCancelled =>
    simp only [DeliverySystem.markCancelled, Execution.willReport]
    by_cases same : found = taskId
    · subst found
      simp [other]
    · simp [same]
  | _ =>
    rfl

section Keeping

variable
    (sound : DeliverySound before)
include sound

theorem DeliverySound.cancelling
    {report : TaskStatusData}
    (isFound : before.executor[position]? = some (.cancelling taskId))
    (named : report.taskId = taskId)
    (terminal : report.taskStatus.terminal = true)
    (isOpen : before.connectedOn before.current = true) :
    AgentStep before
      ({ before with
        executor :=
          (before.executor.eraseIdx position).map
            (DeliverySystem.markCancelled taskId) }.report report) := by
  refine sound.reporting (fun _ => isOpen) ?_ ?_ fun _ _ member _ => .inl member
  · refine List.Sublist.subperm ?_
    refine List.Sublist.append_left ?_ _
    simp only [List.filterMap_map, Function.comp_def, task_markCancelled]
    exact (List.eraseIdx_sublist _ _).filterMap _
  · intro waiting other member reports
    by_cases same : waiting = taskId
    · exact .inr ⟨named.trans same.symm, terminal⟩
    · left
      have different : other ≠ .cancelling taskId := by
        rintro rfl
        cases reports
      refine ⟨DeliverySystem.markCancelled taskId other,
        List.mem_map_of_mem (mem_eraseIdx_of_ne isFound member different), ?_⟩
      rw [willReport_markCancelled same]
      exact reports

theorem DeliverySound.notRunning
    (isFound : before.executor[position]? = some (.scheduled data)) :
    before.runningPid data.taskId = none := by
  refine List.findSome?_eq_none_iff.mpr ?_
  intro other member
  cases other with
  | running found pid cancelled =>
    refine if_neg ?_
    rintro rfl
    have later :
        .running data.taskId pid cancelled ∈
          before.executor.eraseIdx position :=
      mem_eraseIdx_of_ne isFound member nofun
    obtain ⟨inside, same⟩ := List.getElem?_eq_some_iff.mp isFound
    have parted :=
      (List.getElem_cons_eraseIdx_perm inside).filterMap Execution.task
    rw [same] at parted
    have tasks := (List.nodup_append.mp sound.once).2.1
    have once := (parted.nodup_iff.mpr tasks).notMem
    exact once (List.mem_filterMap.mpr ⟨_, later, rfl⟩)
  | _ =>
    rfl

theorem DeliverySound.beginning
    (isFound : before.executor[position]? = some (.scheduled data))
    (reliable : before.executesReliably outcome (.scheduled data))
    (taken : before.beginExecution position data outcome = some after) :
    AgentStep before after := by
  have notRunning := sound.notRunning isFound
  have allowed := reliable notRunning
  simp only [DeliverySystem.beginExecution, notRunning] at taken
  cases outcome with
  | launched pid =>
    cases taken
    exact sound.launching isFound pid rfl
  | launchFails error =>
    cases taken
    refine sound.endingReported isFound ?_ failed_terminal allowed
    intro taskId reports
    exact of_decide_eq_true reports
  | scriptUnwritable =>
    exact allowed.elim
  | _ =>
    cases taken

theorem DeliverySound.ending
    {pid : Int}
    {cancelled : Bool}
    (isFound :
      before.executor[position]? = some (.running taskId pid cancelled))
    (reliable : before.executesReliably outcome (.running taskId pid cancelled))
    (taken :
      before.endExecution position taskId pid cancelled outcome = some after) :
    AgentStep before after := by
  have named
      (other : String)
      (reports :
        (Execution.running taskId pid cancelled).willReport other = true) :
      taskId = other :=
    of_decide_eq_true (Bool.and_eq_true_iff.mp reports).1
  cases outcome with
  | exits code =>
    cases cancelled with
    | true =>
      cases taken
      refine sound.endingSilently isFound ?_
      intro other
      exact Bool.and_false _
    | false =>
      cases taken
      refine sound.endingReported isFound named ?_ (reliable rfl)
      show (TaskStatus.ofText (if code = 0 then _ else _)).terminal = true
      split <;> decide
  | timesOut =>
    cases taken
    have terminal : (TaskStatus.ofText "timeout").terminal = true := by
      decide
    exact sound.endingReported isFound named terminal reliable
  | raises error =>
    cases taken
    exact sound.endingReported isFound named failed_terminal reliable
  | _ =>
    cases taken

theorem DeliverySound.executing
    (reliable :
      ∀ execution ∈ before.executor[position]?,
        before.executesReliably outcome execution)
    (taken : before.resumeExecutor? position outcome = some after) :
    AgentStep before after := by
  unfold DeliverySystem.resumeExecutor? at taken
  split at taken
  · cases taken
  · rename_i data isFound
    exact sound.beginning isFound (reliable _ isFound) taken
  · rename_i taskId pid cancelled isFound
    exact sound.ending isFound (reliable _ isFound) taken
  · rename_i taskId isFound
    cases taken
    have allowed := reliable _ isFound
    cases running : before.runningPid taskId with
    | none =>
      simp only [DeliverySystem.cancelExecution, running]
      exact sound.endingSilently isFound fun _ => rfl
    | some pid =>
      simp only [DeliverySystem.cancelExecution, running]
      have isOpen : before.connectedOn before.current = true :=
        allowed (by rw [running]; rfl)
      exact sound.cancelling isFound rfl rfl isOpen

theorem DeliverySound.readingEvent
    {sessionFound : Bool}
    {event : ServerEvent}
    (down : before.down = event :: rest)
    (reliable : DeliversReports host before (.readEvent sessionFound)) :
    AgentStep before
      ({ before with down := rest }.handleEvent sessionFound event) := by
  cases event with
  | handshake =>
    exact sound.greeting down
  | cancelTask taskId =>
    exact sound.cancellationRead down
  | executeTask data =>
    simp only [DeliverySystem.handleEvent, DeliverySystem.executeTask]
    split
    · rename_i refused
      simp only [DeliversReports, down] at reliable
      exact sound.refusing down (reliable refused.1 refused.2)
    · exact sound.scheduling down

theorem DeliverySound.starting
    (top : before.manager = .top) :
    AgentStep before before.startOpening := by
  have elsewhere : before.manager ≠ .reading := by
    rw [top]
    exact nofun
  have offline : before.status ≠ .connected :=
    fun connected => elsewhere (sound.reading.mp connected)
  simp only [DeliverySystem.startOpening, if_neg offline]
  split
  · apply sound.managing elsewhere
    · exact offline
    · exact nofun
  · apply sound.managing elsewhere
    · exact nofun
    · exact nofun

theorem DeliverySound.resuming
    (ended : before.manager = .ended) :
    AgentStep before before.resumeManager := by
  have elsewhere : before.manager ≠ .reading := by
    rw [ended]
    exact nofun
  have offline : before.status ≠ .connected :=
    fun connected => elsewhere (sound.reading.mp connected)
  unfold DeliverySystem.resumeManager
  split
  · apply sound.managing elsewhere
    · exact offline
    · exact nofun
  · contradiction
  · apply sound.managing elsewhere
    · exact nofun
    · exact nofun

end Keeping

end Agent

end RpaPlatform.Tasks
