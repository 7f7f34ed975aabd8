import RpaPlatform.AgentReconnect
import RpaPlatform.TaskService

namespace RpaPlatform.Tasks

open Agents (AgentConnectionStatus ManagerPoint)

/-!
# Tasks between the server and an agent

The task subsystem of the server, one agent's executor, and the connections
between them.  The server's part is a `TaskSystem`: its steps are those of the
task service, and a step that calls `send_to_agent` for the agent also puts
the event on the agent's connection.  What the executor sends goes through
`send_event`, which needs a connection, and is read by the server's session on
that connection.

A connection delivers in order.  What the server has sent is read by the agent
until its read loop ends; what the agent has sent is read by the server's
session until the session ends.  Events that no task depends on (heartbeats,
task output) are left out.
-/

/-! ### Events -/

/-- The data of an `execute_task` event. -/
structure ExecuteTaskData where
  taskId : String
  script : String
  cwd : String
  timeoutSec : Int
  session : String
  env : List (String × Json)

/-- `str(config.get(key) or default)`; the factory stores texts there. -/
def textOr
    (config : List (String × Json))
    (key default : String) : String :=
  match config.lookup key with
  | some (.str value) => if value = "" then default else value
  | _ => default

/-- `int(config.get(key) or default)`. -/
def numberOr
    (config : List (String × Json))
    (key : String)
    (default : Int) : Int :=
  match config.lookup key with
  | some (.num value) => if value = 0 then default else value
  | _ => default

def TaskSpec.asAgentExecution (task : TaskSpec) : Option ExecuteTaskData :=
  (task.getComponent "execution").map fun component =>
    { taskId := task.id
      script := textOr component.config "script" task.script
      cwd := textOr component.config "cwd" task.cwd
      timeoutSec :=
        numberOr component.config "timeout_sec" task.timeoutSec
      session := textOr component.config "session" task.session
      env :=
        match component.config.lookup "env" with
        | some (.obj env) => env
        | _ => [] }

/-- What the server sends to the agent. -/
inductive ServerEvent where
  /-- The greeting. -/
  | handshake
  | executeTask (data : ExecuteTaskData)
  | cancelTask (taskId : String)

def ServerEvent.executes : ServerEvent → Option String
  | executeTask data => some data.taskId
  | _ => none

/-- What the agent sends to the server. -/
inductive AgentEvent where
  | handshake
  | taskStatus (data : TaskStatusData)

def TaskStatusData.taskStatus (data : TaskStatusData) : TaskStatus :=
  .ofText data.status

/-- A report that the task is in a terminal status. -/
def AgentEvent.ends (taskId : String) : AgentEvent → Bool
  | handshake => false
  | taskStatus data =>
    data.taskId = taskId && data.taskStatus.terminal

def AgentEvent.isFinal : AgentEvent → Bool
  | handshake => false
  | taskStatus data => data.taskStatus.terminal

/-! ### The state -/

/-- A coroutine of the executor. -/
inductive Execution where
  /-- `execute`, before it runs. -/
  | scheduled (data : ExecuteTaskData)
  /-- `execute`, registered in `_running`, waiting for its process. -/
  | running (taskId : String) (pid : Int) (cancelled : Bool)
  /-- `cancel`, before it runs. -/
  | cancelling (taskId : String)

/-- The task that a coroutine executes. -/
def Execution.task : Execution → Option String
  | scheduled data => some data.taskId
  | running taskId _ _ => some taskId
  | cancelling _ => none

/-- A coroutine that is still going to report how its task ended. -/
def Execution.willReport (taskId : String) : Execution → Bool
  | scheduled data => data.taskId = taskId
  | running found _ cancelled => found = taskId && !cancelled
  | cancelling _ => false

/-- What the server's session on a connection has to read. -/
structure TaskLink where
  up : List AgentEvent := []
  authenticated : Bool := false
  closed : Bool := false

/-- The server, the agent and their connections, numbered as opened. -/
structure DeliverySystem where
  server : TaskSystem
  status : AgentConnectionStatus := .init
  manager : ManagerPoint := .top
  /-- Whether the connection object has a socket. -/
  hasSocket : Bool := false
  init : Bool := false
  links : List TaskLink := []
  /-- What the agent has to read on its latest connection. -/
  down : List ServerEvent := []
  /-- The connection registered for the agent. -/
  activeAgent : Option Nat := none
  executor : List Execution := []
  /-- Whether the cancellation that a handler waits for was sent. -/
  cancelSent : Nat → Bool := fun _ => false
  /-- The tasks that were sent to the agent. -/
  sent : List String := []
  /-- The reports of the executor, and those that a session has handled. -/
  reported : List TaskStatusData := []
  handled : List TaskStatusData := []

namespace DeliverySystem

def current (sys : DeliverySystem) : Nat :=
  sys.links.length - 1

def updateLink
    (sys : DeliverySystem)
    (link : Nat)
    (change : TaskLink → TaskLink) : DeliverySystem :=
  { sys with links := sys.links.modify link change }

def closeLink (sys : DeliverySystem) (link : Nat) : DeliverySystem :=
  sys.updateLink link fun found => { found with closed := true }

def connectedOn (sys : DeliverySystem) (link : Nat) : Bool :=
  sys.status = .connected && link = sys.current &&
    (sys.links[link]?).any fun found => !found.closed

/-! ### The agent -/

/-- `send_event`; the task that it creates runs before any reconnect. -/
def sendEvent (sys : DeliverySystem) (event : AgentEvent) :
    DeliverySystem :=
  if sys.status = .connected then
    sys.updateLink sys.current fun link =>
      { link with up := link.up ++ [event] }
  else
    sys

/-- The executor sends a `task_status` event. -/
def report (sys : DeliverySystem) (data : TaskStatusData) :
    DeliverySystem :=
  { sys.sendEvent (.taskStatus data) with
    reported := sys.reported ++ [data] }

/-- `handle_event` of the lifecycle handler, for the server's greeting. -/
def greet (sys : DeliverySystem) : DeliverySystem :=
  if sys.init then
    sys
  else
    { sys with init := true }.sendEvent .handshake

/-- The report that a task's session is not there. -/
def noSessionReport (data : ExecuteTaskData) : TaskStatusData where
  taskId := data.taskId
  status := "failed"
  error :=
    some ("No active session found for user '" ++ data.session ++ "'")

/-- `_execute_task`; the system session is always there. -/
def executeTask
    (sys : DeliverySystem)
    (data : ExecuteTaskData)
    (sessionFound : Bool) : DeliverySystem :=
  if data.session ≠ "" ∧ sessionFound = false then
    sys.report (noSessionReport data)
  else
    { sys with executor := sys.executor ++ [.scheduled data] }

/-- The agent handles an event that it has read. -/
def handleEvent
    (sys : DeliverySystem)
    (sessionFound : Bool) : ServerEvent → DeliverySystem
  | .handshake => sys.greet
  | .executeTask data => sys.executeTask data sessionFound
  | .cancelTask taskId =>
    { sys with executor := sys.executor ++ [.cancelling taskId] }

/-- The process of a task in `_running`. -/
def runningPid (sys : DeliverySystem) (taskId : String) : Option Int :=
  sys.executor.findSome? fun
    | .running found pid _ => if found = taskId then some pid else none
    | _ => none

end DeliverySystem

/-- How an execution goes on. -/
inductive ExecutionOutcome where
  | launched (pid : Int)
  | launchFails (error : String)
  /-- The script cannot be written, which is not caught. -/
  | scriptUnwritable
  | exits (code : Int)
  | timesOut
  | raises (error : String)

namespace DeliverySystem

/-- `execute`, up to where it waits for the process. -/
def beginExecution
    (sys : DeliverySystem)
    (position : Nat)
    (data : ExecuteTaskData)
    (outcome : ExecutionOutcome) : Option DeliverySystem :=
  let ended := { sys with executor := sys.executor.eraseIdx position }
  if (sys.runningPid data.taskId).isSome then
    -- "already running, ignoring"
    some ended
  else
    match outcome with
    | .scriptUnwritable =>
      some ended
    | .launchFails error =>
      some <| ended.report
        { taskId := data.taskId, status := "failed",
          error := some error }
    | .launched pid =>
      some <|
        { sys with
          executor :=
            sys.executor.set position
              (.running data.taskId pid false) }.report
          { taskId := data.taskId, status := "running",
            pid := some pid }
    | _ => none

/-- `execute`, from the end of its process on. -/
def endExecution
    (sys : DeliverySystem)
    (position : Nat)
    (taskId : String)
    (pid : Int)
    (cancelled : Bool)
    (outcome : ExecutionOutcome) : Option DeliverySystem :=
  let ended := { sys with executor := sys.executor.eraseIdx position }
  match outcome with
  | .exits code =>
    if cancelled then
      some ended
    else
      some <| ended.report
        { taskId
          status := if code = 0 then "completed" else "failed"
          pid := some pid
          exitCode := some code }
  | .timesOut =>
    some <| ended.report { taskId, status := "timeout", pid := some pid }
  | .raises error =>
    some <| ended.report { taskId, status := "failed", error := some error }
  | _ => none

/-- The execution of a task is marked as cancelled. -/
def markCancelled (taskId : String) : Execution → Execution
  | .running found pid cancelled =>
    .running found pid (cancelled || found = taskId)
  | execution => execution

/-- `cancel`. -/
def cancelExecution
    (sys : DeliverySystem)
    (position : Nat)
    (taskId : String) : DeliverySystem :=
  let ended := { sys with executor := sys.executor.eraseIdx position }
  match sys.runningPid taskId with
  | none =>
    ended
  | some pid =>
    { ended with
      executor := ended.executor.map (markCancelled taskId) }.report
      { taskId, status := "cancelled", pid := some pid }

/-- A coroutine of the executor is resumed. -/
def resumeExecutor?
    (sys : DeliverySystem)
    (position : Nat)
    (outcome : ExecutionOutcome) : Option DeliverySystem :=
  match sys.executor[position]? with
  | none => none
  | some (.scheduled data) => sys.beginExecution position data outcome
  | some (.running taskId pid cancelled) =>
    sys.endExecution position taskId pid cancelled outcome
  | some (.cancelling taskId) => some (sys.cancelExecution position taskId)

/-- The top of `connection_manager`, up to the first `await` of `open`. -/
def startOpening (sys : DeliverySystem) : DeliverySystem :=
  let reset := { sys with init := false }
  if sys.hasSocket then
    if sys.status = .connected then
      -- There is no read loop to wait for, and waiting raises.
      { reset with manager := .delaying }
    else
      { reset with manager := .closing }
  else
    { reset with status := .connecting, manager := .opening }

/-- The manager after the read loop has ended. -/
def resumeManager (sys : DeliverySystem) : DeliverySystem :=
  match sys.status with
  | .stop => { sys with manager := .stopped }
  | .connected => { sys with manager := .top }
  | _ => { sys with status := .reconnecting, manager := .delaying }

/-! ### The server -/

/--
`_send_to_agent`, with the outcome of `send_text`; an event sent on a
connection that is not open on both sides is never read.
-/
def sendToAgent
    (sys : DeliverySystem)
    (event : ServerEvent)
    (sent : Bool) : Option DeliverySystem :=
  match sys.activeAgent with
  | none =>
    if sent then none else some sys
  | some link =>
    if sent then
      if sys.connectedOn link then
        some { sys with down := sys.down ++ [event] }
      else
        some sys
    else
      some { sys with activeAgent := none }

/-- `register_agent`, after the session has been authenticated. -/
def registerAgent (sys : DeliverySystem) (link : Nat) : DeliverySystem :=
  let registered :=
    { sys.updateLink link fun found =>
        { found with authenticated := true } with
      activeAgent := some link }
  match sys.activeAgent with
  | none =>
    registered
  | some previous =>
    if previous = link then registered else registered.closeLink previous

end DeliverySystem

/-- The server's environment and the agent's id. -/
structure DeliveryHost where
  server : Server
  agentId : String

namespace DeliverySystem

/--
A step of the task service.  A handler that sends a task or a cancellation to
the agent puts the event on its connection; other agents report on tasks that
were not sent to this one.
-/
def serve?
    (host : DeliveryHost)
    (sys : DeliverySystem)
    (action : Action) : Option DeliverySystem :=
  (step? host.server sys.server action).bind fun server =>
    let next := { sys with server }
    match action with
    | .taskStatus _ _ data _ =>
      if data.taskId ∈ sys.sent then none else some next
    | .resume slot answer =>
      match sys.server.frames slot, server.frames slot with
      | .dispatching _ _, .sending task sent _ =>
        match task.asAgentExecution with
        | none => none
        | some data =>
          if task.agentId = host.agentId then
            if sent then
              { next with sent := sys.sent ++ [task.id] }.sendToAgent
                (.executeTask data) true
            else
              next.sendToAgent (.executeTask data) false
          else
            some next
      | .cancelTask taskId _ (some row), .cancelSending _ _ =>
        let waiting :=
          { next with
            cancelSent :=
              Function.update sys.cancelSent slot answer.sent }
        if row.agentId = host.agentId then
          waiting.sendToAgent (.cancelTask taskId) answer.sent
        else
          some waiting
      | .cancelSending _ _, _ =>
        if answer.sent = sys.cancelSent slot then some next else none
      | _, _ =>
        some next
    | _ =>
      some next

/-- The session on a connection reads an event and handles it. -/
def receive?
    (host : DeliveryHost)
    (sys : DeliverySystem)
    (link slot : Nat)
    (accepted : Bool)
    (now : Int) : Option DeliverySystem :=
  match sys.links[link]? with
  | none => none
  | some found =>
    if found.closed then
      none
    else
      match found.up with
      | [] => none
      | event :: rest =>
        let read := sys.updateLink link fun found =>
          { found with up := rest }
        match event with
        | .handshake =>
          some <| if accepted then
              read.registerAgent link
            else
              read.closeLink link
        | .taskStatus data =>
          if found.authenticated then
            (step? host.server sys.server
              (.taskStatus slot (some host.agentId) data now)).map
              fun server =>
                { read with
                  server
                  handled := sys.handled ++ [data] }
          else
            -- "handshake required"
            some (read.closeLink link)

end DeliverySystem

/-! ### Steps -/

/-- What can happen next. -/
inductive DeliveryAction where
  /-- A step of the task service. -/
  | serve (action : Action)
  | receive (link slot : Nat) (accepted : Bool) (now : Int)
  | closeSession (link : Nat)
  | cleanupConnection (link : Nat)
  | timeoutAgent
  | startOpening
  | socketClosed
  | connect
  | openFails
  /-- The agent handles the next event that it has read. -/
  | readEvent (sessionFound : Bool)
  /-- The read loop ends; the server may have closed it for good. -/
  | endReadLoop (fatal : Bool)
  | resumeManager
  | delayOver
  | resumeExecutor (position : Nat) (outcome : ExecutionOutcome)

open DeliverySystem in
/-- Take a step, if it can be taken. -/
def deliveryStep?
    (host : DeliveryHost)
    (sys : DeliverySystem) : DeliveryAction → Option DeliverySystem
  | .serve action =>
    sys.serve? host action
  | .receive link slot accepted now =>
    sys.receive? host link slot accepted now
  | .closeSession link =>
    some (sys.closeLink link)
  | .cleanupConnection link =>
    if sys.activeAgent = some link then
      if (sys.links[link]?).any TaskLink.closed then
        some { sys with activeAgent := none }
      else
        none
    else
      none
  | .timeoutAgent =>
    sys.activeAgent.map fun link =>
      { sys.closeLink link with activeAgent := none }
  | .startOpening =>
    if sys.manager = .top then some sys.startOpening else none
  | .socketClosed =>
    if sys.manager = .closing then
      some
        { sys with
          hasSocket := false
          status := .connecting
          manager := .opening }
    else
      none
  | .connect =>
    if sys.manager = .opening then
      some
        { sys with
          hasSocket := true
          status := .connected
          manager := .reading
          links := sys.links ++ [{}]
          down := [.handshake] }
    else
      none
  | .openFails =>
    if sys.manager = .closing ∨ sys.manager = .opening then
      some { sys with status := .error, manager := .delaying }
    else
      none
  | .readEvent sessionFound =>
    if sys.manager = .reading then
      match sys.down with
      | [] => none
      | event :: rest =>
        some ({ sys with down := rest }.handleEvent sessionFound event)
    else
      none
  | .endReadLoop fatal =>
    if sys.manager = .reading then
      some
        { sys with
          status := if fatal then .stop else .error
          manager := .ended }
    else
      none
  | .resumeManager =>
    if sys.manager = .ended then some sys.resumeManager else none
  | .delayOver =>
    if sys.manager = .delaying then
      some { sys with manager := .top }
    else
      none
  | .resumeExecutor position outcome =>
    sys.resumeExecutor? position outcome

def DeliverySystem.started (files : Files) : DeliverySystem where
  server := .started .empty files

end RpaPlatform.Tasks
