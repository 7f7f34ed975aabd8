import RpaPlatform.UserSessions

namespace RpaPlatform.Agents

open Tasks (Json)
open Transition

/-!
# Websockets of frontends

`run_frontend_ws_session` on any number of websockets, and the broadcasts to
them.  A websocket presents an access token when it is opened; its user is
looked up then, and kept.  What it receives afterwards is forwarded to agents,
or says which agents' windows are to be tracked.
-/

/-! ### Messages -/

/-- An event that a frontend sends. -/
structure FrontendEvent where
  type : String
  agentId : String := ""
  data : JsonObject := []

/-- What is sent to a frontend. -/
inductive FrontendMessage where
  | authOk
  | agentsSnapshot (data : JsonObject)
  | taskEvent (data : Json)
  | processScreenshot (data : Json)
  | commandRejected (eventType : String) (minimumRole : Role)

/-- What is sent to an agent for a frontend. -/
inductive ForwardedMessage where
  | event (event : FrontendEvent)
  | setWindowTracking (enabled : Bool)

/-- What a step sends. -/
inductive FrontendOutput where
  | shown (socket : Nat) (message : FrontendMessage)
  /-- What was received on a websocket is forwarded to an agent. -/
  | forwarded (socket : Nat) (agentId : String) (message : ForwardedMessage)
  /-- A websocket leaves, and nobody else watches the agent. -/
  | unwatched (agentId : String)

/-! ### What agents report -/

namespace AgentRuntime

variable (runtime : AgentRuntime)

/-- `get_default_target_agent_id`. -/
def defaultTargetAgentId : String :=
  match runtime.activeAgents with
  | [(agentId, _)] => agentId
  | _ => ""

def isConnected (agentId : String) : Bool :=
  (runtime.activeAgents.lookup agentId).isSome

/-- The number of processes that a session's summary states. -/
def processCount (session : JsonObject) : Json :=
  let counted := Json.num (mappingFields (getField session "processes")).length
  match getField session "process_count" with
  | .num count => if 0 ≤ count then .num count else counted
  | .bool flag => .bool flag
  | _ => counted

/-- The summary of a session, without its processes. -/
def sessionSummary (session : JsonObject) : JsonObject :=
  Dictionary.set "processes" (.obj [])
    (Dictionary.set "process_count" (processCount session)
      (Dictionary.erase "processes" session))

/-- The summary of an agent. -/
def agentSummary (state : JsonObject) : JsonObject :=
  let given := fun key =>
    ((state.lookup key).map fun value => (key, value)).toList
  let sessions :=
    state.filterMap fun (key, value) =>
      match value with
      | .obj session =>
        if key.startsWith "__" then
          none
        else
          some (key, Json.obj (sessionSummary session))
      | _ => none
  given "__agent_metrics" ++ given "__agent_connection" ++ sessions

def buildFrontendSnapshot : JsonObject :=
  runtime.latestStats.map fun (agentId, state) =>
    (agentId, .obj (agentSummary state))

end AgentRuntime

/-! ### The state -/

/-- Where the session of a websocket is. -/
inductive FrontendPoint where
  /-- The first message is still to come. -/
  | connected
  /-- `auth_ok` is being sent. -/
  | greeting
  /-- The first snapshot is being sent. -/
  | showing
  | receiving
  /-- A handler sends something. -/
  | handling
  /-- It is over; some agents are watched still. -/
  | leaving (watched : List String)
  | ended

/-- A websocket, with what `ws.state` holds and the agents it watches. -/
structure FrontendSocket where
  userSession : Option UserSession := none
  watched : List String := []
  point : FrontendPoint := .connected

namespace FrontendSocket

variable (frontend : FrontendSocket)

def isOpen : Bool :=
  match frontend.point with
  | .ended => false
  | _ => true

/-- `websocket_has_agent_visibility`. -/
def hasAgentVisibility : Bool :=
  frontend.userSession.any fun session => session.user.hasAgentVisibility

/-- `websocket_has_minimum_role`. -/
def hasMinimumRole (library : TextLibrary) (minimumRole : Role) : Bool :=
  frontend.userSession.any fun session =>
    session.user.hasMinimumRole library minimumRole

end FrontendSocket

/-- A broadcast, with the websockets that it has not come to. -/
structure Broadcast where
  message : FrontendMessage
  remaining : List Nat

/-- The server, as far as frontends depend on it. -/
structure FrontendServer where
  now : Int
  userSessions : UserSessions := .empty
  runtime : AgentRuntime := {}
  sockets : List FrontendSocket := []
  /-- `frontend_clients`. -/
  clients : List Nat := []
  /-- `process_manager_watchers`. -/
  watchers : List (String × List Nat) := []
  broadcasts : List Broadcast := []

/-! ### Handlers -/

/-- The event types of `AgentCommandHandler` that take an operator. -/
def operatorEventTypes : List String :=
  ["start_program", "start_monitored_process", "create_session"]

/-- The event types of `AgentCommandHandler`. -/
def agentCommandTypes : List String :=
  operatorEventTypes ++ ["capture_process_screenshot"]

namespace FrontendServer

variable
    (server : FrontendServer)
    (socket : Nat)
    (frontend : FrontendSocket)

def withSocket : FrontendServer :=
  { server with sockets := server.sockets.set socket frontend }

/-- `_forward_frontend_event`: the agent that an event goes to. -/
def forwardTarget? (requested : String) : Option String :=
  let target := orText requested server.runtime.defaultTargetAgentId
  if target ≠ "" && server.runtime.isConnected target then
    some target
  else
    none

/-- `AgentCommandHandler.handle`. -/
def handleCommand (library : TextLibrary) (event : FrontendEvent) :
    List FrontendOutput :=
  if event.type ∈ operatorEventTypes ∧
      frontend.hasMinimumRole library .operator = false then
    [.shown socket (.commandRejected event.type .operator)]
  else
    (server.forwardTarget? event.agentId).toList.map fun agentId =>
      .forwarded socket agentId (.event event)

/-- The message that switches the tracking of windows, if it arrives. -/
def trackingOutput (agentId : String) (enabled : Bool) :
    List FrontendOutput :=
  if server.runtime.isConnected agentId then
    [.forwarded socket agentId (.setWindowTracking enabled)]
  else
    []

def addWatcher (agentId : String) :
    FrontendServer × List FrontendOutput :=
  let watchers := (server.watchers.lookup agentId).getD []
  if agentId = "" ∨ agentId ∈ frontend.watched then
    (server.withSocket socket { frontend with point := .handling }, [])
  else
    ({ server.withSocket socket
          { frontend with
            watched := frontend.watched ++ [agentId]
            point := .handling } with
        watchers :=
          Dictionary.set agentId (watchers.insert socket) server.watchers },
      if watchers.isEmpty then
        server.trackingOutput socket agentId true
      else
        [])

/-- Whether a websocket is the last one that watches an agent. -/
def isLastWatcher (agentId : String) : Bool :=
  match server.watchers.lookup agentId with
  | none => false
  | some watchers =>
    !watchers.isEmpty && (watchers.erase socket).isEmpty

/-- A websocket no longer watches an agent. -/
def withoutWatcher (agentId : String) : FrontendServer :=
  match server.watchers.lookup agentId with
  | none => server
  | some watchers =>
    { server with
      watchers :=
        if server.isLastWatcher socket agentId then
          Dictionary.erase agentId server.watchers
        else
          Dictionary.set agentId (watchers.erase socket)
            server.watchers }

/-- `remove_watcher`, for an event. -/
def removeWatcher (agentId : String) :
    FrontendServer × List FrontendOutput :=
  if agentId = "" then
    (server.withSocket socket { frontend with point := .handling }, [])
  else
    ((server.withoutWatcher socket agentId).withSocket socket
        { frontend with
          watched := frontend.watched.erase agentId
          point := .handling },
      if server.isLastWatcher socket agentId then
        server.trackingOutput socket agentId false
      else
        [])

/-- `EventRouter.dispatch`, up to where a handler sends something. -/
def dispatch (library : TextLibrary) (event : FrontendEvent) :
    FrontendServer × List FrontendOutput :=
  if event.type ∈ agentCommandTypes then
    (server.withSocket socket { frontend with point := .handling },
      server.handleCommand socket frontend library event)
  else if event.type = "watch_process_manager" then
    server.addWatcher socket frontend event.agentId
  else if event.type = "unwatch_process_manager" then
    server.removeWatcher socket frontend event.agentId
  else
    (server.withSocket socket { frontend with point := .handling }, [])

/-- The websocket is a client; a snapshot follows if there are any stats. -/
def welcome : FrontendServer × List FrontendOutput :=
  let welcomed := { server with clients := server.clients.insert socket }
  if server.runtime.latestStats.isEmpty then
    (welcomed.withSocket socket
        { frontend with watched := [], point := .receiving },
      [])
  else
    (welcomed.withSocket socket
        { frontend with watched := [], point := .showing },
      [.shown socket (.agentsSnapshot (if frontend.hasAgentVisibility then
            server.runtime.buildFrontendSnapshot
          else
            []))])

end FrontendServer

/-- What a broadcast sends to a websocket, if anything. -/
def Broadcast.shown? (message : FrontendMessage) (visible : Bool) :
    Option FrontendMessage :=
  match message with
  | .agentsSnapshot data =>
    some (.agentsSnapshot (if visible then data else []))
  | message =>
    if visible then some message else none

/-! ### Steps -/

/-- What can happen next. -/
inductive FrontendAction where
  | connect
  /-- The first message presents an access token. -/
  | authenticate (socket : Nat) (accessToken : String)
  | greeted (socket : Nat) (sent : Bool)
  | shown (socket : Nat) (sent : Bool)
  | receive (socket : Nat) (event : FrontendEvent)
  | handled (socket : Nat)
  /-- The websocket is closed, or something raises. -/
  | leave (socket : Nat)
  /-- The next agent that a leaving websocket watches is taken off. -/
  | unwatch (socket : Nat)
  | broadcast (message : FrontendMessage)
  /-- A broadcast comes to its next websocket. -/
  | deliver (broadcast : Nat) (sent : Bool)
  /-- A user logs in. -/
  | createSession
      (accessToken : String)
      (user : UserIdentity)
      (ttlSeconds : Int)
  | getSession (accessToken : String)
  | revokeSession (accessToken : String)
  | tick (now : Int)
  /-- What agents do. -/
  | changeRuntime (runtime : AgentRuntime)

/-- A step of the session of a websocket. -/
def frontendSocketStep?
    (library : TextLibrary)
    (server : FrontendServer)
    (socket : Nat)
    (frontend : FrontendSocket) :
    FrontendAction → Option (FrontendServer × List FrontendOutput)
  | .authenticate _ accessToken =>
    match frontend.point with
    | .connected =>
      let got :=
        server.userSessions.getSession (strip accessToken) server.now
      let looked := { server with userSessions := got.1 }
      match got.2 with
      | none =>
        some (looked.withSocket socket { frontend with point := .ended }, [])
      | some session =>
        some (looked.withSocket socket
            { frontend with
              userSession := some session
              point := .greeting },
            [.shown socket .authOk])
    | _ => none
  | .greeted _ sent =>
    match frontend.point with
    | .greeting =>
      if sent then
        some (server.welcome socket frontend)
      else
        some (server.withSocket socket { frontend with point := .ended }, [])
    | _ => none
  | .shown _ sent =>
    match frontend.point with
    | .showing =>
      let point := if sent then .receiving else .ended
      some (server.withSocket socket { frontend with point }, [])
    | _ => none
  | .receive _ event =>
    match frontend.point with
    | .receiving => some (server.dispatch socket frontend library event)
    | _ => none
  | .handled _ =>
    match frontend.point with
    | .handling =>
      some (server.withSocket socket { frontend with point := .receiving }, [])
    | _ => none
  | .leave _ =>
    match frontend.point with
    | .connected =>
      some (server.withSocket socket { frontend with point := .ended }, [])
    | .receiving =>
      some
        (server.withSocket socket
          { frontend with point := .leaving frontend.watched },
          [])
    | .handling =>
      some
        (server.withSocket socket
          { frontend with point := .leaving frontend.watched },
          [])
    | _ => none
  | .unwatch _ =>
    match frontend.point with
    | .leaving [] =>
      some
        ({ server.withSocket socket
              { frontend with watched := [], point := .ended } with
            clients := server.clients.erase socket },
          [])
    | .leaving (agentId :: rest) =>
      some
        ((server.withoutWatcher socket agentId).withSocket socket
          { frontend with
            watched := frontend.watched.erase agentId
            point := .leaving rest },
          if server.isLastWatcher socket agentId then
            [.unwatched agentId]
          else
            [])
    | _ => none
  | _ => none

/-- The websocket whose session takes a step. -/
def FrontendAction.socket : FrontendAction → Option Nat
  | authenticate socket _ => some socket
  | greeted socket _ => some socket
  | shown socket _ => some socket
  | receive socket _ => some socket
  | handled socket => some socket
  | leave socket => some socket
  | unwatch socket => some socket
  | _ => none

/-- A broadcast comes to its next websocket. -/
def deliverStep?
    (server : FrontendServer)
    (position : Nat)
    (sent : Bool) : Option (FrontendServer × List FrontendOutput) := do
  let broadcast ← server.broadcasts[position]?
  let socket ← broadcast.remaining.head?
  let frontend ← server.sockets[socket]?
  let passed :=
    { server with
      broadcasts :=
        server.broadcasts.set position
          { broadcast with remaining := broadcast.remaining.tail } }
  match Broadcast.shown? broadcast.message frontend.hasAgentVisibility with
  | none => some (passed, [])
  | some message =>
    if sent then
      if frontend.isOpen then
        some (passed, [.shown socket message])
      else
        none
    else
      some ({ passed with clients := server.clients.erase socket }, [])

/-- Take a step, if it can be taken, and say what it sends. -/
def frontendStep?
    (library : TextLibrary)
    (server : FrontendServer)
    (action : FrontendAction) :
    Option (FrontendServer × List FrontendOutput) :=
  match action.socket with
  | some socket =>
    server.sockets[socket]?.bind fun frontend =>
      frontendSocketStep? library server socket frontend action
  | none =>
    match action with
    | .connect =>
      some ({ server with sockets := server.sockets ++ [{}] }, [])
    | .broadcast message =>
      some
        ({ server with
            broadcasts :=
              server.broadcasts ++
                [{ message, remaining := server.clients }] },
          [])
    | .deliver position sent => deliverStep? server position sent
    | .createSession accessToken user ttlSeconds =>
      some
        ({ server with
            userSessions :=
              server.userSessions.createSession accessToken user
                ttlSeconds server.now },
          [])
    | .getSession accessToken =>
      some
        ({ server with
            userSessions :=
              (server.userSessions.getSession accessToken
                server.now).1 },
          [])
    | .revokeSession accessToken =>
      some
        ({ server with
            userSessions :=
              server.userSessions.revokeSession accessToken },
          [])
    | .tick now =>
      if server.now ≤ now then
        some ({ server with now }, [])
      else
        none
    | .changeRuntime runtime => some ({ server with runtime }, [])
    | _ => none

/-- The state after a step. -/
def frontendNext?
    (library : TextLibrary)
    (server : FrontendServer)
    (action : FrontendAction) : Option FrontendServer :=
  (frontendStep? library server action).map Prod.fst

end RpaPlatform.Agents
