import RpaPlatform.AgentLifecycle

namespace RpaPlatform.Agents

open Tasks (Json)

/-!
# The session on one connection

`run_agent_ws_session`: frames are parsed and dispatched one after another.
An exception in the processing of a frame is logged and the next frame is
received; the connection is cleaned up however the session ends.
-/

/-- The data of an event, by the class that it was validated as. -/
inductive EventData where
  | handshake (data : HandshakeData)
  | heartbeat (data : HeartbeatData)
  | other (data : JsonObject)

structure NetworkEvent where
  type : String
  data : EventData

/-- Reading frames. -/
structure FrameLibrary where
  loads : String → Option Json
  /-- `model_validate` of the class that is registered for the type. -/
  validate : Json → Option NetworkEvent

/-- An access token is presented for the frontend. -/
def isAuthFrame (fields : JsonObject) : Bool :=
  (match fields.lookup "type" with
    | some (.str type) => type = "auth"
    | _ => false) &&
  truthy ((fields.lookup "access_token").getD .null)

namespace FrameLibrary

/-- The object that a frame presents to the frontend session. -/
def authPayload
    (frames : FrameLibrary)
    (message : String) : Option JsonObject :=
  match frames.loads message with
  | some (.obj fields) => if isAuthFrame fields then some fields else none
  | _ => none

/-- `parse_network_event`. -/
def parse
    (frames : FrameLibrary)
    (message : String) : Option NetworkEvent :=
  (frames.loads message).bind frames.validate

end FrameLibrary

/-! ### Dispatching -/

/-- A handler of events. -/
abbrev EventHandler :=
  NetworkEvent → SessionCoroutine Bool

abbrev EventRouter :=
  List (String × EventHandler)

namespace EventRouter

def register
    (eventTypes : List String)
    (handler : EventHandler)
    (router : EventRouter) : EventRouter :=
  eventTypes.foldl
    (fun router eventType => Dictionary.set eventType handler router)
    router

def dispatch
    (router : EventRouter)
    (event : NetworkEvent) : SessionCoroutine Bool :=
  match router.lookup event.type with
  | none => return false
  | some handler => handler event

end EventRouter

/-- `AgentSessionDependencies`. -/
structure SessionDependencies extends LifecycleContext where
  frames : FrameLibrary
  /-- The task handler, given the client that an event is from. -/
  handleTask :
    NetworkEvent → Option String → Coroutine AgentServer SessionError Bool
  /-- The process monitoring handler. -/
  handleMonitoring :
    NetworkEvent → Option String → Coroutine AgentServer SessionError Bool
  runFrontend : JsonObject → Coroutine AgentServer SessionError Unit

namespace SessionDependencies

open SessionCoroutine

variable (deps : SessionDependencies)

/-- `AgentLifecycleEventHandler.handle`. -/
def handleLifecycle (event : NetworkEvent) : SessionCoroutine Bool :=
  if event.type = "handshake" then
    match event.data with
    | .handshake data => handleHandshake deps.toLifecycleContext data
    | _ => return true
  else if event.type = "heartbeat" then
    match event.data with
    | .heartbeat payload => handleHeartbeat deps.library payload
    | _ => return true
  else
    return true

/-- A handler that is told which client an event is from. -/
def forClient
    (handler :
      NetworkEvent → Option String → Coroutine AgentServer SessionError Bool)
    (event : NetworkEvent) : SessionCoroutine Bool := do
  let connection ← .read SessionState.connection
  ofServer (handler event connection.clientId)

/-- `AgentLifecycleEventHandler.event_types`. -/
def lifecycleEventTypes : List String :=
  ["handshake", "heartbeat"]

/-- The router of a session. -/
def router : EventRouter :=
  EventRouter.register ["process_screenshot"]
    (forClient deps.handleMonitoring)
    (EventRouter.register ["task_output", "task_status"]
      (forClient deps.handleTask)
      (EventRouter.register lifecycleEventTypes deps.handleLifecycle []))

theorem router_eq :
    deps.router =
      [("handshake", deps.handleLifecycle),
        ("heartbeat", deps.handleLifecycle),
        ("task_output", forClient deps.handleTask),
        ("task_status", forClient deps.handleTask),
        ("process_screenshot", forClient deps.handleMonitoring)] :=
  rfl

theorem dispatch_lifecycle
    {event : NetworkEvent}
    (typed : event.type ∈ lifecycleEventTypes) :
    deps.router.dispatch event = deps.handleLifecycle event := by
  unfold EventRouter.dispatch
  rw [router_eq]
  rcases List.mem_cons.mp typed with handshake | later
  · rw [handshake]
    rfl
  · rw [List.mem_singleton.mp later]
    rfl

theorem steps_dispatch
    {guarantee : SessionState → SessionState → Prop}
    {event : NetworkEvent}
    (lifecycle : (deps.handleLifecycle event).Steps guarantee)
    (others : ∀ handler, (forClient handler event).Steps guarantee) :
    (deps.router.dispatch event).Steps guarantee := by
  by_cases typed : event.type ∈ lifecycleEventTypes
  · rw [deps.dispatch_lifecycle typed]
    exact lifecycle
  · unfold EventRouter.dispatch
    split
    · exact Coroutine.steps_finished _
    · rename_i handler found
      have member := Dictionary.mem_of_lookup found
      simp only [router_eq, List.mem_cons, Prod.mk.injEq, List.not_mem_nil,
        or_false] at member
      rcases member with
        ⟨_, rfl⟩ | ⟨_, rfl⟩ | ⟨_, rfl⟩ | ⟨_, rfl⟩ | ⟨_, rfl⟩
      · exact lifecycle
      · exact lifecycle
      · exact others _
      · exact others _
      · exact others _

/-- How a session goes on after a frame. -/
inductive Continuation where
  | receive
  | leave

/-- Dispatch an event. -/
def dispatchEvent (event : NetworkEvent) :
    SessionCoroutine Continuation := do
  let handled ← deps.router.dispatch event
  if event.type ∈ lifecycleEventTypes && !handled then
    return .leave
  else
    return .receive

/-- Process an event, for which a handshake may be required. -/
def processEvent (event : NetworkEvent) :
    SessionCoroutine Continuation := do
  let connection ← .read SessionState.connection
  if event.type ≠ "handshake" && !connection.authenticated then do
    close 4401
    return .leave
  else
    deps.dispatchEvent event

/-- Process a frame. -/
def processFrame (message : String) : SessionCoroutine Continuation :=
  match deps.frames.authPayload message with
  | some payload => do
      ofServer (deps.runFrontend payload)
      return .leave
  | none =>
    match deps.frames.parse message with
    | none => .raised .exception
    | some event => deps.processEvent event

def logException : SessionError → SessionCoroutine Continuation
  | .exception => return .receive
  | .cancelled => .raised .cancelled

/-- Receive frames until the session ends or the connection does. -/
def receiveFrames : List String → SessionCoroutine Unit
  | [] => do
      pause
      .raised .exception
  | message :: rest => do
      pause
      let continuation ← (deps.processFrame message).catching logException
      match continuation with
      | .receive => receiveFrames rest
      | .leave => return ()

/-- `run_agent_ws_session`, for the frames that come in. -/
def runAgentWsSession (messages : List String) : SessionCoroutine Unit :=
  Coroutine.ensuring
    ((deps.receiveFrames messages).catching ignoreException)
    (do let _ ← cleanupConnection deps.socket return ())

end SessionDependencies

end RpaPlatform.Agents
