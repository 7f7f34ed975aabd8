import RpaPlatform.Transition

namespace RpaPlatform.Agents

/-!
# Connections of an agent, one after another

The agent's connection manager and its main loop, and the sessions in which the
server reads what the agent sends.  The main loop comes round once a second and
is atomic; it learns of a new connection from a flag only.  A connection
delivers a prefix of what was sent on it, and nothing after the server has
closed it.
-/

inductive AgentConnectionStatus where
  | init
  | disconnected
  | connecting
  | connected
  | error
  | reconnecting
  | stop
deriving DecidableEq

/-- Where `connection_manager` is. -/
inductive ManagerPoint where
  | top
  /-- It awaits the closing of the connection before. -/
  | closing
  | opening
  /-- It awaits the read loop. -/
  | reading
  /-- The read loop has ended, and the manager has not resumed. -/
  | ended
  | delaying
  | stopped
deriving DecidableEq

/-- What the agent sends, as far as it matters here. -/
inductive AgentMessage where
  | handshake
  | heartbeat (sync : Bool)
deriving DecidableEq

/-- Whether a message is a heartbeat, and then whether it is a full one. -/
def AgentMessage.sync? : AgentMessage → Option Bool
  | handshake => none
  | heartbeat sync => some sync

/-- A connection and the server's session on it. -/
structure Link where
  /-- The server's greeting has not reached the agent. -/
  greeting : Bool := true
  /-- What the agent has sent and the session has not read. -/
  wire : List AgentMessage := []
  /-- The heartbeats that the server has merged. -/
  merged : List Bool := []
  authenticated : Bool := false
  closed : Bool := false
  cleanedUp : Bool := false

def Link.heartbeats (link : Link) : List Bool :=
  link.merged ++ link.wire.filterMap AgentMessage.sync?

/-- The agent and the server; connections are numbered as they are opened. -/
structure ReconnectSystem where
  status : AgentConnectionStatus := .init
  manager : ManagerPoint := .top
  /-- Whether the connection object has a socket. -/
  hasSocket : Bool := false
  init : Bool := false
  syncSentForCurrentConnection : Bool := false
  windowTrackingEnabled : Bool := false
  links : List Link := []
  /-- The connection registered for the agent. -/
  activeAgent : Option Nat := none
  /-- Timeouts that await the closing of a connection. -/
  timingOut : Nat := 0
  /-- Nothing has been merged since the runtime state was last reset. -/
  fresh : Bool := true
  /-- The heartbeats that were merged first after a reset. -/
  firsts : List Bool := []

namespace ReconnectSystem

def current (sys : ReconnectSystem) : Nat :=
  sys.links.length - 1

def updateLink
    (sys : ReconnectSystem)
    (link : Nat)
    (change : Link → Link) : ReconnectSystem :=
  { sys with links := sys.links.modify link change }

/-! ### The agent -/

/-- `send_event`; the task that it creates runs before any reconnect. -/
def sendEvent
    (sys : ReconnectSystem)
    (message : AgentMessage) : ReconnectSystem :=
  if sys.status = .connected then
    sys.updateLink sys.current fun link =>
      { link with wire := link.wire ++ [message] }
  else
    sys

def heartbeat (sys : ReconnectSystem) (sync : Bool) : ReconnectSystem :=
  sys.sendEvent (.heartbeat sync)

def consumePendingSync (sys : ReconnectSystem) : Bool × ReconnectSystem :=
  if sys.init && !sys.syncSentForCurrentConnection then
    (true, { sys with syncSentForCurrentConnection := true })
  else
    (false, sys)

/-- One round of the agent's main loop. -/
def mainLoop (sys : ReconnectSystem) : ReconnectSystem :=
  if sys.init then
    sys.consumePendingSync.2.heartbeat sys.consumePendingSync.1
  else
    { sys with syncSentForCurrentConnection := false }

/-- `_set_window_tracking`; the first refresh may raise. -/
def setWindowTracking
    (sys : ReconnectSystem)
    (enabled refreshed : Bool) : ReconnectSystem :=
  if sys.windowTrackingEnabled = enabled then
    sys
  else
    let tracking := { sys with windowTrackingEnabled := enabled }
    if enabled && refreshed then tracking.heartbeat true else tracking

/-- The server's greeting, as `handle_event` handles a handshake. -/
def greet (sys : ReconnectSystem) : ReconnectSystem :=
  let greeted := sys.updateLink sys.current fun link =>
    { link with greeting := false }
  if sys.init then
    greeted
  else
    { greeted with init := true }.sendEvent .handshake

/-- The top of `connection_manager`, up to the first `await` of `open`. -/
def startOpening (sys : ReconnectSystem) : ReconnectSystem :=
  let reset := { sys with init := false }
  if sys.hasSocket then
    if sys.status = .connected then
      -- There is no read loop to wait for, and waiting raises.
      { reset with manager := .delaying }
    else
      { reset with manager := .closing }
  else
    { reset with status := .connecting, manager := .opening }

/-- The manager after the read loop has ended. -/
def resumeManager (sys : ReconnectSystem) : ReconnectSystem :=
  match sys.status with
  | .stop => { sys with manager := .stopped }
  | .connected => { sys with manager := .top }
  | _ => { sys with status := .reconnecting, manager := .delaying }

/-! ### The server -/

def resetAgentRuntimeState (sys : ReconnectSystem) : ReconnectSystem :=
  { sys with fresh := true }

def closeLink (sys : ReconnectSystem) (link : Nat) : ReconnectSystem :=
  sys.updateLink link fun found => { found with closed := true }

/-- `register_agent`, after the session has been authenticated. -/
def registerAgent (sys : ReconnectSystem) (link : Nat) : ReconnectSystem :=
  let registered :=
    { sys.updateLink link fun found =>
        { found with authenticated := true } with
      activeAgent := some link }
  match sys.activeAgent with
  | none =>
    registered
  | some previous =>
    if previous = link then registered else registered.closeLink previous

def unregisterAgent (sys : ReconnectSystem) (link : Nat) : ReconnectSystem :=
  match sys.activeAgent with
  | none =>
    sys.resetAgentRuntimeState
  | some active =>
    if active = link then
      { sys with activeAgent := none }.resetAgentRuntimeState
    else
      sys

/-- `merge_heartbeat`, as far as what is merged first. -/
def mergeHeartbeat
    (sys : ReconnectSystem)
    (link : Nat)
    (sync : Bool) : ReconnectSystem :=
  { sys.updateLink link fun found =>
      { found with merged := found.merged ++ [sync] } with
    fresh := false
    firsts := if sys.fresh then sys.firsts ++ [sync] else sys.firsts }

/-- The session handles a message that it has read. -/
def handle
    (sys : ReconnectSystem)
    (link : Nat)
    (authenticated accepted : Bool) : AgentMessage → ReconnectSystem
  | .handshake =>
    if accepted then sys.registerAgent link else sys.closeLink link
  | .heartbeat sync =>
    if authenticated then
      sys.mergeHeartbeat link sync
    else
      sys.closeLink link

/-- The session reads a message and handles it. -/
def receive?
    (sys : ReconnectSystem)
    (link : Nat)
    (accepted : Bool) : Option ReconnectSystem :=
  match sys.links[link]? with
  | none => none
  | some found =>
    if found.closed then
      none
    else
      match found.wire with
      | [] => none
      | message :: rest =>
        some
          ((sys.updateLink link fun found =>
            { found with wire := rest }).handle link
              found.authenticated accepted message)

/-- `cleanup_connection`, once the session has stopped reading. -/
def cleanupConnection?
    (sys : ReconnectSystem)
    (link : Nat) : Option ReconnectSystem :=
  match sys.links[link]? with
  | none => none
  | some found =>
    if found.closed && !found.cleanedUp then
      let cleaned := sys.updateLink link fun found =>
        { found with cleanedUp := true }
      if found.authenticated then
        some (cleaned.unregisterAgent link)
      else
        some cleaned
    else
      none

end ReconnectSystem

/-- What can happen next. -/
inductive ReconnectAction where
  | mainLoop
  | startOpening
  | socketClosed
  | connect
  | openFails
  | greet
  | setWindowTracking (enabled refreshed : Bool)
  /-- The read loop ends; the server may have closed it for good. -/
  | endReadLoop (fatal : Bool)
  | resumeManager
  | delayOver
  | restart
  | receive (link : Nat) (accepted : Bool)
  | closeSession (link : Nat)
  | cleanupConnection (link : Nat)
  /-- `_send_to_agent` finds the registered connection broken. -/
  | sendFails
  | startTimeout
  | endTimeout
deriving DecidableEq

open ReconnectSystem in
/-- Take a step, if it can be taken. -/
def reconnectStep?
    (sys : ReconnectSystem) : ReconnectAction → Option ReconnectSystem
  | .mainLoop =>
    if sys.status = .stop then none else some sys.mainLoop
  | .startOpening =>
    if sys.manager = .top then some sys.startOpening else none
  | .socketClosed =>
    if sys.manager = .closing then
      some
        { sys with
          hasSocket := false
          status := .connecting
          manager := .opening }
    else
      none
  | .connect =>
    if sys.manager = .opening then
      some
        { sys with
          hasSocket := true
          status := .connected
          manager := .reading
          links := sys.links ++ [{}] }
    else
      none
  | .openFails =>
    if sys.manager = .closing ∨ sys.manager = .opening then
      some { sys with status := .error, manager := .delaying }
    else
      none
  | .greet =>
    match sys.links[sys.current]? with
    | none => none
    | some link =>
      if sys.manager = .reading ∧ link.greeting = true then
        some sys.greet
      else
        none
  | .setWindowTracking enabled refreshed =>
    if sys.manager = .reading then
      some (sys.setWindowTracking enabled refreshed)
    else
      none
  | .endReadLoop fatal =>
    if sys.manager = .reading then
      some
        { sys with
          status := if fatal then .stop else .error
          manager := .ended }
    else
      none
  | .resumeManager =>
    if sys.manager = .ended then some sys.resumeManager else none
  | .delayOver =>
    if sys.manager = .delaying then
      some { sys with manager := .top }
    else
      none
  | .restart =>
    some
      { sys with
        status := .init
        manager := .top
        hasSocket := false
        init := false
        syncSentForCurrentConnection := false
        windowTrackingEnabled := false }
  | .receive link accepted =>
    sys.receive? link accepted
  | .closeSession link =>
    some (sys.closeLink link)
  | .cleanupConnection link =>
    sys.cleanupConnection? link
  | .sendFails =>
    sys.activeAgent.map fun link =>
      (sys.closeLink link).unregisterAgent link
  | .startTimeout =>
    sys.activeAgent.map fun link =>
      { sys.closeLink link with
        activeAgent := none
        timingOut := sys.timingOut + 1 }
  | .endTimeout =>
    if sys.timingOut = 0 then
      none
    else
      some { sys with timingOut := sys.timingOut - 1 }.resetAgentRuntimeState

end RpaPlatform.Agents
