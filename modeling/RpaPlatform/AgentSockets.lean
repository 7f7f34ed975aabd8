import RpaPlatform.AgentPresence

namespace RpaPlatform.Agents

open Tasks (Json)
open Transition

/-!
# Sessions that share the runtime and the registry

`run_agent_ws_session` on any number of websockets.  A session is suspended at
its awaits: while it is authorized and greeted, while `register_agent` closes
an earlier connection, and while `upsert_agent` reads the agent's row, writes
it and commits.  Every await may raise, which ends a handler but not the
session; the clean-up starts however the session ends.

Sessions are numbered by their sockets.  The operations on the runtime and the
registry that other parts of the server perform may come in between.
-/

/-! ### The state -/

/-- Where `upsert_agent` is. -/
inductive UpsertStage where
  | reading
  | writing (existing : Option AgentRecord)
  | committing

/-- A call of `upsert_agent`, with the time that it has read. -/
structure UpsertCall where
  agentId : String
  change : AgentChange
  time : Int

/-- Where a session is. -/
inductive SessionPoint where
  | receiving
  /-- `_handle_handshake` awaits the verdict and the expected host. -/
  | authorizing (clientId : String)
  /-- The verdict is being sent. -/
  | greeting (clientId : String)
  /-- `register_agent` closes an earlier connection. -/
  | replacing (clientId : String)
  /-- `_handle_heartbeat` awaits the expected host. -/
  | matching (metrics : JsonObject)
  /-- A handler stores what it knows, and may then leave the session. -/
  | upserting (call : UpsertCall) (stage : UpsertStage) (leaves : Bool)
  /-- `cleanup_connection` stores that the agent is offline. -/
  | cleaning (call : UpsertCall) (stage : UpsertStage)
  | ended (cleanedUp : Bool)

/-- A session on a websocket. -/
structure AgentSession where
  connection : AgentConnectionState := {}
  point : SessionPoint := .receiving

/-- The sessions, and what they share. -/
structure SocketSystem where
  registry : AgentRegistry
  monitoring : Monitoring := {}
  sessions : List AgentSession := []

namespace SocketSystem

variable (sys : SocketSystem)

def runtime : AgentRuntime :=
  sys.monitoring.runtime

def withRuntime (runtime : AgentRuntime) : SocketSystem :=
  { sys with monitoring := { sys.monitoring with runtime } }

/-- A session goes on to another point. -/
def goTo
    (socket : Nat)
    (session : AgentSession)
    (point : SessionPoint) : SocketSystem :=
  { sys with sessions := sys.sessions.set socket { session with point } }

/-- `unregister_agent`, at the end of the clean-up. -/
def finishCleanup (socket : Nat) (session : AgentSession) (now : Int) :
    SocketSystem :=
  let unregistered :=
    (sys.runtime.unregisterAgent session.connection.clientId socket now).1
  (sys.withRuntime unregistered.changed).goTo socket session
    (.ended !unregistered.raised)

/-- `cleanup_connection`, up to its first await. -/
def startCleanup (socket : Nat) (session : AgentSession) (now : Int) :
    SocketSystem :=
  match session.connection.clientId.filter (· ≠ "") with
  | none =>
    sys.finishCleanup socket session now
  | some agentId =>
    sys.goTo socket session (.cleaning
        { agentId
          change :=
            { status := some .registered
              connectionStatus := some .offline
              lastSeenAt := some now }
          time := now }
        .reading)

/-- A handler calls `upsert_agent`. -/
def startUpsert
    (socket : Nat)
    (session : AgentSession)
    (agentId : String)
    (change : AgentChange)
    (now : Int)
    (leaves : Bool) : SocketSystem :=
  sys.goTo socket session
    (.upserting { agentId, change, time := now } .reading leaves)

/-- The handshake stores that the agent is online. -/
def recordOnline
    (socket : Nat)
    (session : AgentSession)
    (clientId : String)
    (now : Int) : SocketSystem :=
  sys.startUpsert socket session clientId
    { status := some .registered
      connectionStatus := some .online
      lastSeenAt := some now }
    now false

/-- The statement of `upsert_agent`. -/
def write
    (call : UpsertCall)
    (existing : Option AgentRecord) : SocketSystem :=
  { sys with
    registry :=
      sys.registry.writeAgent
        (mergeAgent call.agentId existing call.change call.time) }

end SocketSystem

/-! ### Steps -/

/-- What a peer that presents itself is told. -/
inductive Verdict where
  | accepted
  /-- It is not authorized; an expired deployment is recorded. -/
  | rejected (expired : Option String)
  /-- It is on an unexpected host. -/
  | unexpectedHost (expected : String)
  | raises

/-- What comes of the host that a heartbeat names. -/
inductive HostCheck where
  | expected (hostname : String)
  | unexpected (hostname : String)
  | raises

/-- What can happen next. -/
inductive SocketAction where
  | connect
  | receiveHandshake (socket : Nat) (clientId : String)
  | authorize (socket : Nat) (verdict : Verdict) (now : Int)
  | greeted (socket : Nat) (sent : Bool) (now : Int)
  | replaced (socket : Nat) (now : Int)
  | receiveHeartbeat
      (socket : Nat)
      (payload : HeartbeatData)
      (now : Int)
  | checkHost (socket : Nat) (check : HostCheck) (now : Int)
  /-- An await of `upsert_agent` ends; it may raise. -/
  | upsert (socket : Nat) (done : Bool) (now : Int)
  /-- The same, in the clean-up. -/
  | clean (socket : Nat) (done : Bool) (now : Int)
  /-- The connection is lost, or the session is cancelled. -/
  | disconnect (socket : Nat) (now : Int)
  /-- A message that no connection depends on, or an exception. -/
  | resume (socket : Nat)
  /-- `timeout_agent` takes a connection off. -/
  | timeoutAgent (agentId : String)
  /-- Another operation resets the state of an agent. -/
  | resetAgent (agentId : String) (now : Int)
  /-- `_send_to_agent` could not send on the agent's connection. -/
  | sendFailed (agentId : String) (socket : Nat) (now : Int)
  | removeAgent (agentId : String)
  /-- Another operation on the registry. -/
  | changeRegistry (registry : AgentRegistry)

namespace SocketSystem

variable
    (library : TextLibrary)
    (sys : SocketSystem)
    (socket : Nat)
    (session : AgentSession)

/-- `_handle_handshake`, once the verdict is known. -/
def judge (clientId : String) (now : Int) : Verdict → SocketSystem
  | .accepted =>
    sys.goTo socket
      { session with
        connection :=
          { clientId := some clientId, authenticated := true } }
      (.greeting clientId)
  | .rejected none =>
    sys.startCleanup socket session now
  | .rejected (some deploymentId) =>
    sys.startUpsert socket session clientId
      { status := some .bootstrapExpired
        connectionStatus := some .offline
        lastDeploymentId := some deploymentId
        lastSeenAt := some now }
      now true
  | .unexpectedHost expected =>
    sys.startUpsert socket session clientId
      { hostname := expected
        status := some .hostnameMismatch
        connectionStatus := some .offline
        lastSeenAt := some now }
      now true
  | .raises =>
    sys.goTo socket session .receiving

/-- `register_agent`, up to where it closes an earlier connection. -/
def register (clientId : String) (now : Int) : SocketSystem :=
  let registered :=
    sys.withRuntime (sys.runtime.registerAgent clientId socket now)
  match sys.runtime.activeAgents.lookup clientId with
  | none =>
    registered.recordOnline socket session clientId now
  | some previous =>
    if previous = socket then
      registered.recordOnline socket session clientId now
    else
      registered.goTo socket session (.replacing clientId)

/-- `_handle_heartbeat`, up to its first await. -/
def heartbeat (payload : HeartbeatData) (now : Int) : SocketSystem :=
  if session.connection.authenticated then
    let merged := mergeHeartbeat library payload now sys.monitoring
    let reported := { sys with monitoring := merged.changed }
    if merged.raised || session.connection.clientId.all (· = "") then
      reported
    else
      reported.goTo socket session (.matching (payload.metrics merged.changed))
  else
    -- "handshake required"
    sys.startCleanup socket session now

/-- `_handle_heartbeat`, once the expected host is known. -/
def record
    (clientId : String)
    (metrics : JsonObject)
    (now : Int) : HostCheck → SocketSystem
  | .expected hostname =>
    sys.startUpsert socket session clientId
      { hostname
        status := some .active
        connectionStatus := some .online
        metadata := some metrics
        lastSeenAt := some now }
      now false
  | .unexpected hostname =>
    sys.startUpsert socket session clientId
      { hostname
        status := some .hostnameMismatch
        connectionStatus := some .offline
        lastSeenAt := some now }
      now true
  | .raises =>
    sys.goTo socket session .receiving

/-- An await of a handler's `upsert_agent` ends. -/
def stepUpsert
    (call : UpsertCall)
    (leaves : Bool)
    (now : Int) : UpsertStage → SocketSystem
  | .reading =>
    sys.goTo socket session
      (.upserting call (.writing (sys.registry.getAgent call.agentId)) leaves)
  | .writing existing =>
    (sys.write call existing).goTo socket session
      (.upserting call .committing leaves)
  | .committing =>
    if leaves then
      sys.startCleanup socket session now
    else
      sys.goTo socket session .receiving

/-- An await of the clean-up's `upsert_agent` ends. -/
def stepCleanup
    (call : UpsertCall)
    (now : Int) : UpsertStage → SocketSystem
  | .reading =>
    sys.goTo socket session
      (.cleaning call (.writing (sys.registry.getAgent call.agentId)))
  | .writing existing =>
    (sys.write call existing).goTo socket session (.cleaning call .committing)
  | .committing =>
    sys.finishCleanup socket session now

end SocketSystem

/-- A step of the session on a websocket. -/
def sessionStep?
    (library : TextLibrary)
    (sys : SocketSystem)
    (socket : Nat)
    (session : AgentSession) : SocketAction → Option SocketSystem
  | .receiveHandshake _ clientId =>
    match session.point with
    | .receiving =>
      some (sys.goTo socket session (.authorizing clientId))
    | _ => none
  | .authorize _ verdict now =>
    match session.point with
    | .authorizing clientId =>
      some (sys.judge socket session clientId now verdict)
    | _ => none
  | .greeted _ sent now =>
    match session.point with
    | .greeting clientId =>
      some <| if sent then
          sys.register socket session clientId now
        else
          sys.goTo socket session .receiving
    | _ => none
  | .replaced _ now =>
    match session.point with
    | .replacing clientId =>
      some (sys.recordOnline socket session clientId now)
    | _ => none
  | .receiveHeartbeat _ payload now =>
    match session.point with
    | .receiving =>
      some (sys.heartbeat library socket session payload now)
    | _ => none
  | .checkHost _ check now =>
    match session.point with
    | .matching metrics =>
      some
        (sys.record socket session
          (session.connection.clientId.getD "") metrics now check)
    | _ => none
  | .upsert _ done now =>
    match session.point with
    | .upserting call stage leaves =>
      some <| if done then
          sys.stepUpsert socket session call leaves now stage
        else
          sys.goTo socket session .receiving
    | _ => none
  | .clean _ done now =>
    match session.point with
    | .cleaning call stage =>
      some <| if done then
          sys.stepCleanup socket session call now stage
        else
          sys.goTo socket session (.ended false)
    | _ => none
  | .disconnect _ now =>
    match session.point with
    | .cleaning .. => none
    | .ended _ => none
    | _ => some (sys.startCleanup socket session now)
  | .resume _ =>
    match session.point with
    | .receiving => some sys
    | _ => none
  | _ => none

/-- What a step of a session does, at the point that it is taken at. -/
inductive SessionTaken
    (library : TextLibrary)
    (sys : SocketSystem)
    (socket : Nat)
    (session : AgentSession) : SocketAction → SocketSystem → Prop where
  | receiveHandshake {wanted : Nat} {clientId : String} :
      session.point = .receiving →
      SessionTaken library sys socket session
        (.receiveHandshake wanted clientId)
        (sys.goTo socket session (.authorizing clientId))
  | authorize {wanted clientId verdict now} :
      session.point = .authorizing clientId →
      SessionTaken library sys socket session (.authorize wanted verdict now)
        (sys.judge socket session clientId now verdict)
  | greeted {wanted clientId sent now} :
      session.point = .greeting clientId →
      SessionTaken library sys socket session (.greeted wanted sent now)
        (if sent then sys.register socket session clientId now
          else sys.goTo socket session .receiving)
  | replaced {wanted clientId now} :
      session.point = .replacing clientId →
      SessionTaken library sys socket session (.replaced wanted now)
        (sys.recordOnline socket session clientId now)
  | receiveHeartbeat {wanted payload now} :
      session.point = .receiving →
      SessionTaken library sys socket session
        (.receiveHeartbeat wanted payload now)
        (sys.heartbeat library socket session payload now)
  | checkHost {wanted metrics check now} :
      session.point = .matching metrics →
      SessionTaken library sys socket session (.checkHost wanted check now)
        (sys.record socket session
          (session.connection.clientId.getD "") metrics now check)
  | upsert {wanted done now call stage leaves} :
      session.point = .upserting call stage leaves →
      SessionTaken library sys socket session (.upsert wanted done now)
        (if done then
          sys.stepUpsert socket session call leaves now stage
        else sys.goTo socket session .receiving)
  | clean {wanted done now call stage} :
      session.point = .cleaning call stage →
      SessionTaken library sys socket session (.clean wanted done now)
        (if done then sys.stepCleanup socket session call now stage
          else sys.goTo socket session (.ended false))
  | disconnect {wanted now} :
      (∀ call stage, session.point ≠ .cleaning call stage) →
      (∀ cleanedUp, session.point ≠ .ended cleanedUp) →
      SessionTaken library sys socket session (.disconnect wanted now)
        (sys.startCleanup socket session now)
  | resume {wanted} :
      session.point = .receiving →
      SessionTaken library sys socket session (.resume wanted) sys

theorem sessionTaken
    {library : TextLibrary}
    {sys after : SocketSystem}
    {socket : Nat}
    {session : AgentSession}
    {action : SocketAction}
    (taken : sessionStep? library sys socket session action = some after) :
    SessionTaken library sys socket session action after := by
  unfold sessionStep? at taken
  split at taken
  case h_9 =>
    split at taken
    · cases taken
    · cases taken
    · cases taken
      constructor <;> assumption
  case h_11 =>
    cases taken
  all_goals
    split at taken
    · cases taken
      constructor
      assumption
    · cases taken

/-- The session that takes a step. -/
def SocketAction.socket : SocketAction → Option Nat
  | receiveHandshake socket _ => some socket
  | authorize socket _ _ => some socket
  | greeted socket _ _ => some socket
  | replaced socket _ => some socket
  | receiveHeartbeat socket _ _ => some socket
  | checkHost socket _ _ => some socket
  | upsert socket _ _ => some socket
  | clean socket _ _ => some socket
  | disconnect socket _ => some socket
  | resume socket => some socket
  | _ => none

/-- Take a step, if it can be taken. -/
def socketStep?
    (library : TextLibrary)
    (sys : SocketSystem)
    (action : SocketAction) : Option SocketSystem :=
  match action.socket with
  | some socket =>
    sys.sessions[socket]?.bind fun session =>
      sessionStep? library sys socket session action
  | none =>
    match action with
    | .connect =>
      some { sys with sessions := sys.sessions ++ [{}] }
    | .timeoutAgent agentId =>
      some (sys.withRuntime
          { sys.runtime with
            activeAgents :=
              Dictionary.erase agentId sys.runtime.activeAgents })
    | .resetAgent agentId now =>
      some
        (sys.withRuntime
          (sys.runtime.resetAgentRuntimeState agentId now).changed)
    | .sendFailed agentId socket now =>
      some
        (sys.withRuntime
          (sys.runtime.unregisterAgent (some agentId) socket now).1.changed)
    | .removeAgent agentId =>
      some (sys.withRuntime (sys.runtime.removeAgent agentId))
    | .changeRegistry registry =>
      some { sys with registry }
    | _ => none

def SocketSystem.started (registry : AgentRegistry) : SocketSystem where
  registry := registry

end RpaPlatform.Agents
