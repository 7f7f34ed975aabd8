import RpaPlatform.AgentHandshake
import RpaPlatform.AgentRuntime
import RpaPlatform.Coroutine
import RpaPlatform.TaskStore

namespace RpaPlatform.Agents

open Tasks (Json)

/-!
# The lifecycle handler

`AgentLifecycleEventHandler` on one connection: the handshake, the heartbeats
and the clean-up when the connection ends.  Each handler is a coroutine that
is suspended at its awaits; the server's state is shared with everything else
that runs, the state of the connection is the session's own.
-/

/-- What the server keeps: its databases and what it has in memory. -/
structure AgentServer where
  registry : AgentRegistry
  monitoring : Monitoring := {}
  tasks : Tasks.TaskDB
  logs : Tasks.Files
  /-- `int(time.time())`. -/
  clock : Int
  /-- The next `uuid4().hex`. -/
  uuid : String
  /-- The agents whose processes are being watched. -/
  watched : List String := []

structure AgentConnectionState where
  clientId : Option String := none
  authenticated : Bool := false

/-- What raises in a session. -/
inductive SessionError where
  /-- An `Exception`; a broken connection is one. -/
  | exception
  /-- The session is cancelled. -/
  | cancelled

/-- The server, and the session on one connection. -/
structure SessionState where
  server : AgentServer
  connection : AgentConnectionState := {}
  /-- The verdicts that have been sent. -/
  sent : List AuthResultData := []
  /-- The code with which the session has closed its connection. -/
  closed : Option Nat := none

/-- A coroutine of a session. -/
abbrev SessionCoroutine :=
  Coroutine SessionState SessionError

structure HandshakeData where
  clientId : String := ""
  hostname : String := ""
  fqdn : String := ""

/-- What the lifecycle handler uses. -/
structure LifecycleContext where
  auth : AgentAuth
  library : TextLibrary
  /-- The connection. -/
  socket : Nat
  authToken : Option String
  setWindowTracking : String → Coroutine AgentServer SessionError Unit

/-! ### Host names -/

/-- `str.rstrip` of dots. -/
def rstripDots (text : String) : String :=
  String.ofList (text.toList.rdropWhile (· = '.'))

/-- `_normalize_hostname`: the full name and the short one. -/
def normalizeHostname
    (library : TextLibrary)
    (value : String) : String × String :=
  let cleaned := library.lower (rstripDots (strip value))
  (cleaned, String.ofList (cleaned.toList.takeWhile (· ≠ '.')))

/-- Whether one of some candidates names the host; a text is needed. -/
def someMatches
    (library : TextLibrary)
    (expected : String × String) : List Json → Option Bool
  | [] =>
    some false
  | .str candidate :: rest =>
    let names := normalizeHostname library candidate
    if names.1 = "" && names.2 = "" then
      someMatches library expected rest
    else if expected.1 = names.1 || expected.1 = names.2 ||
        expected.2 = names.1 || expected.2 = names.2 then
      some true
    else
      someMatches library expected rest
  | _ :: _ =>
    none

/-- `_host_matches`; it raises for a candidate that is not a text. -/
def hostMatches
    (library : TextLibrary)
    (expectedValue : String)
    (candidates : List Json) : Option Bool :=
  let expected := normalizeHostname library expectedValue
  if expected.1 = "" && expected.2 = "" then
    some true
  else
    someMatches library expected candidates

/-- Whether a host is the one that is expected, if one is expected. -/
def hostAccepted
    (library : TextLibrary)
    (expected : String)
    (candidates : List Json) : Option Bool :=
  if expected = "" then some true
  else hostMatches library expected candidates

/-- The library functions, as far as ASCII texts are concerned. -/
def asciiTextLibrary : TextLibrary where
  lower text := String.ofList (text.toList.map Char.toLower)
  casefold text := String.ofList (text.toList.map Char.toLower)
  int := String.toInt?
  str _ := ""
  updatePairs fields
    | .arr [] => some fields
    | .str "" => some fields
    | _ => none
  columnText
    | .num value => some (toString value)
    | _ => none

/-! ### Texts -/

def HandshakeData.reportedHost (data : HandshakeData) : String :=
  orText (strip data.fqdn) (strip data.hostname)

def bootstrapExpiryError : String :=
  "Bootstrap token expired before the first successful agent start."

/-- The error of a deployment that was used on an unexpected host. -/
def hostMismatchError (display expected : String) : String :=
  "Agent attempted bootstrap from unexpected host '" ++ display ++
    "'. Expected '" ++ expected ++ "'."

def hostMismatchReason (display expected : String) : String :=
  "hostname mismatch: expected " ++ expected ++ ", got " ++ display

/-- The text that is stored for a host, unless the statement raises. -/
def boundHostname
    (library : TextLibrary)
    (expected : String)
    (hostname : Json) : Option String :=
  if expected ≠ "" then
    some expected
  else
    match hostname with
    | .str text => some text
    | value => if truthy value then library.columnText value else some ""

/-- The metrics of a heartbeat that has been merged. -/
def HeartbeatData.metrics
    (payload : HeartbeatData)
    (merged : Monitoring) : JsonObject :=
  let state :=
    (merged.runtime.latestStats.lookup payload.agentId).getD []
  match payload.systemMetrics, state.lookup "__agent_metrics" with
  | some _, some (.obj metrics) => metrics
  | _, _ => []

/-! ### What is left alone -/

/-- The tasks, their logs and what is monitored are the same. -/
structure Untouched (before after : AgentServer) : Prop where
  tasks : after.tasks = before.tasks
  logs : after.logs = before.logs
  monitoring : after.monitoring = before.monitoring

theorem Untouched.refl (server : AgentServer) : Untouched server server :=
  ⟨rfl, rfl, rfl⟩

/-- At most the registry and what is sent have changed. -/
structure Quiet (before after : SessionState) : Prop where
  connection : after.connection = before.connection
  server : Untouched before.server after.server

theorem Quiet.refl (state : SessionState) : Quiet state state :=
  ⟨rfl, rfl, rfl, rfl⟩

namespace SessionCoroutine

/-- Wait for a statement on the server's databases. -/
def statement (change : AgentServer → AgentServer) :
    SessionCoroutine Unit :=
  .waitFor
    (fun state => { state with server := change state.server })
    fun _ => ()

def query {Answer : Type} (view : AgentServer → Answer) :
    SessionCoroutine Answer :=
  .waitFor id fun state => view state.server

def pause : SessionCoroutine Unit :=
  .waitFor id fun _ => ()

/-- `int(time.time())`. -/
def now : SessionCoroutine Int :=
  .read fun state => state.server.clock

def inMemory (change : AgentServer → AgentServer) :
    SessionCoroutine Unit :=
  .modify fun state => { state with server := change state.server }

/-- A coroutine that knows nothing of the session. -/
def ofServer {Result : Type}
    (coroutine : Coroutine AgentServer SessionError Result) :
    SessionCoroutine Result :=
  coroutine.zoom SessionState.server fun server state => { state with server }

/-! ### The registry -/

/-- Change the registry. -/
def onRegistry
    (change : AgentRegistry → AgentRegistry)
    (server : AgentServer) : AgentServer :=
  { server with registry := change server.registry }

def authorizeAgent
    (auth : AgentAuth)
    (agentId : String)
    (token : Option String) : SessionCoroutine AuthResult := do
  let credentials ← query fun server =>
    server.registry.getAgentCredentials agentId
  let server ← .read SessionState.server
  let decision :=
    authorizeDecision auth agentId credentials token server.clock server.uuid
  match decision.1, decision.2 with
  | .raised, _ =>
    .raised .exception
  | result, none =>
    return result
  | result, some update => do
      statement (onRegistry (·.applyUpdate agentId server.clock update))
      pause
      return result

def upsertAgent
    (agentId : String)
    (change : AgentChange) : SessionCoroutine Unit := do
  let time ← now
  let existing ← query fun server => server.registry.getAgent agentId
  statement
    (onRegistry (·.writeAgent (mergeAgent agentId existing change time)))
  pause

def updateDeployment
    (deploymentId : String)
    (change : DeploymentChange) : SessionCoroutine Unit := do
  statement (onRegistry (·.updateDeployment deploymentId change))
  pause

def getLatestDeploymentForAgent
    (agentId : String) : SessionCoroutine (Option DeploymentRow) :=
  query fun server => server.registry.getLatestDeploymentForAgent agentId

def getExpectedHostnameForAgent
    (agentId : String) : SessionCoroutine String := do
  let agent ← query fun server => server.registry.getAgent agentId
  let hostname := strip ((agent.map fun row => row.hostname).getD "")
  if hostname ≠ "" then
    return hostname
  else do
    let deployment ← getLatestDeploymentForAgent agentId
    return strip ((deployment.map fun row => row.hostname).getD "")

/-! ### The handshake -/

def sendAuthResult (result : AuthResultData) : SessionCoroutine Unit :=
  .waitFor (fun state => { state with sent := state.sent ++ [result] })
    fun _ => ()

def close (code : Nat) : SessionCoroutine Unit :=
  .waitFor (fun state => { state with closed := some code }) fun _ => ()

/-- Record that a deployment could not be used in time. -/
def recordExpiry
    (clientId reason : String) :
    Option DeploymentRow → SessionCoroutine Unit
  | none =>
    return ()
  | some deployment =>
    if reason = "bootstrap token expired" then do
      let completedAt ← now
      updateDeployment deployment.id
        { status := some .expiredBootstrap
          error := some bootstrapExpiryError
          completedAt := some completedAt }
      let seenAt ← now
      upsertAgent clientId
        { status := some .bootstrapExpired
          connectionStatus := some .offline
          lastDeploymentId := some deployment.id
          lastSeenAt := some seenAt }
    else
      return ()

/-- `_handle_handshake`, of a peer that is not authorized. -/
def rejectHandshake
    (clientId reason : String) : SessionCoroutine Bool := do
  let latestDeployment ← getLatestDeploymentForAgent clientId
  recordExpiry clientId reason latestDeployment
  sendAuthResult { status := .error, reason }
  close 4401
  return false

/-- Record that a deployment was used on an unexpected host. -/
def recordMismatch
    (display expected : String) :
    Option DeploymentRow → SessionCoroutine Unit
  | none =>
    return ()
  | some deployment =>
    updateDeployment deployment.id
      { error := some (hostMismatchError display expected) }

/-- `_handle_handshake`, of a peer on an unexpected host. -/
def rejectHost
    (data : HandshakeData)
    (expected : String) : SessionCoroutine Bool := do
  let latestDeployment ← getLatestDeploymentForAgent data.clientId
  recordMismatch data.reportedHost expected latestDeployment
  let seenAt ← now
  upsertAgent data.clientId
    { hostname := expected
      status := some .hostnameMismatch
      connectionStatus := some .offline
      lastSeenAt := some seenAt }
  sendAuthResult
    { status := .error
      reason := hostMismatchReason data.reportedHost expected }
  close 4403
  return false

/-- `except Exception: pass`. -/
def ignoreException : SessionError → SessionCoroutine Unit
  | .exception => return ()
  | .cancelled => .raised .cancelled

def registerAgent
    (agentId : String)
    (socket : Nat) : SessionCoroutine Unit := do
  let server ← .read SessionState.server
  inMemory fun server =>
    { server with
      monitoring :=
        { server.monitoring with
          runtime :=
            server.monitoring.runtime.registerAgent agentId socket
              server.clock } }
  match server.monitoring.runtime.activeAgents.lookup agentId with
  | none =>
    return ()
  | some previous =>
    if previous = socket then
      return ()
    else
      pause.catching ignoreException

/-- Have the agent track its windows while they are watched. -/
def trackWindows
    (context : LifecycleContext)
    (clientId : String)
    (watched : List String) : SessionCoroutine Unit :=
  if clientId ∈ watched then
    ofServer (context.setWindowTracking clientId)
  else
    return ()

/-- `_handle_handshake`, of a peer that is authorized. -/
def acceptHandshake
    (context : LifecycleContext)
    (clientId : String)
    (issuedSecret : Option String) : SessionCoroutine Bool := do
  .modify fun state =>
    { state with
      connection :=
        { clientId := some clientId, authenticated := true } }
  sendAuthResult { accessToken := issuedSecret.getD "" }
  registerAgent clientId context.socket
  let seenAt ← now
  upsertAgent clientId
    { status := some .registered
      connectionStatus := some .online
      lastSeenAt := some seenAt }
  let watched ← .read fun state => state.server.watched
  trackWindows context clientId watched
  return true

def handleHandshake
    (context : LifecycleContext)
    (data : HandshakeData) : SessionCoroutine Bool := do
  let result ← authorizeAgent context.auth data.clientId context.authToken
  match result with
  | .authorized _ issuedSecret => do
      let expected ← getExpectedHostnameForAgent data.clientId
      let candidates := [.str (strip data.hostname), .str (strip data.fqdn)]
      match hostAccepted context.library expected candidates with
      | some true => acceptHandshake context data.clientId issuedSecret
      | some false => rejectHost data expected
      | none => .raised .exception
  | .rejected reason =>
    rejectHandshake data.clientId reason
  | .raised =>
    .raised .exception

/-! ### Heartbeats -/

/-- `merge_heartbeat`, and the metrics it leaves in the payload. -/
def mergeMetrics
    (library : TextLibrary)
    (payload : HeartbeatData) : SessionCoroutine JsonObject :=
  let merged := fun (server : AgentServer) =>
    mergeHeartbeat library payload server.clock server.monitoring
  .attempt
    (fun state =>
      { state with
        server :=
          { state.server with
            monitoring := (merged state.server).changed } })
    fun state =>
      if (merged state.server).raised then
        .error .exception
      else
        .ok (payload.metrics (merged state.server).changed)

/-- `_handle_heartbeat`, of an agent on an unexpected host. -/
def disconnectHost
    (clientId expected : String) : SessionCoroutine Bool := do
  let seenAt ← now
  upsertAgent clientId
    { hostname := expected
      status := some .hostnameMismatch
      connectionStatus := some .offline
      lastSeenAt := some seenAt }
  close 4403
  return false

/-- `_handle_heartbeat`, past the merge. -/
def recordHeartbeat
    (library : TextLibrary)
    (clientId : String)
    (metrics : JsonObject) : SessionCoroutine Bool := do
  let expected ← getExpectedHostnameForAgent clientId
  let hostname := fieldOr metrics "hostname" (.str "")
  let fqdn := fieldOr metrics "fqdn" (.str "")
  match hostAccepted library expected [hostname, fqdn] with
  | none =>
    .raised .exception
  | some false =>
    disconnectHost clientId expected
  | some true =>
    match boundHostname library expected hostname with
    | none =>
      .raised .exception
    | some hostname => do
        let seenAt ← now
        upsertAgent clientId
          { hostname
            status := some .active
            connectionStatus := some .online
            metadata := some metrics
            lastSeenAt := some seenAt }
        return true

def handleHeartbeat
    (library : TextLibrary)
    (payload : HeartbeatData) : SessionCoroutine Bool := do
  let connection ← .read SessionState.connection
  if connection.authenticated then do
    let metrics ← mergeMetrics library payload
    match connection.clientId.filter (· ≠ "") with
    | none => return true
    | some clientId => recordHeartbeat library clientId metrics
  else do
    close 4401
    return false

/-! ### The end of a connection -/

/-- Record that an agent has disconnected. -/
def recordOffline : Option String → SessionCoroutine Unit
  | none =>
    return ()
  | some clientId => do
      let seenAt ← now
      upsertAgent clientId
        { status := some .registered
          connectionStatus := some .offline
          lastSeenAt := some seenAt }

def unregisterAgent
    (clientId : Option String)
    (socket : Nat) : SessionCoroutine Bool :=
  let unregistered := fun (server : AgentServer) =>
    server.monitoring.runtime.unregisterAgent clientId socket server.clock
  .attempt
    (fun state =>
      { state with
        server :=
          { state.server with
            monitoring :=
              { state.server.monitoring with
                runtime := (unregistered state.server).1.changed } } })
    fun state =>
      if (unregistered state.server).1.raised then
        .error .exception
      else
        .ok (unregistered state.server).2

def cleanupConnection (socket : Nat) : SessionCoroutine Bool := do
  let connection ← .read SessionState.connection
  recordOffline (connection.clientId.filter (· ≠ ""))
  unregisterAgent connection.clientId socket

/-! ### What the handlers leave alone -/

theorem registry_quiet
    (change : AgentRegistry → AgentRegistry) :
    (statement (onRegistry change)).Steps Quiet :=
  Coroutine.steps_waitFor fun _ => ⟨rfl, rfl, rfl, rfl⟩

theorem query_quiet
    {Answer : Type}
    (view : AgentServer → Answer) :
    (query view).Steps Quiet :=
  Coroutine.steps_waitFor Quiet.refl

theorem pause_quiet : pause.Steps Quiet :=
  Coroutine.steps_waitFor Quiet.refl

theorem now_quiet : now.Steps Quiet :=
  Coroutine.steps_read Quiet.refl

theorem sendAuthResult_quiet (result : AuthResultData) :
    (sendAuthResult result).Steps Quiet :=
  Coroutine.steps_waitFor fun _ => ⟨rfl, rfl, rfl, rfl⟩

theorem close_quiet (code : Nat) : (close code).Steps Quiet :=
  Coroutine.steps_waitFor fun _ => ⟨rfl, rfl, rfl, rfl⟩

theorem authorizeAgent_quiet
    (auth : AgentAuth)
    (agentId : String)
    (token : Option String) :
    (authorizeAgent auth agentId token).Steps Quiet := by
  unfold authorizeAgent
  refine (query_quiet _).bind fun credentials => ?_
  refine (Coroutine.steps_read Quiet.refl).bind fun server => ?_
  dsimp only
  split
  · exact Coroutine.steps_raised _
  · exact Coroutine.steps_finished _
  · refine (registry_quiet _).bind fun _ => ?_
    exact pause_quiet.bind fun _ => Coroutine.steps_finished _

theorem upsertAgent_quiet
    (agentId : String)
    (change : AgentChange) :
    (upsertAgent agentId change).Steps Quiet := by
  unfold upsertAgent
  refine now_quiet.bind fun time => ?_
  refine (query_quiet _).bind fun existing => ?_
  exact (registry_quiet _).bind fun _ => pause_quiet

theorem updateDeployment_quiet
    (deploymentId : String)
    (change : DeploymentChange) :
    (updateDeployment deploymentId change).Steps Quiet :=
  (registry_quiet _).bind fun _ => pause_quiet

theorem getLatestDeploymentForAgent_quiet (agentId : String) :
    (getLatestDeploymentForAgent agentId).Steps Quiet :=
  query_quiet _

theorem getExpectedHostnameForAgent_quiet (agentId : String) :
    (getExpectedHostnameForAgent agentId).Steps Quiet := by
  unfold getExpectedHostnameForAgent
  refine (query_quiet _).bind fun agent => ?_
  dsimp only
  split
  · exact Coroutine.steps_finished _
  · exact (getLatestDeploymentForAgent_quiet _).bind fun _ =>
      Coroutine.steps_finished _

theorem recordExpiry_quiet
    (clientId reason : String)
    (latestDeployment : Option DeploymentRow) :
    (recordExpiry clientId reason latestDeployment).Steps Quiet := by
  cases latestDeployment with
  | none =>
    exact Coroutine.steps_finished _
  | some deployment =>
    by_cases expired : reason = "bootstrap token expired"
    · rw [recordExpiry, if_pos expired]
      refine now_quiet.bind fun completedAt => ?_
      refine (updateDeployment_quiet _ _).bind fun _ => ?_
      exact now_quiet.bind fun _ => upsertAgent_quiet _ _
    · rw [recordExpiry, if_neg expired]
      exact Coroutine.steps_finished _

theorem rejectHandshake_quiet (clientId reason : String) :
    (rejectHandshake clientId reason).Steps Quiet := by
  unfold rejectHandshake
  refine (getLatestDeploymentForAgent_quiet _).bind fun latestDeployment => ?_
  refine (recordExpiry_quiet _ _ _).bind fun _ => ?_
  refine (sendAuthResult_quiet _).bind fun _ => ?_
  exact (close_quiet _).bind fun _ => Coroutine.steps_finished _

theorem recordMismatch_quiet
    (display expected : String)
    (latestDeployment : Option DeploymentRow) :
    (recordMismatch display expected latestDeployment).Steps Quiet := by
  cases latestDeployment with
  | none =>
    exact Coroutine.steps_finished _
  | some deployment =>
    exact updateDeployment_quiet _ _

theorem rejectHost_quiet
    (data : HandshakeData)
    (expected : String) :
    (rejectHost data expected).Steps Quiet := by
  unfold rejectHost
  refine (getLatestDeploymentForAgent_quiet _).bind fun latestDeployment => ?_
  refine (recordMismatch_quiet _ _ _).bind fun _ => ?_
  refine now_quiet.bind fun seenAt => ?_
  refine (upsertAgent_quiet _ _).bind fun _ => ?_
  refine (sendAuthResult_quiet _).bind fun _ => ?_
  exact (close_quiet _).bind fun _ => Coroutine.steps_finished _

theorem recordHeartbeat_quiet
    (library : TextLibrary)
    (clientId : String)
    (metrics : JsonObject) :
    (recordHeartbeat library clientId metrics).Steps Quiet := by
  unfold recordHeartbeat
  refine (getExpectedHostnameForAgent_quiet _).bind fun expected => ?_
  dsimp only
  split
  · exact Coroutine.steps_raised _
  · refine now_quiet.bind fun seenAt => ?_
    refine (upsertAgent_quiet _ _).bind fun _ => ?_
    exact (close_quiet _).bind fun _ => Coroutine.steps_finished _
  · split
    · exact Coroutine.steps_raised _
    · refine now_quiet.bind fun seenAt => ?_
      exact (upsertAgent_quiet _ _).bind fun _ =>
        Coroutine.steps_finished _

theorem recordOffline_quiet (clientId : Option String) :
    (recordOffline clientId).Steps Quiet := by
  cases clientId with
  | none =>
    exact Coroutine.steps_finished _
  | some clientId =>
    exact now_quiet.bind fun _ => upsertAgent_quiet _ _

/-! ### The registry, with nothing in between -/

section Alone

variable
    {Result : Type}
    (state : SessionState)

@[simp]
theorem alone_bind_query
    {Answer : Type}
    (view : AgentServer → Answer)
    (continuation : Answer → SessionCoroutine Result) :
    ((query view).bind continuation).alone state =
      (continuation (view state.server)).alone state :=
  rfl

@[simp]
theorem alone_bind_now
    (continuation : Int → SessionCoroutine Result) :
    (now.bind continuation).alone state =
      (continuation state.server.clock).alone state :=
  rfl

@[simp]
theorem alone_bind_getLatestDeploymentForAgent
    (agentId : String)
    (continuation : Option DeploymentRow → SessionCoroutine Result) :
    ((getLatestDeploymentForAgent agentId).bind continuation).alone state =
      (continuation
        (state.server.registry.getLatestDeploymentForAgent
          agentId)).alone state :=
  rfl

@[simp]
theorem alone_bind_upsertAgent
    (agentId : String)
    (change : AgentChange)
    (continuation : Unit → SessionCoroutine Result) :
    ((upsertAgent agentId change).bind continuation).alone state =
      (continuation ()).alone
        { state with
          server :=
            onRegistry
              (·.upsertAgent agentId change state.server.clock)
              state.server } :=
  rfl

@[simp]
theorem alone_bind_getExpectedHostnameForAgent
    (agentId : String)
    (continuation : String → SessionCoroutine Result) :
    ((getExpectedHostnameForAgent agentId).bind continuation).alone state =
      (continuation
        (expectedHostname (state.server.registry.getAgent agentId)
          (state.server.registry.getLatestDeploymentForAgent
            agentId))).alone state := by
  unfold getExpectedHostnameForAgent expectedHostname
  rw [Coroutine.bind_eq, Coroutine.bind_assoc, alone_bind_query]
  dsimp only
  split
  · rfl
  · rfl

end Alone

end SessionCoroutine

end RpaPlatform.Agents
