import RpaPlatform.FrontendSockets
import RpaPlatform.GuacamoleProxy
import RpaPlatform.TaskReads

namespace RpaPlatform.Agents

open Tasks (CreatePipelineRequest CreateTaskRequest Json LogReader
  PipelineRow RunPipelineRequest ReadResponse TaskRead TaskResponse TaskSpec
  TaskStore)

/-!
# The routers of tasks, deployments and Guacamole

What each endpoint responds to a user who is logged on.  An endpoint may ask
for a role, and it may hide what it reads from users who see no agents; each
does so on its own.
-/

/-! ### Deployments -/

/-- A row of `agent_deployments`, with all its columns. -/
structure DeploymentRecord extends DeploymentRow where
  releaseId : Option String := none
  requestedBy : String := "user"
  taskId : Option String := none
  commitSha : String := ""
  tagName : String := ""
  artifactDir : String := ""
  artifactExePath : String := ""
  packageZipPath : String := ""
  bootstrapPath : String := ""
  installScriptPath : String := ""
  installerCopyPath : String := ""
  metadata : JsonObject := []
  buildLog : String := ""
  startedAt : Option Int := none

namespace DeploymentRecord

variable (deployment : DeploymentRecord)

def key : String :=
  deployment.id

def isActive : Bool :=
  deployment.status = .queued || deployment.status = .building ||
    deployment.status = .preparing

/-- `DeploymentResponse`; it leaves the metadata out. -/
def toResponse : DeploymentRecord :=
  { deployment with metadata := [] }

end DeploymentRecord

/-- The deployments by their ids. -/
abbrev Deployments :=
  KeyedTable DeploymentRecord DeploymentRecord.key

namespace Deployments

variable (deployments : Deployments)

def getActiveDeployment : Option DeploymentRecord :=
  ((deployments.rows.filter DeploymentRecord.isActive).insertionSort
    fun first second => first.createdAt ≤ second.createdAt).head?

def getDeployments (agentId : Option String) (limit : Nat) :
    List DeploymentRecord :=
  ((deployments.rows.filter fun deployment =>
      Tasks.passes agentId deployment.agentId).insertionSort
    fun first second => second.createdAt ≤ first.createdAt).take limit

end Deployments

structure DeploymentListQuery where
  agentId : Option String := none
  limit : Nat := 100
  limitPositive : 1 ≤ limit

/-- `GuacamoleProvisioningDiagnosticsResponse`. -/
structure ProvisioningDiagnostics where
  available : Bool
  deploymentId : String
  agentId : String
  hostname : String
  dataSource : String := ""
  detail : Option String
  group : JsonObject := []
  connection : JsonObject := []

/-- A field of a response that is a text or nothing. -/
def optionalText? : Json → Option (Option String)
  | .null => some none
  | .str text => some (some text)
  | _ => none

/-- The diagnostics of a deployment, if they make a response. -/
def provisioningDiagnostics
    (library : TextLibrary)
    (deployment : DeploymentRecord) : Option ProvisioningDiagnostics :=
  let described := fun detail : Option String =>
    { available := true
      deploymentId := deployment.id
      agentId := deployment.agentId
      hostname := deployment.hostname
      detail : ProvisioningDiagnostics }
  match mappingFields
      (getField deployment.metadata "guacamole_provisioning") with
  | [] =>
    some
      { described
          (some
            ("No Guacamole provisioning diagnostics recorded for this " ++
              "deployment.")) with
        available := false }
  | diagnostics =>
    (optionalText? (getField diagnostics "detail")).map fun detail =>
      { described detail with
        dataSource := textOr library (getField diagnostics "data_source")
        group := mappingFields (getField diagnostics "group")
        connection :=
          mappingFields (getField diagnostics "connection") }

/-! ### The state -/

/-- The settings of deployments. -/
structure DeploymentSettings where
  repoSlug : String := ""
  defaultRepoUrl : String := ""
  artifactShareRoot : String := ""
  latestInstallerShareTemplate : String := ""

/-- What the server knows of other things than agents. -/
structure OtherData where
  deploymentSettings : DeploymentSettings := {}
  /-- `sync_release_metadata_from_github`. -/
  releases : List JsonObject := []
  /-- `get_release_artifact_proxy`: a path and a name, or an error. -/
  releaseArtifact : String → Except String (String × String)
  /-- The files on the server's disk. -/
  disk : String → Option String
  /-- `get_config`, given a public base URL. -/
  guacamoleConfig : String → JsonObject
  proxy : ProxyConfig
  shutdownRequested : Bool := false
  monitor : RdpMonitor := {}
  /-- The reasons that are kept for closed sessions, until they expire. -/
  closeReasons : List (String × Int × String) := []

/-- The state that the routers and the websockets answer from. -/
structure ApiServer where
  frontends : FrontendServer
  /-- Tasks, their logs and pipeline runs; pipelines and the audit log. -/
  store : TaskStore
  agents : KeyedTable AgentRecord AgentRecord.id := .empty
  deployments : Deployments := .empty
  /-- `list_guacamole_connections`. -/
  connections : JsonObject := []
  /-- `list_guacamole_recordings`. -/
  recordings : JsonObject := []
  others : OtherData

/-- What is known of an agent. -/
structure AgentContext where
  state : JsonObject
  record : Option AgentRecord

def ApiServer.buildAgentContext (server : ApiServer) (agentId : String) :
    Option AgentContext :=
  let state :=
    (server.frontends.runtime.latestStats.lookup agentId).getD []
  let record := server.agents.find? agentId
  if state.isEmpty && record.isNone then
    none
  else
    some { state, record }

/-! ### Requests and responses -/

/-- How the invalidation of a token ends. -/
inductive RevokeOutcome where
  | revoked (revoked : Bool)
  | httpError (code : Nat)
  | unreachable (reason : String)
  | refused (reason : String)
  | failed (reason : String)

/-- The requests to the three routers, with the ids and times they take. -/
inductive ApiRequest where
  | createTask
      (body : CreateTaskRequest)
      (requestedFrom taskId : String)
      (now : Int)
  | readTasks (read : TaskRead)
  | cancelTask (taskId : String)
  | createPipeline
      (body : CreatePipelineRequest)
      (pipelineId : String)
      (now : Int)
  | listPipelines (limit : Nat)
  | getPipeline (pipelineId : String)
  | runPipeline (pipelineId : String) (body : RunPipelineRequest)
  | auditLog (entityType entityId : Option String) (limit : Nat)
  | prepareDeployment (body : JsonObject)
  | deploymentConfig
  | deploymentReleases
  | releaseArtifact (releaseId : String)
  | listDeployments (query : DeploymentListQuery)
  | getDeployment (deploymentId : String)
  | provisioning (deploymentId : String)
  | installer (deploymentId : String)
  | package (deploymentId : String)
  | guacamoleConfig (publicBaseUrl : String)
  | connections
  | trackedSessions
  | recordings (agentId username : String)
  | recordingDownload (path : String)
  | killAllTrackedSessions
  | agentGuacamole (agentId : String)
  | userSessions (agentId : String)
  | diagnostics (agentId : String)
  | createSession (query : SessionQuery)
  | kickSession (agentId ownerSubject : String)
  | revokeSession (authToken : String) (outcome : RevokeOutcome)
  | closeSession (authToken : String)
  | sessionStatus (authToken : String) (now : Int)
  /-- The request that is handed on, and what Guacamole answers to it. -/
  | tunnel (request : TunnelRequest) (answer : TunnelAnswer)

/-- `GenericStatusResponse`. -/
structure GenericStatus where
  ok : Bool
  revoked : Bool
  detail : Option String := none

inductive ApiResponse where
  | error (status : Nat) (text : String)
  /-- The response is not what its model says, or an endpoint raises. -/
  | internalError
  | json (payload : Json)
  | text (content : String)
  | file (content name : String)
  | task (task : TaskResponse)
  | tasksRead (response : ReadResponse)
  | pipelineCreated (pipelineId name : String) (steps : Nat)
  | pipelines (pipelines : List PipelineRow)
  | pipeline (pipeline : Tasks.TaskDB.Pipeline)
  | auditLog (entries : List Tasks.AuditRow)
  | deployment (deployment : DeploymentRecord)
  | deployments (deployments : List DeploymentRecord)
  | deploymentConflict (text : String) (active : DeploymentRecord)
  | deploymentConfig
      (settings : DeploymentSettings)
      (active : Option DeploymentRecord)
      (releases : List JsonObject)
  | releases (settings : DeploymentSettings) (releases : List JsonObject)
  | provisioning (diagnostics : ProvisioningDiagnostics)
  | trackedSessions
      (idleTimeoutSeconds : Int)
      (sessions : List TrackedRdpSession)
  | sessionsClosed (count : Nat)
  | status (status : GenericStatus)
  | sessionStatus (active : Bool) (closeReason : String)
  | relayed (answer : TunnelAnswer)

namespace ApiResponse

def notFound : ApiResponse :=
  .error 404 "Not found"

/-- `role_required_response`. -/
def roleRequired : Role → ApiResponse
  | .viewer => .error 403 "Viewer role required"
  | .operator => .error 403 "Operator role required"
  | .admin => .error 403 "Admin role required"

end ApiResponse

/-- What the endpoints use of other code. -/
structure ApiLibrary where
  texts : TextLibrary
  logs : LogReader
  /-- `prepare_deployment` once no deployment is active; if it raises, with
  the deployment that is active then. -/
  prepareDeployment :
    JsonObject → ApiServer →
      Except (String × Option DeploymentRecord) DeploymentRecord
  inspectConnection : String → AgentContext → JsonObject
  /-- What endpoints that hide agents respond to users who see them. -/
  visible : ApiRequest → UserIdentity → ApiServer → ApiResponse

/-! ### Endpoints -/

section Endpoints

variable (library : ApiLibrary) (user : UserIdentity) (server : ApiServer)

def requireRole (role : Role) (response : ApiResponse) : ApiResponse :=
  if user.hasMinimumRole library.texts role then response
  else .roleRequired role

def requireVisibility (hidden response : ApiResponse) : ApiResponse :=
  if user.hasAgentVisibility then response else hidden

def orNotFound {Found : Type} (found : Option Found)
    (response : Found → ApiResponse) : ApiResponse :=
  found.elim .notFound response

/-- `create_and_dispatch`, of a task for an agent. -/
def createAndDispatch (task : TaskSpec) (now : Int) : ApiResponse :=
  let created := (Tasks.TaskDB.newTaskRow now task).toResponse
  if (server.store.db.createTask now task).isNone then
    .internalError
  else if server.frontends.runtime.isConnected task.agentId then
    .task { created with status := "running" }
  else
    .task
      { created with
        status := "failed"
        error := some "Agent not connected" }

/-- The rest of `api_prepare_deployment`, for an operator. -/
def prepareResponse (body : JsonObject) : ApiResponse :=
  match server.deployments.getActiveDeployment with
  | some active =>
    .deploymentConflict
      ("Another deployment is already running: " ++ active.id ++ " (" ++
        active.hostname ++ ")")
      active
  | none =>
    match library.prepareDeployment body server with
    | .ok deployment => .deployment deployment.toResponse
    | .error (text, some active) => .deploymentConflict text active
    | .error (text, none) => .error 502 text

/-- The rest of `api_get_deployment_installer`. -/
def installerResponse (deployment : DeploymentRecord) : ApiResponse :=
  let path :=
    orText deployment.installerCopyPath deployment.installScriptPath
  if path = "" then
    .error 404 "Installer script not available"
  else
    (server.others.disk path).elim
      (.error 404 "Installer script not found on disk")
      ApiResponse.text

/-- The rest of `api_get_deployment_package`. -/
def packageResponse (deployment : DeploymentRecord) : ApiResponse :=
  if deployment.packageZipPath = "" then
    .error 404 "Package ZIP not available"
  else
    (server.others.disk deployment.packageZipPath).elim
      (.error 404 "Package ZIP not found on disk")
      fun content =>
        .file content ("deployment-" ++ deployment.id ++ ".zip")

/-- The rest of `api_proxy_release_artifact`. -/
def artifactResponse (releaseId : String) : ApiResponse :=
  match server.others.releaseArtifact releaseId with
  | .error detail =>
    if "Release not found".toList <:+: detail.toList then
      .error 404 detail
    else
      .error 502 detail
  | .ok (path, name) =>
    (server.others.disk path).elim
      (.error 404 "Release artifact not found on disk")
      fun content => .file content name

/-- Whether a tracked session is another user's. -/
def isOthersSession (authToken : String) : Bool :=
  let owner :=
    ((server.others.monitor.getSession authToken).map
      TrackedRdpSession.ownerSubject).getD ""
  decide (owner ≠ "") && decide (owner ≠ strip user.subject)

/-- A response about a tracked session, to those who may end it. -/
def requireOwner (authToken : String) (response : ApiResponse) :
    ApiResponse :=
  if isOthersSession user server authToken then
    requireRole library user .admin response
  else
    response

/-- The rest of `api_guacamole_revoke_session`. -/
def revokeResponse : RevokeOutcome → ApiResponse
  | .revoked revoked => .status { ok := true, revoked }
  | .httpError 404 =>
    .status
      { ok := true
        revoked := false
        detail := some "Token already invalidated" }
  | .httpError code =>
    .error 502 ("Guacamole token revoke failed with HTTP " ++ toString code)
  | .unreachable reason =>
    .error 502 ("Could not reach Guacamole: " ++ reason)
  | .refused reason => .error 503 reason
  | .failed reason =>
    .error 502 ("Guacamole token revoke failed: " ++ reason)

/-- The rest of `api_guacamole_close_session`. -/
def closeResponse (authToken : String) : ApiResponse :=
  if strip authToken = "" then
    .status
      { ok := false, revoked := false, detail := some "Invalid auth token" }
  else
    .status
      { ok := true
        revoked := false
        detail := some "Scheduled session close" }

/-- `get_recent_close_reason`. -/
def recentCloseReason (authToken : String) (now : Int) : String :=
  match server.others.closeReasons.lookup (strip authToken) with
  | none => ""
  | some (expiresAt, reason) =>
    if strip authToken = "" ∨ expiresAt ≤ now then "" else reason

/-- The rest of `api_guacamole_session_status`. -/
def statusResponse (authToken : String) (now : Int) : ApiResponse :=
  if (server.others.monitor.getSession authToken).isSome then
    .sessionStatus true ""
  else
    .sessionStatus false (recentCloseReason server authToken now)

/-- `proxy_tunnel_request`, as far as its response goes. -/
def tunnelResponse (answer : TunnelAnswer) : ApiResponse :=
  if server.others.shutdownRequested then
    .error 503 "Guacamole service is shutting down"
  else if server.others.proxy.baseUrl = "" then
    .error 503 "Guacamole bridge is not configured"
  else
    .relayed answer

end Endpoints

/-- What an endpoint responds to a user. -/
def ApiRequest.respond
    (library : ApiLibrary)
    (user : UserIdentity)
    (server : ApiServer)
    (request : ApiRequest) : ApiResponse :=
  let hidden := fun response =>
    requireVisibility user response (library.visible request user server)
  let whenRole := requireRole library user
  let deployment := server.deployments.find?
  match request with
  | .createTask body requestedFrom taskId now =>
    whenRole .operator
      (createAndDispatch server
        (Tasks.TaskFactory.createAgentTaskFromRequest body requestedFrom
          taskId).val
        now)
  | .readTasks read =>
    requireVisibility user (.tasksRead (Tasks.refusal read))
      (.tasksRead (Tasks.answer library.logs server.store read))
  | .cancelTask _ => whenRole .operator (hidden .notFound)
  | .createPipeline body pipelineId now =>
    whenRole .admin
      (if (server.store.db.createPipeline now pipelineId body).2 then
        .pipelineCreated pipelineId body.name body.steps.length
      else
        .internalError)
  | .listPipelines limit =>
    .pipelines
      ((server.store.db.pipelines.rows.insertionSort
        fun first second => second.createdAt ≤ first.createdAt).take limit)
  | .getPipeline pipelineId =>
    orNotFound (server.store.db.getPipeline pipelineId) .pipeline
  | .runPipeline _ _ =>
    whenRole .operator (hidden (.error 403 "No visible agents available"))
  | .auditLog entityType entityId limit =>
    .auditLog
      (((server.store.db.auditLog.filter fun entry =>
          Tasks.passes entityType entry.entityType &&
            Tasks.passes entityId entry.entityId).insertionSort
        fun first second => second.ts ≤ first.ts).take limit)
  | .prepareDeployment body =>
    whenRole .operator (prepareResponse library server body)
  | .deploymentConfig =>
    .deploymentConfig server.others.deploymentSettings
      (server.deployments.getActiveDeployment.map DeploymentRecord.toResponse)
      server.others.releases
  | .deploymentReleases =>
    .releases server.others.deploymentSettings server.others.releases
  | .releaseArtifact releaseId =>
    whenRole .operator (artifactResponse server releaseId)
  | .listDeployments query =>
    .deployments
      ((server.deployments.getDeployments query.agentId query.limit).map
        DeploymentRecord.toResponse)
  | .getDeployment deploymentId =>
    orNotFound (deployment deploymentId) fun found =>
      .deployment found.toResponse
  | .provisioning deploymentId =>
    orNotFound (deployment deploymentId) fun found =>
      (provisioningDiagnostics library.texts found).elim .internalError
        .provisioning
  | .installer deploymentId =>
    whenRole .operator
      (orNotFound (deployment deploymentId) (installerResponse server))
  | .package deploymentId =>
    whenRole .operator
      (orNotFound (deployment deploymentId) (packageResponse server))
  | .guacamoleConfig publicBaseUrl =>
    .json (.obj (server.others.guacamoleConfig publicBaseUrl))
  | .connections => .json (.obj server.connections)
  | .trackedSessions =>
    whenRole .admin
      (.trackedSessions server.others.monitor.idleTimeoutSeconds
        (server.others.monitor.sessions.rows.insertionSort
          fun first second =>
            second.lastActivityAt ≤ first.lastActivityAt))
  | .recordings _ _ =>
    whenRole .viewer
      (hidden
        (.json
          (.obj
            [("entries", .arr []), ("browse_url", .str ""),
              ("configured", .bool false)])))
  | .recordingDownload _ => whenRole .viewer (hidden .notFound)
  | .killAllTrackedSessions =>
    whenRole .admin (.sessionsClosed server.others.monitor.sessions.rows.length)
  | .agentGuacamole _ => hidden .notFound
  | .userSessions _ => whenRole .viewer (hidden .notFound)
  | .diagnostics agentId =>
    orNotFound (server.buildAgentContext agentId) fun context =>
      .json (.obj (library.inspectConnection agentId context))
  | .createSession _ => hidden .notFound
  | .kickSession _ _ => hidden .notFound
  | .revokeSession authToken outcome =>
    whenRole .operator (if server.others.proxy.baseUrl = "" then
        .error 503 "Guacamole bridge is not configured"
      else
        requireOwner library user server authToken (revokeResponse outcome))
  | .closeSession authToken =>
    whenRole .operator
      (requireOwner library user server authToken (closeResponse authToken))
  | .sessionStatus authToken now =>
    whenRole .viewer (statusResponse server authToken now)
  | .tunnel _ answer => tunnelResponse server answer

end RpaPlatform.Agents
