import RpaPlatform.ApiRequests

namespace RpaPlatform.Agents

open Tasks (Json TaskSpec)

/-!
# Users who see no agents

Nothing that such a user sends should come to an agent, and nothing that the
user receives should depend on agents.  Each endpoint, each command and each
broadcast has to see to that on its own; the exchanges in which that is done
are the guarded ones.
-/

/-! ### Exchanges -/

/-- What agents make the server broadcast. -/
inductive Broadcasting where
  | agentsSnapshot
  | taskEvent (data : ApiServer → Json)
  | processScreenshot (data : ApiServer → Json)

/-- The message of a broadcast. -/
def Broadcasting.message (server : ApiServer) :
    Broadcasting → FrontendMessage
  | agentsSnapshot =>
    .agentsSnapshot server.frontends.runtime.buildFrontendSnapshot
  | taskEvent data => .taskEvent (data server)
  | processScreenshot data => .processScreenshot (data server)

/-- What can pass between a user and the server. -/
inductive Exchange where
  /-- A websocket has been told that it is logged on. -/
  | opening (socket : Nat)
  | event (socket : Nat) (event : FrontendEvent)
  | broadcast (socket : Nat) (broadcasting : Broadcasting)
  | request (request : ApiRequest)

namespace Exchange

section Observing

variable (library : ApiLibrary) (user : UserIdentity) (server : ApiServer)

/-- The websocket is one of the user. -/
def IsBy : Exchange → Prop
  | opening socket => IsOn socket
  | event socket _ => IsOn socket
  | broadcast socket _ => IsOn socket
  | request _ => True
where
  IsOn (socket : Nat) : Prop :=
    ∃ frontend,
      server.frontends.sockets[socket]? = some frontend ∧
        frontend.userSession.map UserSession.user = some user

/-- What the server sends on websockets. -/
def outputs (exchange : Exchange) : List FrontendOutput :=
  let on := fun socket (send : FrontendSocket → List FrontendOutput) =>
    (server.frontends.sockets[socket]?).elim [] send
  match exchange with
  | opening socket =>
    on socket fun frontend => (server.frontends.welcome socket frontend).2
  | event socket sent =>
    on socket fun frontend =>
      (server.frontends.dispatch socket frontend library.texts sent).2
  | broadcast socket broadcasting =>
    on socket fun frontend =>
      ((Broadcast.shown? (broadcasting.message server)
          frontend.hasAgentVisibility).map
        (FrontendOutput.shown socket)).toList
  | request _ => []

/-- What is forwarded to agents. -/
def forwards (exchange : Exchange) : List (String × ForwardedMessage) :=
  (exchange.outputs library server).filterMap fun
    | .forwarded _ agentId message => some (agentId, message)
    | _ => none

/-- What the user receives on a websocket. -/
def messages (exchange : Exchange) : List FrontendMessage :=
  (exchange.outputs library server).filterMap fun
    | .shown _ message => some message
    | _ => none

def response : Exchange → Option ApiResponse
  | request sent => some (sent.respond library user server)
  | _ => none

end Observing

end Exchange

/-! ### Enforcement -/

/-- Two states differ in agents only. -/
structure DifferInAgents (first second : ApiServer) : Prop where
  frontends :
    { first.frontends with runtime := second.frontends.runtime } =
      second.frontends
  pipelines : first.store.db.pipelines = second.store.db.pipelines
  pipelineSteps : first.store.db.pipelineSteps = second.store.db.pipelineSteps
  auditLog : first.store.db.auditLog = second.store.db.auditLog
  others : first.others = second.others

/--
Nothing that a user sends in an exchange is forwarded to an agent, and what
the user receives does not depend on agents.
-/
structure Exchange.VisibilityEnforced
    (library : ApiLibrary)
    (user : UserIdentity)
    (exchange : Exchange) : Prop where
  keepsFromAgents :
    ∀ server, exchange.IsBy user server → exchange.forwards library server = []
  sameMessages :
    ∀ first second,
      exchange.IsBy user first →
      DifferInAgents first second →
      exchange.messages library first = exchange.messages library second
  sameResponse :
    ∀ first second,
      DifferInAgents first second →
      exchange.response library user first =
        exchange.response library user second

/-- An event comes to no agent, for what it is or for who sends it. -/
def FrontendEvent.Guarded
    (library : TextLibrary)
    (user : UserIdentity)
    (event : FrontendEvent) : Prop :=
  (event.type ∈ agentCommandTypes →
    event.type ∈ operatorEventTypes ∧
      user.hasMinimumRole library .operator = false) ∧
    (event.type = "watch_process_manager" ∨
        event.type = "unwatch_process_manager" →
      event.agentId = "")

/--
A response hides agents from users who see none, or reads nothing of agents,
or is for operators only and the user is none.
-/
def ApiRequest.Guarded
    (library : TextLibrary)
    (user : UserIdentity) : ApiRequest → Prop
  | createTask _ _ _ _ => user.hasMinimumRole library .operator = false
  | prepareDeployment _ => user.hasMinimumRole library .operator = false
  | installer _ => user.hasMinimumRole library .operator = false
  | package _ => user.hasMinimumRole library .operator = false
  | deploymentConfig => False
  | listDeployments _ => False
  | getDeployment _ => False
  | provisioning _ => False
  | connections => False
  | diagnostics _ => False
  | _ => True

/-- What is exchanged is kept from agents, and agents from it. -/
def Exchange.Guarded
    (library : TextLibrary)
    (user : UserIdentity) : Exchange → Prop
  | opening _ => False
  | event _ sent => sent.Guarded library user
  | broadcast _ _ => True
  | request sent => sent.Guarded library user

/-! ### Guarded exchanges -/

section Guarded

variable {library : ApiLibrary} {user : UserIdentity}
  {first second : ApiServer}

theorem requireVisibility_of_invisible
    (invisible : user.agentVisibility = .none)
    (hidden response : ApiResponse) :
    requireVisibility user hidden response = hidden := by
  simp [requireVisibility, UserIdentity.hasAgentVisibility, invisible]

theorem requireRole_of_lacks
    {role : Role}
    (lacks : user.hasMinimumRole library.texts role = false)
    (response : ApiResponse) :
    requireRole library user role response = .roleRequired role := by
  simp [requireRole, lacks]

theorem createPipeline_accepted
    (differ : DifferInAgents first second)
    (now : Int)
    (pipelineId : String)
    (body : Tasks.CreatePipelineRequest) :
    (first.store.db.createPipeline now pipelineId body).2 =
      (second.store.db.createPipeline now pipelineId body).2 := by
  unfold Tasks.TaskDB.createPipeline
  rw [differ.pipelines, differ.pipelineSteps]
  split
  · rfl
  · dsimp only
    split <;> rfl

theorem getPipeline_eq
    (differ : DifferInAgents first second)
    (pipelineId : String) :
    first.store.db.getPipeline pipelineId =
      second.store.db.getPipeline pipelineId := by
  unfold Tasks.TaskDB.getPipeline Tasks.TaskDB.stepsOf
  rw [differ.pipelines, differ.pipelineSteps]

theorem isOthersSession_eq
    (differ : DifferInAgents first second)
    (authToken : String) :
    isOthersSession user first authToken =
      isOthersSession user second authToken := by
  unfold isOthersSession
  rw [differ.others]

theorem respond_eq_of_guarded
    {request : ApiRequest}
    (invisible : user.agentVisibility = .none)
    (guarded : request.Guarded library.texts user)
    (differ : DifferInAgents first second) :
    request.respond library user first =
      request.respond library user second := by
  cases request
  -- The endpoints that ask whether the user sees agents.
  case readTasks | cancelTask | runPipeline | recordings |
      recordingDownload | agentGuacamole | userSessions | createSession |
      kickSession =>
    simp only [ApiRequest.respond, requireVisibility_of_invisible invisible]
  -- The endpoints for operators that do not.
  case createTask | prepareDeployment | installer | package =>
    simp only [ApiRequest.respond, requireRole_of_lacks guarded]
  -- The endpoints that read agents and ask nothing.
  case deploymentConfig | listDeployments | getDeployment | provisioning |
      connections | diagnostics =>
    exact guarded.elim
  -- The endpoints that read nothing of agents.
  case createPipeline body pipelineId now =>
    simp only [ApiRequest.respond,
      createPipeline_accepted differ now pipelineId body]
  case listPipelines =>
    simp only [ApiRequest.respond, differ.pipelines]
  case getPipeline pipelineId =>
    simp only [ApiRequest.respond, getPipeline_eq differ pipelineId]
  case auditLog =>
    simp only [ApiRequest.respond, differ.auditLog]
  case deploymentReleases | guacamoleConfig | trackedSessions |
      killAllTrackedSessions =>
    simp only [ApiRequest.respond, differ.others]
  case releaseArtifact =>
    simp only [ApiRequest.respond, artifactResponse, differ.others]
  case revokeSession | closeSession =>
    simp only [ApiRequest.respond, requireOwner,
      isOthersSession_eq differ, differ.others]
  case sessionStatus =>
    simp only [ApiRequest.respond, statusResponse, recentCloseReason,
      differ.others]
  case tunnel =>
    simp only [ApiRequest.respond, tunnelResponse, differ.others]

theorem dispatch_of_guarded
    {texts : TextLibrary}
    {frontend : FrontendSocket}
    {event : FrontendEvent}
    (isUser : frontend.userSession.map UserSession.user = some user)
    (guarded : event.Guarded texts user)
    (server : FrontendServer)
    (socket : Nat) :
    (server.dispatch socket frontend texts event).2 =
      if event.type ∈ agentCommandTypes then
        [.shown socket (.commandRejected event.type .operator)]
      else
        [] := by
  unfold FrontendServer.dispatch
  split
  case isTrue isCommand =>
    obtain ⟨forOperators, lacks⟩ := guarded.1 isCommand
    have refused : frontend.hasMinimumRole texts .operator = false := by
      obtain ⟨session, isSession, rfl⟩ := Option.map_eq_some_iff.mp isUser
      simpa [FrontendSocket.hasMinimumRole, isSession] using lacks
    simp [FrontendServer.handleCommand, forOperators, refused]
  case isFalse =>
    split
    case isTrue watches =>
      simp [FrontendServer.addWatcher, guarded.2 (.inl watches)]
    case isFalse =>
      split
      case isTrue leaves =>
        simp [FrontendServer.removeWatcher, guarded.2 (.inr leaves)]
      case isFalse =>
        rfl

theorem sockets_eq (differ : DifferInAgents first second) :
    first.frontends.sockets = second.frontends.sockets := by
  rw [← differ.frontends]

/-- What the server sends on websockets in guarded exchanges. -/
def Exchange.guardedOutputs : Exchange → List FrontendOutput
  | event socket sent =>
    if sent.type ∈ agentCommandTypes then
      [.shown socket (.commandRejected sent.type .operator)]
    else
      []
  | broadcast socket .agentsSnapshot =>
    [.shown socket (.agentsSnapshot [])]
  | _ => []

variable {exchange : Exchange}

theorem outputs_of_guarded
    {server : ApiServer}
    (invisible : user.agentVisibility = .none)
    (guarded : exchange.Guarded library.texts user)
    (isBy : exchange.IsBy user server) :
    exchange.outputs library server = exchange.guardedOutputs := by
  cases exchange with
  | opening =>
    exact guarded.elim
  | event socket event =>
    obtain ⟨frontend, found, isUser⟩ := isBy
    simp only [Exchange.outputs, found, Option.elim_some]
    exact dispatch_of_guarded isUser guarded server.frontends socket
  | broadcast socket broadcasting =>
    obtain ⟨frontend, found, isUser⟩ := isBy
    have hides : frontend.hasAgentVisibility = false := by
      obtain ⟨session, isSession, rfl⟩ := Option.map_eq_some_iff.mp isUser
      simp [FrontendSocket.hasAgentVisibility, isSession,
        UserIdentity.hasAgentVisibility, invisible]
    cases broadcasting <;>
      simp [Exchange.outputs, Exchange.guardedOutputs, found, hides,
        Broadcast.shown?, Broadcasting.message]
  | request =>
    rfl

theorem isBy_of_differ
    (differ : DifferInAgents first second)
    (isBy : exchange.IsBy user first) :
    exchange.IsBy user second := by
  cases exchange
  case request =>
    trivial
  all_goals
    obtain ⟨frontend, found, isUser⟩ := isBy
    rw [sockets_eq differ] at found
    exact ⟨frontend, found, isUser⟩

theorem visibilityEnforced_of_guarded
    (invisible : user.agentVisibility = .none)
    (guarded : exchange.Guarded library.texts user) :
    exchange.VisibilityEnforced library user where
  keepsFromAgents server isBy := by
    unfold Exchange.forwards
    rw [outputs_of_guarded invisible guarded isBy]
    unfold Exchange.guardedOutputs
    split
    · split <;> rfl
    · rfl
    · rfl
  sameMessages first second isBy differ := by
    unfold Exchange.messages
    rw [outputs_of_guarded invisible guarded isBy,
      outputs_of_guarded invisible guarded (isBy_of_differ differ isBy)]
  sameResponse first second differ := by
    cases exchange
    case request =>
      exact congrArg some (respond_eq_of_guarded invisible guarded differ)
    all_goals rfl

end Guarded

/-! ### Exchanges that are not guarded -/

section Probes

variable {library : ApiLibrary} {user : UserIdentity}

/-- A server that knows of nothing. -/
def bareServer : ApiServer where
  frontends := { now := 0 }
  store := { db := .empty, files := fun _ => none }
  others :=
    { releaseArtifact := fun _ => .error "Release not found"
      disk := fun _ => none
      guacamoleConfig := fun _ => []
      proxy := { baseUrl := "", websocketTunnelUrl := "" } }

/-- A deployment that is under way. -/
def probeDeployment (id agentId : String) : DeploymentRecord where
  id
  agentId
  hostname := "host-1"
  createdAt := 0

/-- A server with one deployment. -/
def deployingServer (id : String) (agentId : String := "") : ApiServer :=
  { bareServer with
    deployments :=
      { rows := [probeDeployment id agentId]
        distinct := List.nodup_singleton _ } }

def runtimeServer (runtime : AgentRuntime) : ApiServer :=
  { bareServer with frontends := { now := 0, runtime } }

@[simp] theorem getActiveDeployment_deploying (id agentId : String) :
    (deployingServer id agentId).deployments.getActiveDeployment =
      some (probeDeployment id agentId) :=
  rfl

theorem differ_runtime (runtime : AgentRuntime) :
    DifferInAgents bareServer (runtimeServer runtime) :=
  ⟨rfl, rfl, rfl, rfl, rfl⟩

@[simp] theorem getActiveDeployment_bare :
    bareServer.deployments.getActiveDeployment = none :=
  rfl

theorem differ_deploying (id agentId : String) :
    DifferInAgents bareServer (deployingServer id agentId) :=
  ⟨rfl, rfl, rfl, rfl, rfl⟩

@[simp] theorem getDeployments_bare (agentId : Option String) (limit : Nat) :
    bareServer.deployments.getDeployments agentId limit = [] := by
  simp [bareServer, Deployments.getDeployments]

theorem getDeployments_deploying
    (query : DeploymentListQuery)
    (id : String) :
    (deployingServer id (query.agentId.getD "")).deployments.getDeployments
        query.agentId query.limit =
      [probeDeployment id (query.agentId.getD "")] := by
  have passes : Tasks.passes query.agentId (query.agentId.getD "") = true := by
    unfold Tasks.passes
    cases query.agentId with
    | none =>
      rfl
    | some agentId =>
      by_cases empty : agentId = "" <;> simp [Option.filter, empty]
  have positive := query.limitPositive
  simp [deployingServer, Deployments.getDeployments, probeDeployment, passes,
    List.take_of_length_le, positive]

@[simp] theorem find_bare (id : String) :
    bareServer.deployments.find? id = none :=
  rfl

@[simp] theorem find_deploying (id agentId : String) :
    (deployingServer id agentId).deployments.find? id =
      some (probeDeployment id agentId) := by
  simp [deployingServer, KeyedTable.find?, DeploymentRecord.key,
    probeDeployment]

variable
    {request : ApiRequest}
    {socket : Nat}
    {event : FrontendEvent}

theorem not_enforced_of_respond
    {first second : ApiServer}
    (differ : DifferInAgents first second)
    (distinct :
      request.respond library user first ≠
        request.respond library user second) :
    ¬ (Exchange.request request).VisibilityEnforced library user :=
  fun enforced =>
    distinct (Option.some.inj (enforced.sameResponse _ _ differ))

theorem requireRole_of_has
    {role : Role}
    (has : user.hasMinimumRole library.texts role = true)
    (response : ApiResponse) :
    requireRole library user role response = response := by
  simp [requireRole, has]

theorem createAndDispatch_ne (task : TaskSpec) (now : Int) :
    createAndDispatch bareServer task now ≠
      createAndDispatch
        (runtimeServer { activeAgents := [(task.agentId, 0)] }) task now := by
  have stored : (Tasks.TaskDB.empty.createTask now task).isNone = false := by
    simp [Tasks.TaskDB.createTask, Tasks.TaskDB.empty, KeyedTable.insert?]
  simp [createAndDispatch, runtimeServer, bareServer, stored,
    AgentRuntime.isConnected]

theorem lacks_of_enforced
    {first second : ApiServer}
    {response : ApiServer → ApiResponse}
    (forOperators :
      ∀ server,
        request.respond library user server =
          requireRole library user .operator (response server))
    (differ : DifferInAgents first second)
    (distinct : response first ≠ response second)
    (enforced : (Exchange.request request).VisibilityEnforced library user) :
    user.hasMinimumRole library.texts .operator = false := by
  by_contra isOperator
  rw [Bool.not_eq_false] at isOperator
  refine not_enforced_of_respond differ ?_ enforced
  rw [forOperators, forOperators, requireRole_of_has isOperator,
    requireRole_of_has isOperator]
  exact distinct

/-- An endpoint that keeps agents from the user is a guarded one. -/
theorem guarded_of_enforced_request
    (enforced : (Exchange.request request).VisibilityEnforced library user) :
    request.Guarded library.texts user := by
  cases request
  case createTask body requestedFrom taskId now =>
    exact
      lacks_of_enforced (fun _ => rfl) (differ_runtime _)
        (createAndDispatch_ne _ now) enforced
  case prepareDeployment body =>
    have differ :
        DifferInAgents (deployingServer "deployment-1" "")
          (deployingServer "deployment-2" "") :=
      ⟨rfl, rfl, rfl, rfl, rfl⟩
    refine lacks_of_enforced (fun _ => rfl) differ ?_ enforced
    simp [prepareResponse, probeDeployment]
  case installer deploymentId =>
    refine
      lacks_of_enforced (fun _ => rfl)
        (differ_deploying deploymentId "") ?_ enforced
    simp [orNotFound, installerResponse, probeDeployment, orText,
      ApiResponse.notFound]
  case package deploymentId =>
    refine
      lacks_of_enforced (fun _ => rfl)
        (differ_deploying deploymentId "") ?_ enforced
    simp [orNotFound, packageResponse, probeDeployment, ApiResponse.notFound]
  case deploymentConfig =>
    refine
      not_enforced_of_respond (differ_deploying "deployment-1" "") ?_ enforced
    simp [ApiRequest.respond]
  case listDeployments query =>
    refine
      not_enforced_of_respond
        (differ_deploying "deployment-1" (query.agentId.getD "")) ?_
        enforced
    simp [ApiRequest.respond, getDeployments_deploying query]
  case getDeployment deploymentId =>
    refine
      not_enforced_of_respond (differ_deploying deploymentId "") ?_ enforced
    simp [ApiRequest.respond, orNotFound, ApiResponse.notFound]
  case provisioning deploymentId =>
    refine
      not_enforced_of_respond (differ_deploying deploymentId "") ?_ enforced
    simp [ApiRequest.respond, orNotFound, ApiResponse.notFound,
      provisioningDiagnostics, probeDeployment, getField, fieldOr,
      mappingFields]
  case connections =>
    have differ :
        DifferInAgents bareServer
          { bareServer with connections := [("connections", .arr [])] } :=
      ⟨rfl, rfl, rfl, rfl, rfl⟩
    refine not_enforced_of_respond differ ?_ enforced
    simp [ApiRequest.respond, bareServer]
  case diagnostics agentId =>
    have differ :=
      differ_runtime { latestStats := [(agentId, [("session-1", .null)])] }
    refine not_enforced_of_respond differ ?_ enforced
    simp [ApiRequest.respond, orNotFound, ApiServer.buildAgentContext,
      runtimeServer, bareServer, ApiResponse.notFound, KeyedTable.find?]
  all_goals trivial

/-! ### Websockets that are not guarded -/

/-- A websocket of the user that watches some agents. -/
def watchingSocket (user : UserIdentity) (watched : List String) :
    FrontendSocket where
  userSession :=
    some
      { accessToken := "access-1"
        user
        createdAt := 0
        expiresAt := 1
        lastSeenAt := 0 }
  watched
  point := .receiving

/-- A server with a runtime and a user's websocket, the only watcher. -/
def watchedServer
    (user : UserIdentity)
    (socket : Nat)
    (runtime : AgentRuntime)
    (watched : List String) : ApiServer :=
  { bareServer with
    frontends :=
      { now := 0
        runtime
        sockets := List.replicate (socket + 1) (watchingSocket user watched)
        watchers := watched.map fun agentId => (agentId, [socket]) } }

@[simp] theorem sockets_watched
    (socket : Nat)
    (runtime : AgentRuntime)
    (watched : List String) :
    (watchedServer user socket runtime watched).frontends.sockets[socket]? =
      some (watchingSocket user watched) := by
  simp [watchedServer]

theorem isOn_watched
    (socket : Nat)
    (runtime : AgentRuntime)
    (watched : List String) :
    Exchange.IsBy.IsOn user (watchedServer user socket runtime watched)
      socket :=
  ⟨_, sockets_watched socket runtime watched, rfl⟩

theorem not_enforced_of_dispatch
    {runtime : AgentRuntime}
    {watched : List String}
    {agentId : String}
    {message : ForwardedMessage}
    (dispatched :
      ((watchedServer user socket runtime watched).frontends.dispatch socket
          (watchingSocket user watched) library.texts event).2 =
        [.forwarded socket agentId message]) :
    ¬ (Exchange.event socket event).VisibilityEnforced library user := by
  intro enforced
  have kept :=
    enforced.keepsFromAgents _ (isOn_watched socket runtime watched)
  simp [Exchange.forwards, Exchange.outputs, dispatched] at kept

def oneAgent (agentId : String) : AgentRuntime where
  activeAgents := [(agentId, 0)]

@[simp] theorem isConnected_oneAgent (agentId : String) :
    (oneAgent agentId).isConnected agentId = true := by
  simp [oneAgent, AgentRuntime.isConnected]

theorem forwardTarget_oneAgent
    {server : FrontendServer}
    {requested : String}
    (isRuntime : server.runtime = oneAgent (orText requested "agent-1")) :
    server.forwardTarget? requested = some (orText requested "agent-1") := by
  unfold FrontendServer.forwardTarget?
  rw [isRuntime]
  by_cases named : requested = ""
  · subst named
    rfl
  · simp [orText, named]

theorem not_enforced_of_command
    (isCommand : event.type ∈ agentCommandTypes)
    (allowed :
      ¬ (event.type ∈ operatorEventTypes ∧
        user.hasMinimumRole library.texts .operator = false)) :
    ¬ (Exchange.event socket event).VisibilityEnforced library user := by
  let target := orText event.agentId "agent-1"
  let server := watchedServer user socket (oneAgent target) []
  have isTarget : server.frontends.forwardTarget? event.agentId = some target :=
    forwardTarget_oneAgent rfl
  have notRefused :
      ¬ (event.type ∈ operatorEventTypes ∧
        (watchingSocket user []).hasMinimumRole library.texts .operator =
          false) :=
    allowed
  have dispatched :
      (server.frontends.dispatch socket (watchingSocket user [])
          library.texts event).2 =
        [.forwarded socket target (.event event)] := by
    unfold FrontendServer.dispatch FrontendServer.handleCommand
    rw [if_pos isCommand, if_neg notRefused, isTarget]
    rfl
  exact not_enforced_of_dispatch dispatched

theorem not_enforced_of_watch
    (watches : event.type = "watch_process_manager")
    (named : event.agentId ≠ "") :
    ¬ (Exchange.event socket event).VisibilityEnforced library user := by
  let server := watchedServer user socket (oneAgent event.agentId) []
  have dispatched :
      (server.frontends.dispatch socket (watchingSocket user [])
          library.texts event).2 =
        [.forwarded socket event.agentId (.setWindowTracking true)] := by
    simp [FrontendServer.dispatch, FrontendServer.addWatcher,
      FrontendServer.trackingOutput, watches, named, server, watchedServer,
      watchingSocket, agentCommandTypes, operatorEventTypes]
  exact not_enforced_of_dispatch dispatched

theorem not_enforced_of_unwatch
    (leaves : event.type = "unwatch_process_manager")
    (named : event.agentId ≠ "") :
    ¬ (Exchange.event socket event).VisibilityEnforced library user := by
  let server :=
    watchedServer user socket (oneAgent event.agentId) [event.agentId]
  have dispatched :
      (server.frontends.dispatch socket
          (watchingSocket user [event.agentId]) library.texts event).2 =
        [.forwarded socket event.agentId (.setWindowTracking false)] := by
    simp [FrontendServer.dispatch, FrontendServer.removeWatcher,
      FrontendServer.isLastWatcher, FrontendServer.trackingOutput, leaves,
      named, server, watchedServer, watchingSocket, agentCommandTypes,
      operatorEventTypes]
  exact not_enforced_of_dispatch dispatched

theorem not_enforced_opening (socket : Nat) :
    ¬ (Exchange.opening socket).VisibilityEnforced library user := by
  intro enforced
  let silent := watchedServer user socket {} []
  let reporting :=
    watchedServer user socket { latestStats := [("agent-1", [])] } []
  have differ : DifferInAgents silent reporting :=
    ⟨rfl, rfl, rfl, rfl, rfl⟩
  have same :=
    enforced.sameMessages silent reporting (isOn_watched socket _ _) differ
  simp [silent, reporting, Exchange.messages, Exchange.outputs,
    FrontendServer.welcome, watchedServer] at same

theorem guarded_of_enforced
    {exchange : Exchange}
    (enforced : exchange.VisibilityEnforced library user) :
    exchange.Guarded library.texts user := by
  cases exchange with
  | opening socket =>
    exact (not_enforced_opening socket enforced).elim
  | event socket event =>
    refine ⟨fun isCommand => ?_, fun watching => ?_⟩
    · by_contra allowed
      exact not_enforced_of_command isCommand allowed enforced
    · by_contra named
      rcases watching with watches | leaves
      · exact not_enforced_of_watch watches named enforced
      · exact not_enforced_of_unwatch leaves named enforced
  | broadcast =>
    trivial
  | request =>
    exact guarded_of_enforced_request enforced

end Probes

/-! ### Enforcement of visibility -/

def hiddenViewer : UserIdentity where
  username := "viewer-1"
  agentVisibility := .none

/-- A library without releases. -/
def plainApiLibrary : ApiLibrary where
  texts := asciiTextLibrary
  logs := Tasks.plainReader
  prepareDeployment _ _ :=
    .error ("No agent release is available for deployment", none)
  inspectConnection agentId _ := [("agent_id", .str agentId)]
  visible _ _ _ := .internalError

end RpaPlatform.Agents
