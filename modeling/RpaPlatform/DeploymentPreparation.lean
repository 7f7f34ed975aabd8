import RpaPlatform.DeploymentRegistry

namespace RpaPlatform.Deploy

open Agents (AgentChange DeploymentRecord JsonObject TextLibrary getField
  mappingFields orText strip)
open Tasks (Json PrepareSubmission TaskSpec)

/-!
# What `prepare_deployment` works with

A request is turned into a preparation: a draft with fresh ids, the release
that was selected, and the Guacamole mapping.  The rows that are stored, the
task that is submitted and the checks of its dispatch are all computed from
it.
-/

/-- The arguments of `prepare_deployment`. -/
structure PrepareRequest where
  agentId : String
  hostname : String
  displayName : String
  guacamoleTargetHost : String := ""
  guacamoleUsername : String := ""
  guacamoleDomain : String := ""
  guacamolePassword : String := ""
  guacamoleSecret : String := ""
  guacamoleGroupName : String := ""
  guacamoleConnectionName : String := ""
  releaseId : Option String := none
  requestedBy : String := "user"
  serverWsUrl : String

/-- The ids and the token that `prepare_deployment` makes. -/
structure Draft where
  deploymentId : String
  taskId : String
  bootstrapToken : String
  bootstrapExpiresAt : Int
  /-- `uuid4().hex` is a text, and has no space at its ends. -/
  isHex : deploymentId ≠ "" ∧ strip deploymentId = deploymentId

/-- What `prepare_deployment` takes from a release. -/
structure SelectedRelease where
  releaseId : String
  version : String
  tagName : String
  commitSha : String
  artifactUrl : String
  artifactSha256 : String

/-- Take from a release what is needed, if it is there. -/
def selectRelease
    (library : TextLibrary)
    (row : ReleaseRow) : Except String SelectedRelease :=
  let releaseId := strip row.id
  let artifactUrl := strip row.artifactUrl
  let tagName := strip row.tagName
  if releaseId = "" then
    .error "Selected release is missing an id"
  else if artifactUrl = "" then
    .error
      ("Selected release " ++ releaseId ++
        " does not have a downloadable artifact")
  else
    .ok
      { releaseId
        version := strip (orText row.version (orText tagName releaseId))
        tagName
        commitSha := strip row.commitSha
        artifactUrl
        artifactSha256 := library.lower (strip row.artifactSha256) }

/-- All that a deployment is prepared from. -/
structure Preparation where
  request : PrepareRequest
  draft : Draft
  release : SelectedRelease
  /-- The Guacamole mapping after provisioning. -/
  mapping : JsonObject
  /-- The diagnostics of provisioning. -/
  provisioning : JsonObject

namespace Preparation

variable (preparation : Preparation)

def deploymentId : String :=
  preparation.draft.deploymentId

def taskId : String :=
  preparation.draft.taskId

def agentId : String :=
  preparation.request.agentId

/-- What the first `upsert_agent` is given. -/
def registration : AgentChange where
  hostname := preparation.request.hostname
  displayName := preparation.request.displayName
  status := some .provisioning
  connectionStatus := some .offline
  lastDeploymentId := some preparation.deploymentId
  metadata := some [("guacamole", .obj preparation.mapping)]

/-- The row that `create_deployment` inserts. -/
def deploymentRow (now : Int) : DeploymentRecord where
  id := preparation.deploymentId
  releaseId := some preparation.release.releaseId
  agentId := preparation.agentId
  hostname := preparation.request.hostname
  requestedBy := preparation.request.requestedBy
  taskId := some preparation.taskId
  status := .queued
  metadata :=
    [("guacamole_provisioning", .obj preparation.provisioning),
      ("release",
        .obj
          [("id", .str preparation.release.releaseId),
            ("version", .str preparation.release.version),
            ("tag_name", .str preparation.release.tagName),
            ("artifact_url", .str preparation.release.artifactUrl),
            ("artifact_sha256", .str preparation.release.artifactSha256)])]
  createdAt := now

/-- What the `upsert_agent` of `create_deployment` is given. -/
def link : AgentChange where
  hostname := preparation.request.hostname
  lastDeploymentId := some preparation.deploymentId

/-- What the last `upsert_agent` is given when the dispatch is refused. -/
def refusal : AgentChange where
  hostname := preparation.request.hostname
  displayName := preparation.request.displayName
  status := some .deployFailed
  connectionStatus := some .offline
  lastDeploymentId := some preparation.deploymentId

/-- The payload of the task. -/
def payload : JsonObject :=
  [("deployment_id", .str preparation.deploymentId),
    ("release_id", .str preparation.release.releaseId),
    ("release_version", .str preparation.release.version),
    ("release_tag_name", .str preparation.release.tagName),
    ("artifact_url", .str preparation.release.artifactUrl),
    ("artifact_sha256", .str preparation.release.artifactSha256),
    ("commit_sha", .str preparation.release.commitSha),
    ("hostname", .str preparation.request.hostname),
    ("display_name", .str preparation.request.displayName),
    ("agent_id", .str preparation.agentId),
    ("guacamole", .obj preparation.mapping),
    ("server_ws_url", .str preparation.request.serverWsUrl),
    ("bootstrap_token", .str preparation.draft.bootstrapToken),
    ("bootstrap_expires_at", .num preparation.draft.bootstrapExpiresAt)]

/-- The configuration of the task's component. -/
def component : JsonObject :=
  [("deployment_id", .str preparation.deploymentId),
    ("agent_id", .str preparation.agentId),
    ("release_id", .str preparation.release.releaseId),
    ("release_version", .str preparation.release.version),
    ("release_tag_name", .str preparation.release.tagName),
    ("artifact_url", .str preparation.release.artifactUrl),
    ("artifact_sha256", .str preparation.release.artifactSha256),
    ("commit_sha", .str preparation.release.commitSha),
    ("hostname", .str preparation.request.hostname),
    ("display_name", .str preparation.request.displayName),
    ("guacamole", .obj preparation.mapping),
    ("server_ws_url", .str preparation.request.serverWsUrl),
    ("bootstrap_token", .str preparation.draft.bootstrapToken),
    ("bootstrap_expires_at", .num preparation.draft.bootstrapExpiresAt)]

/-- The task that is submitted. -/
def taskSpec (repoRoot : String) : TaskSpec :=
  (Tasks.prepareTask
    { agentId := preparation.agentId
      hostname := preparation.request.hostname
      repoRoot
      requestedBy := preparation.request.requestedBy
      payload := preparation.payload
      deployment := preparation.component }
    preparation.taskId).val

end Preparation

/-! ### Dispatch -/

/-- The arguments of `_run_prepare`. -/
structure PrepareRun where
  deploymentId : String
  taskId : String
  agentId : String
  releaseId : String
  releaseVersion : String
  releaseTagName : String
  artifactUrl : String
  artifactSha256 : String
  commitSha : String
  hostname : String
  displayName : String
  guacamoleMapping : JsonObject
  serverWsUrl : String
  bootstrapToken : String
  bootstrapExpiresAt : Int

/-- `DeploymentTaskSpec.operation`. -/
def taskOperation (library : TextLibrary) (task : TaskSpec) : String :=
  orText (Agents.textOr library (getField task.payload "operation")) task.script

/-- A field of a payload as a text. -/
def payloadText
    (library : TextLibrary)
    (task : TaskSpec)
    (key : String) : String :=
  strip (Agents.textOr library (getField task.payload key))

/-- `int(payload.get("bootstrap_expires_at") or 0)`. -/
def payloadExpiry (task : TaskSpec) : Int :=
  match getField task.payload "bootstrap_expires_at" with
  | .num value => value
  | _ => 0

/-- What `dispatch_task` hands to `_run_prepare`, unless it refuses. -/
def readTask
    (library : TextLibrary)
    (task : TaskSpec) : Except String PrepareRun :=
  let text := payloadText library task
  let hostname := text "hostname"
  let operation := taskOperation library task
  let run : PrepareRun :=
    { deploymentId := text "deployment_id"
      taskId := task.id
      agentId :=
        strip
          (orText (Agents.textOr library (getField task.payload "agent_id"))
            task.agentId)
      releaseId := text "release_id"
      releaseVersion := text "release_version"
      releaseTagName := text "release_tag_name"
      artifactUrl := text "artifact_url"
      artifactSha256 := library.lower (text "artifact_sha256")
      commitSha := text "commit_sha"
      hostname
      displayName :=
        strip
          (orText
            (Agents.textOr library (getField task.payload "display_name"))
            hostname)
      guacamoleMapping := mappingFields (getField task.payload "guacamole")
      serverWsUrl := text "server_ws_url"
      bootstrapToken := text "bootstrap_token"
      bootstrapExpiresAt := payloadExpiry task }
  if operation ≠ "prepare" then
    .error ("Unsupported deployment task operation: " ++ operation)
  else if run.deploymentId = "" || run.hostname = "" ||
      run.agentId = "" || run.releaseId = "" || run.artifactUrl = "" ||
      run.serverWsUrl = "" || run.bootstrapToken = "" ||
      run.bootstrapExpiresAt ≤ 0 then
    .error "Deployment task payload is incomplete"
  else
    .ok run

theorem payload_taskSpec (preparation : Preparation) (repoRoot : String) :
    (preparation.taskSpec repoRoot).payload =
      ("operation", .str "prepare") :: preparation.payload := by
  have mirrored :
      ∀ (builder : Tasks.TaskBuilder) (key : String) (value : Json),
        (builder.mirror key value).payload = builder.payload := by
    intro builder key value
    unfold Tasks.TaskBuilder.mirror
    split
    · rfl
    · rfl
  simp only [Preparation.taskSpec, Tasks.prepareTask,
    Tasks.TaskBuilder.build, Tasks.TaskBuilder.component,
    Tasks.TaskBuilder.payloadFields, Tasks.TaskBuilder.withRequestedFrom,
    Tasks.TaskBuilder.withRequestedBy, Tasks.TaskBuilder.timeout,
    Tasks.TaskBuilder.withCwd, Tasks.TaskBuilder.withName, mirrored,
    Tasks.TaskBuilder.deployment, Tasks.TaskBuilder.payloadField]
  simp [Tasks.assignAll, Tasks.assign, Preparation.payload]

theorem id_taskSpec (preparation : Preparation) (repoRoot : String) :
    (preparation.taskSpec repoRoot).id = preparation.taskId := by
  have identified :
      (preparation.taskSpec repoRoot).identity.id = preparation.taskId := by
    rw [Preparation.taskSpec, Tasks.identity_prepareTask]
  exact identified

def PrepareRun.Names (run : PrepareRun) (draft : Draft) : Prop :=
  run.deploymentId = draft.deploymentId ∧ run.taskId = draft.taskId

theorem ids_of_readTask
    {library : TextLibrary}
    {task : TaskSpec}
    {run : PrepareRun}
    (accepts : readTask library task = .ok run) :
    run.deploymentId = payloadText library task "deployment_id" ∧
      run.taskId = task.id := by
  unfold readTask at accepts
  dsimp only at accepts
  split at accepts
  · cases accepts
  · split at accepts
    · cases accepts
    · obtain rfl := Except.ok.inj accepts
      exact ⟨rfl, rfl⟩

theorem names_of_readTask
    {library : TextLibrary}
    {preparation : Preparation}
    {repoRoot : String}
    {run : PrepareRun}
    (accepts : readTask library (preparation.taskSpec repoRoot) = .ok run) :
    run.Names preparation.draft := by
  have isDeployment :
      payloadText library (preparation.taskSpec repoRoot)
          "deployment_id" =
        preparation.draft.deploymentId := by
    have found :
        getField (preparation.taskSpec repoRoot).payload
            "deployment_id" =
          .str preparation.draft.deploymentId := by
      rw [payload_taskSpec]
      rfl
    obtain ⟨nonempty, unpadded⟩ := preparation.draft.isHex
    unfold payloadText
    rw [found, Agents.textOr, if_pos (by simpa [Agents.truthy])]
    exact unpadded
  obtain ⟨sameDeployment, sameTask⟩ := ids_of_readTask accepts
  exact
    ⟨sameDeployment.trans isDeployment,
      sameTask.trans (id_taskSpec preparation repoRoot)⟩

/-- What `dispatch_task` writes to the deployment. -/
def PrepareRun.started (run : PrepareRun) (startedAt : Int) :
    DeploymentUpdate where
  releaseId := some run.releaseId
  status := some .preparing
  tagName := some run.releaseTagName
  commitSha := some run.commitSha
  startedAt := some startedAt
  taskId := some run.taskId

end RpaPlatform.Deploy
