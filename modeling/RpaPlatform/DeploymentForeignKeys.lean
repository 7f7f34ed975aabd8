import RpaPlatform.DeploymentPreparation

namespace RpaPlatform.Deploy

open Agents (AgentChange AgentRecord DeploymentRecord JsonObject
  MappingTemplates TextLibrary buildAgentGuacamoleMapping mergeAgent
  mergeMetadata strip)
open SqlProgram

/-!
# The statements of `prepare_deployment`

`prepare_deployment` as the sequence of statements that it executes on the
registry, alone and up to the first that fails.  The `agents` row that it
writes first refers to a deployment whose row it inserts later.
-/

/-- A release as GitHub describes it. -/
structure SourceRelease where
  releaseId : Option String := none
  version : String
  tagName : String
  commitSha : String
  artifactUrl : String
  artifactSha256 : String
  workflowRunId : Option String := none
  publishedAt : Option Int := none
  metadata : JsonObject := []

/-- How the submission of the task goes, as far as the registry is used. -/
inductive Submission where
  /-- There is no `TaskService`. -/
  | unconfigured
  /-- The task cannot be stored. -/
  | raises (text : String)
  /-- No handler is registered for deployments. -/
  | unhandled
  /-- The task reaches `dispatch_task`. -/
  | dispatched

/-- What `prepare_deployment` gets from elsewhere. -/
structure PrepareContext where
  library : TextLibrary
  templates : MappingTemplates := {}
  repoRoot : String := ""
  draft : Draft
  hashToken : String → String
  /-- `int(time.time())`, by the number of the reading. -/
  clock : Nat → Int
  /-- `_sync_github_releases`; `none` if it fails. -/
  githubReleases : Option (List SourceRelease)
  /-- `uuid4().hex`, by the number of the release. -/
  freshId : Nat → String
  /-- `provision_guacamole_agent_target_with_diagnostics`. -/
  provision : JsonObject → Except String (JsonObject × JsonObject)
  submission : Submission

/-! ### Releases -/

/-- The stored release that a release from GitHub is. -/
def Registry.existingRelease
    (registry : Registry)
    (source : SourceRelease) : Option ReleaseRow :=
  let byId :=
    match source.releaseId with
    | some id =>
      if id = "" then none else registry.releases.find? id
    | none => none
  let byTag :=
    if source.tagName = "" then none
    else registry.getReleaseByTag source.tagName
  (byId.or byTag).or (registry.getReleaseByVersion source.version)

/-- The row that `upsert_release_from_source` writes. -/
def releaseRow
    (existing : Option ReleaseRow)
    (source : SourceRelease)
    (freshId : String)
    (now : Int) : ReleaseRow where
  id :=
    ((source.releaseId.filter (· ≠ "")).or
      ((existing.map ReleaseRow.id).filter (· ≠ ""))).getD freshId
  version := source.version
  tagName := source.tagName
  commitSha := source.commitSha
  artifactUrl := source.artifactUrl
  artifactSha256 := source.artifactSha256
  workflowRunId := source.workflowRunId
  createdAt :=
    ((existing.map ReleaseRow.createdAt).filter (· ≠ 0)).getD now
  publishedAt := source.publishedAt
  metadata :=
    mergeMetadata ((existing.map ReleaseRow.metadata).getD []) source.metadata

def upsertReleaseFromSource
    (source : SourceRelease)
    (freshId : String)
    (now : Int) : RegistryProgram (Option ReleaseRow) := do
  let existing ← query fun registry => registry.existingRelease source
  let row := releaseRow existing source freshId now
  execute (·.writeRelease row)
  query fun registry => registry.releases.find? row.id

/-- Store the releases from GitHub one after the other. -/
def storeReleases
    (context : PrepareContext) :
    Nat → List SourceRelease → RegistryProgram (List ReleaseRow)
  | _, [] =>
    return []
  | number, source :: rest => do
      let stored ←
        upsertReleaseFromSource source (context.freshId number)
          (context.clock number)
      let later ← storeReleases context (number + 1) rest
      return stored.toList ++ later

/-- `sync_release_metadata_from_github`. -/
def syncReleaseMetadata
    (context : PrepareContext)
    (limit : Nat) : RegistryProgram (List ReleaseRow) :=
  match context.githubReleases with
  | none =>
    query fun registry => registry.getReleases limit
  | some releases => do
      let synced ← storeReleases context 0 releases
      if synced.isEmpty then
        query fun registry => registry.getReleases limit
      else
        return synced

def resolvePrepareRelease
    (context : PrepareContext)
    (releaseId : Option String) : RegistryProgram ReleaseRow := do
  let selectedId := strip (releaseId.getD "")
  let releases ← syncReleaseMetadata context 20
  if selectedId ≠ "" then
    match releases.find? fun row => strip row.id = selectedId with
    | some row =>
      return row
    | none => do
        let persisted ← query fun registry =>
          registry.releases.find? selectedId
        match persisted with
        | some row => return row
        | none => raise ("Release not found: " ++ selectedId)
  else
    match releases.head? with
    | some row =>
      return row
    | none => do
        let latest ← query Registry.getLatestRelease
        match latest with
        | some row => return row
        | none =>
          raise "No agent release is available for deployment"

/-! ### The sequence -/

/-- The mapping that is provisioned. -/
def requestedMapping
    (context : PrepareContext)
    (request : PrepareRequest) : JsonObject :=
  buildAgentGuacamoleMapping context.library context.templates
    { agentId := request.agentId
      hostname := request.hostname
      displayName := request.displayName
      targetHost := request.guacamoleTargetHost
      username := request.guacamoleUsername
      domain := request.guacamoleDomain
      groupName := request.guacamoleGroupName
      connectionName := request.guacamoleConnectionName }

/-- A value, or an error that is raised. -/
def orRaise {Result : Type} :
    Except String Result → RegistryProgram Result
  | .ok result => return result
  | .error text => raise text

/-- `prepare_deployment` up to where it is settled what is prepared. -/
def acceptRequest
    (context : PrepareContext)
    (request : PrepareRequest) : RegistryProgram Preparation := do
  let active ← query fun registry =>
    registry.deployments.getActiveDeployment
  match active with
  | some deployment =>
    raise
      ("Another deployment is already running: " ++ deployment.id ++
        " (" ++ deployment.hostname ++ ")")
  | none => do
      let row ← resolvePrepareRelease context request.releaseId
      let release ← orRaise (selectRelease context.library row)
      let provisioned ←
        orRaise (context.provision (requestedMapping context request))
      return {
        request
        draft := context.draft
        release
        mapping := provisioned.1
        provisioning := provisioned.2 }

def createDeployment
    (preparation : Preparation)
    (insertedAt linkedAt : Int) : RegistryProgram Unit := do
  statement foreignKeys fun registry =>
    registry.insertDeployment? (preparation.deploymentRow insertedAt)
  execute (·.upsertAgent preparation.agentId preparation.link linkedAt)

/-- What `prepare_deployment` writes of a dispatch that is refused. -/
def refuseDeployment
    (preparation : Preparation)
    (error : String)
    (completedAt upsertedAt : Int) : RegistryProgram Unit := do
  execute
    (·.updateDeployment preparation.deploymentId
      { status := some .failed
        releaseId := some preparation.release.releaseId
        error := some error
        completedAt := some completedAt
        taskId := some preparation.taskId })
  execute (·.upsertAgent preparation.agentId preparation.refusal upsertedAt)

/-- `create_and_dispatch`, and what follows when it is refused. -/
def submitTask
    (context : PrepareContext)
    (preparation : Preparation) : RegistryProgram Unit :=
  let refuse := fun error =>
    refuseDeployment preparation error (context.clock 5) (context.clock 6)
  match context.submission with
  | .unconfigured =>
    raise "TaskService is not configured for DeploymentService"
  | .raises text =>
    raise text
  | .unhandled =>
    refuse "No handler registered for task kind 'deployment'"
  | .dispatched =>
    match readTask context.library
        (preparation.taskSpec context.repoRoot) with
    | .error error => refuse error
    | .ok run =>
      execute
        (·.updateDeployment run.deploymentId (run.started (context.clock 5)))

/-- What `prepare_deployment` returns. -/
inductive PrepareResult where
  | stored (deployment : DeploymentRecord)
  /-- The row is gone; only the id is known. -/
  | queued (deploymentId : String)

/-- The statements that come after the request has been accepted. -/
def storeDeployment
    (context : PrepareContext)
    (preparation : Preparation) : RegistryProgram PrepareResult := do
  execute
    (·.upsertAgent preparation.agentId preparation.registration
      (context.clock 1))
  execute
    (·.setBootstrapToken preparation.agentId
      (context.hashToken preparation.draft.bootstrapToken)
      preparation.draft.bootstrapExpiresAt (context.clock 2))
  createDeployment preparation (context.clock 3) (context.clock 4)
  submitTask context preparation
  let found ← query fun registry =>
    registry.deployments.find? preparation.deploymentId
  match found with
  | some deployment => return .stored deployment
  | none => return .queued preparation.deploymentId

def prepareDeployment
    (context : PrepareContext)
    (request : PrepareRequest) : RegistryProgram PrepareResult := do
  let preparation ← acceptRequest context request
  storeDeployment context preparation

/-! ### What is accepted -/

section Acceptance

variable
    {context : PrepareContext}
    {request : PrepareRequest}
    {deployments : Agents.Deployments}

/-- The foreign keys hold, and the deployments are these. -/
def Unprepared
    (deployments : Agents.Deployments)
    (registry : Registry) : Prop :=
  Consistent foreignKeys registry ∧ registry.deployments = deployments

theorem respects_upsertReleaseFromSource
    (source : SourceRelease)
    (freshId : String)
    (now : Int) :
    Respects (Unprepared deployments)
      (upsertReleaseFromSource source freshId now) := by
  apply (respects_query _).bind
  intro existing
  refine Respects.bind ?_ fun _ => respects_query _
  apply respects_statement
  intro registry after unprepared changes
  cases changes
  exact ⟨consistent_writeRelease unprepared.1 _,
    consistent_writeRelease unprepared.1 _, unprepared.2⟩

theorem respects_storeReleases
    (releases : List SourceRelease)
    (number : Nat) :
    Respects (Unprepared deployments)
      (storeReleases context number releases) := by
  induction releases generalizing number with
  | nil =>
    exact respects_pure _
  | cons source rest inductionHypothesis =>
    apply (respects_upsertReleaseFromSource _ _ _).bind
    intro stored
    exact (inductionHypothesis _).bind fun _ => respects_pure _

theorem respects_syncReleaseMetadata (limit : Nat) :
    Respects (Unprepared deployments) (syncReleaseMetadata context limit) := by
  unfold syncReleaseMetadata
  split
  · exact respects_query _
  · apply (respects_storeReleases _ _).bind
    intro synced
    split
    · exact respects_query _
    · exact respects_pure _

theorem respects_resolvePrepareRelease (releaseId : Option String) :
    Respects (Unprepared deployments)
      (resolvePrepareRelease context releaseId) := by
  apply (respects_syncReleaseMetadata 20).bind
  intro releases
  split
  · split
    · exact respects_pure _
    · apply (respects_query _).bind
      intro persisted
      split
      · exact respects_pure _
      · exact respects_raise _
  · split
    · exact respects_pure _
    · apply (respects_query _).bind
      intro latest
      split
      · exact respects_pure _
      · exact respects_raise _

theorem respects_orRaise
    {Result : Type}
    (outcome : Except String Result) :
    Respects (Unprepared deployments) (orRaise outcome) := by
  cases outcome with
  | ok result =>
    exact respects_pure _
  | error text =>
    exact respects_raise _

theorem respects_acceptRequest :
    Respects (Unprepared deployments) (acceptRequest context request) := by
  apply (respects_query _).bind
  intro active
  split
  · exact respects_raise _
  · apply (respects_resolvePrepareRelease _).bind
    intro row
    apply (respects_orRaise _).bind
    intro release
    apply (respects_orRaise _).bind
    intro provisioned
    exact respects_pure _

theorem draft_of_acceptRequest
    {registry accepted : Registry}
    {preparation : Preparation}
    (accepts :
      acceptRequest context request registry = (.ok preparation, accepted)) :
    preparation.draft = context.draft := by
  obtain ⟨active, _, _, accepts⟩ := exists_of_bind_ok accepts
  split at accepts
  · cases accepts
  · obtain ⟨row, _, _, accepts⟩ := exists_of_bind_ok accepts
    obtain ⟨release, _, _, accepts⟩ := exists_of_bind_ok accepts
    obtain ⟨provisioned, _, _, accepts⟩ := exists_of_bind_ok accepts
    cases accepts
    rfl

end Acceptance

/-! ### What is stored -/

section Storing

variable
    {context : PrepareContext}
    {preparation : Preparation}
    {registry : Registry}

theorem lastDeploymentId_registration
    (existing : Option AgentRecord)
    (now : Int) :
    (mergeAgent preparation.agentId existing preparation.registration
        now).lastDeploymentId =
      some preparation.deploymentId := by
  simp [mergeAgent, Preparation.registration, Preparation.deploymentId,
    preparation.draft.isHex.1]

theorem storeDeployment_new
    (isNew : preparation.deploymentId ∉ idsOf registry.deployments) :
    storeDeployment context preparation registry =
      (.error .foreignKey, registry) := by
  let registered :=
    registry.upsertAgent preparation.agentId preparation.registration
      (context.clock 1)
  have broken : ¬ Consistent foreignKeys registered := by
    intro consistent
    obtain ⟨written, member, _, names⟩ :=
      exists_writeAgent registry
        (mergeAgent preparation.agentId
          (registry.agents.find? preparation.agentId)
          preparation.registration (context.clock 1))
    rw [lastDeploymentId_registration] at names
    have refers :
        preparation.deploymentId ∈
          registered.agents.rows.filterMap AgentRecord.lastDeploymentId :=
      List.mem_filterMap.mpr ⟨written, member, names⟩
    exact isNew (consistent _ List.mem_cons_self _ refers)
  exact bind_error (execute_foreignKey broken)

theorem storeDeployment_taken
    (consistent : Consistent foreignKeys registry)
    (isTaken : preparation.deploymentId ∈ idsOf registry.deployments) :
    (storeDeployment context preparation registry).1 = .error .primaryKey := by
  let row :=
    mergeAgent preparation.agentId
      (registry.agents.find? preparation.agentId)
      preparation.registration (context.clock 1)
  let registered := registry.writeAgent row
  have named :
      ∀ id ∈ row.lastDeploymentId, id ∈ idsOf registry.deployments := by
    intro id isNamed
    rw [lastDeploymentId_registration] at isNamed
    cases isNamed
    exact isTaken
  have first := consistent_writeAgent consistent named
  have isAgent : preparation.agentId ∈ idsOf registered.agents :=
    KeyedTable.mem_keys_upsert.mpr (.inl rfl)
  have second :=
    consistent_setBootstrapToken first isAgent
      (context.hashToken preparation.draft.bootstrapToken)
      preparation.draft.bootstrapExpiresAt (context.clock 2)
  have refused :
      registry.deployments.insert?
          (preparation.deploymentRow (context.clock 3)) =
        none := by
    unfold KeyedTable.insert?
    exact dif_pos isTaken
  have third :
      createDeployment preparation (context.clock 3) (context.clock 4)
          (registered.setBootstrapToken preparation.agentId
            (context.hashToken preparation.draft.bootstrapToken)
            preparation.draft.bootstrapExpiresAt (context.clock 2)) =
        (.error .primaryKey, _) :=
    bind_error (statement_primaryKey (congrArg (Option.map _) refused))
  have whole :
      storeDeployment context preparation registry = (.error .primaryKey, _) :=
    (bind_ok (execute_ok first)).trans
      ((bind_ok (execute_ok second)).trans (bind_error third))
  exact congrArg Prod.fst whole

end Storing

/--
No statement of `prepare_deployment` breaks a foreign key exactly when the id
of a deployment that is accepted is that of a stored one.
-/
theorem keepsForeignKeys_iff
    (context : PrepareContext)
    (request : PrepareRequest)
    (registry : Registry)
    (consistent : Consistent foreignKeys registry) :
    (prepareDeployment context request).KeepsForeignKeys registry ↔
      ∀ preparation accepted,
        acceptRequest context request registry = (.ok preparation, accepted) →
        context.draft.deploymentId ∈ idsOf registry.deployments := by
  have accepting :
      Respects (Unprepared registry.deployments)
        (acceptRequest context request) :=
    respects_acceptRequest
  obtain ⟨keeps, unprepared, same⟩ :=
    accepting registry ⟨consistent, rfl⟩
  unfold KeepsForeignKeys at keeps ⊢
  cases outcome : acceptRequest context request registry with
  | mk ended accepted =>
    rw [outcome] at keeps unprepared same
    cases ended with
    | error failure =>
      rw [prepareDeployment, bind_error outcome]
      refine iff_of_true ?_ ?_
      · exact fun broken => keeps (by cases broken; rfl)
      · intro _ _ accepts
        cases (Prod.mk.inj accepts).1
    | ok preparation =>
      have isId : preparation.deploymentId = context.draft.deploymentId :=
        congrArg Draft.deploymentId (draft_of_acceptRequest outcome)
      dsimp only at same unprepared
      rw [prepareDeployment, bind_ok outcome, ← same, ← isId]
      by_cases isTaken : preparation.deploymentId ∈ idsOf accepted.deployments
      · rw [storeDeployment_taken unprepared isTaken]
        exact iff_of_true nofun fun _ _ _ => isTaken
      · rw [storeDeployment_new isTaken]
        refine iff_of_false (fun keeps => keeps rfl) ?_
        exact fun taken => isTaken (taken _ _ rfl)

/-! ### A deployment for a new agent -/

/-- A server that finds no release on GitHub. -/
def plainContext
    (deploymentId : String)
    (isHex : deploymentId ≠ "" ∧ strip deploymentId = deploymentId) :
    PrepareContext where
  library := Agents.asciiTextLibrary
  draft :=
    { deploymentId
      taskId := "task-1"
      bootstrapToken := "token"
      bootstrapExpiresAt := 4600
      isHex }
  hashToken token := "sha256:" ++ token
  clock _ := 1000
  githubReleases := some []
  freshId _ := "release-2"
  provision mapping := .ok (mapping, [])
  submission := .dispatched

/-- A registry with one release, and a deployment that is done. -/
def releasedRegistry : Registry where
  agents :=
    { rows := [{ id := "vm-00", createdAt := 900, updatedAt := 900 }]
      distinct := by decide }
  deployments :=
    { rows :=
        [{ id := "dep-0"
           agentId := "vm-00"
           hostname := "vm-00"
           status := .ready
           createdAt := 900
           releaseId := some "release-1" }]
      distinct := by decide }
  releases :=
    { rows :=
        [{ id := "release-1"
           version := "1.0"
           commitSha := "c0ffee"
           artifactUrl := "https://example/agent_service.exe"
           artifactSha256 := ""
           createdAt := 800 }]
      distinct := by decide }

/-- A request for an agent that is not registered. -/
def newAgentRequest : PrepareRequest where
  agentId := "vm-01"
  hostname := "vm-01"
  displayName := "vm-01"
  serverWsUrl := "ws://server"

/-- The id of a stored deployment is no reason to break a foreign key. -/
theorem takenId_keepsForeignKeys :
    (prepareDeployment (plainContext "dep-0" (by decide))
        newAgentRequest).KeepsForeignKeys releasedRegistry := by
  apply (keepsForeignKeys_iff _ _ _ (by decide)).mpr
  intro _ _ _
  decide

/-- The first statement for a new agent breaks a foreign key. -/
theorem not_keepsForeignKeys :
    ¬ ∀ context request registry,
        Consistent foreignKeys registry →
        (acceptRequest context request registry).1.isOk = true →
        (prepareDeployment context request).KeepsForeignKeys registry := by
  intro claimed
  exact
    absurd
      (claimed (plainContext "dep-1" (by decide)) newAgentRequest
        releasedRegistry (by decide) (by decide))
      (by decide)

end RpaPlatform.Deploy
