import RpaPlatform.ApiRequests
import RpaPlatform.ForeignKeys

namespace RpaPlatform.Deploy

open Agents (AgentChange AgentRecord CredentialsRow DeploymentRecord
  Deployments DeploymentStatus JsonObject TextLibrary cleanField getField
  mergeAgent mergeMetadata orText strip truthy)
open Tasks (Json PrepareSubmission)

/-!
# The registry of deployments

The tables of `agents.db` with the columns that preparing a deployment reads
or writes, the statements that it executes on them, and the foreign keys that
`start` declares.
-/

/-- A row of `agent_releases`. -/
structure ReleaseRow where
  id : String
  version : String
  tagName : String := ""
  commitSha : String
  artifactUrl : String
  artifactSha256 : String
  workflowRunId : Option String := none
  createdAt : Int
  publishedAt : Option Int := none
  metadata : JsonObject := []

/-- A row of `agent_update_jobs`, as far as it refers to other rows. -/
structure UpdateJobRow where
  id : String
  agentId : String
  deploymentId : Option String := none
  fromReleaseId : Option String := none
  toReleaseId : Option String := none

/-- `agents.db`. -/
structure Registry where
  agents : KeyedTable AgentRecord AgentRecord.id := .empty
  credentials : KeyedTable CredentialsRow CredentialsRow.agentId := .empty
  deployments : Deployments := .empty
  releases : KeyedTable ReleaseRow ReleaseRow.id := .empty
  updateJobs : KeyedTable UpdateJobRow UpdateJobRow.id := .empty

/-- The arguments of `update_deployment`. -/
structure DeploymentUpdate where
  status : Option DeploymentStatus := none
  taskId : Option String := none
  releaseId : Option String := none
  commitSha : Option String := none
  tagName : Option String := none
  artifactDir : Option String := none
  artifactExePath : Option String := none
  packageZipPath : Option String := none
  bootstrapPath : Option String := none
  installScriptPath : Option String := none
  installerCopyPath : Option String := none
  error : Option String := none
  buildLog : Option String := none
  startedAt : Option Int := none
  completedAt : Option Int := none
  metadata : Option JsonObject := none

/-- A deployment after `update_deployment`. -/
def updated
    (change : DeploymentUpdate)
    (row : DeploymentRecord) : DeploymentRecord :=
  { row with
    status := change.status.getD row.status
    taskId := change.taskId.or row.taskId
    releaseId := change.releaseId.or row.releaseId
    commitSha := change.commitSha.getD row.commitSha
    tagName := change.tagName.getD row.tagName
    artifactDir := change.artifactDir.getD row.artifactDir
    artifactExePath := change.artifactExePath.getD row.artifactExePath
    packageZipPath := change.packageZipPath.getD row.packageZipPath
    bootstrapPath := change.bootstrapPath.getD row.bootstrapPath
    installScriptPath :=
      change.installScriptPath.getD row.installScriptPath
    installerCopyPath :=
      change.installerCopyPath.getD row.installerCopyPath
    error := change.error.or row.error
    buildLog := change.buildLog.getD row.buildLog
    startedAt := change.startedAt.or row.startedAt
    completedAt := change.completedAt.or row.completedAt
    metadata :=
      (change.metadata.map (mergeMetadata row.metadata)).getD
        row.metadata }

theorem id_kept (row stored : AgentRecord) :
    ({ row with id := stored.id, createdAt := stored.createdAt } :
      AgentRecord).id = stored.id :=
  rfl

theorem agentId_kept
    (tokenHash : String)
    (expiresAt now : Int)
    (stored : CredentialsRow) :
    ({ stored with
        bootstrapTokenHash := some tokenHash
        bootstrapExpiresAt := some expiresAt
        bootstrapUsedAt := none
        updatedAt := now } : CredentialsRow).agentId = stored.agentId :=
  rfl

namespace Registry

variable (registry : Registry)

/-! ### Statements -/

/-- The statement of `upsert_agent`. -/
def writeAgent (row : AgentRecord) : Registry :=
  { registry with
    agents :=
      registry.agents.upsert row
        (fun stored =>
          { row with id := stored.id, createdAt := stored.createdAt })
        (id_kept row) }

/-- `upsert_agent`, without anything in between. -/
def upsertAgent
    (agentId : String)
    (change : AgentChange)
    (now : Int) : Registry :=
  registry.writeAgent
    (mergeAgent agentId (registry.agents.find? agentId) change now)

def setBootstrapToken
    (agentId tokenHash : String)
    (expiresAt now : Int) : Registry :=
  { registry with
    credentials :=
      registry.credentials.upsert
        { agentId
          bootstrapTokenHash := some tokenHash
          bootstrapExpiresAt := some expiresAt
          updatedAt := now }
        (fun stored =>
          { stored with
            bootstrapTokenHash := some tokenHash
            bootstrapExpiresAt := some expiresAt
            bootstrapUsedAt := none
            updatedAt := now })
        (agentId_kept tokenHash expiresAt now) }

/-- The first statement of `create_deployment`. -/
def insertDeployment? (row : DeploymentRecord) : Option Registry :=
  (registry.deployments.insert? row).map fun deployments =>
    { registry with deployments }

def updateDeployment
    (deploymentId : String)
    (change : DeploymentUpdate) : Registry :=
  { registry with
    deployments :=
      registry.deployments.modify deploymentId (updated change)
        fun _ => rfl }

/-- The statement of `delete_agent`, with what it cascades to. -/
def deleteAgent (agentId : String) : Registry :=
  { registry with
    agents := registry.agents.delete agentId
    credentials := registry.credentials.delete agentId
    deployments :=
      registry.deployments.deleteWhere fun row => row.agentId = agentId
    updateJobs :=
      registry.updateJobs.deleteWhere fun row => row.agentId = agentId }

/-- The statement of `upsert_release_from_source`. -/
def writeRelease (row : ReleaseRow) : Registry :=
  { registry with
    releases :=
      registry.releases.upsert row
        (fun stored =>
          { row with id := stored.id, createdAt := stored.createdAt })
        fun _ => rfl }

/-! ### Releases -/

/-- Whether a release comes before another one when the latest is first. -/
def isLater (first second : ReleaseRow) : Bool :=
  match first.publishedAt, second.publishedAt with
  | some one, some other =>
    other < one || one = other && second.createdAt ≤ first.createdAt
  | some _, none => true
  | none, some _ => false
  | none, none => second.createdAt ≤ first.createdAt

/-- `ORDER BY published_at DESC, created_at DESC`. -/
def latestFirst (rows : List ReleaseRow) : List ReleaseRow :=
  rows.insertionSort fun first second => isLater first second = true

def getReleaseByTag (tagName : String) : Option ReleaseRow :=
  (latestFirst
    (registry.releases.rows.filter fun row => row.tagName = tagName)).head?

def getReleaseByVersion (version : String) : Option ReleaseRow :=
  (latestFirst
    (registry.releases.rows.filter fun row => row.version = version)).head?

def getReleases (limit : Nat) : List ReleaseRow :=
  (latestFirst registry.releases.rows).take limit

def getLatestRelease : Option ReleaseRow :=
  (latestFirst registry.releases.rows).head?

end Registry

/-! ### Foreign keys -/

/-- The ids of the rows of a table. -/
def idsOf
    {Row : Type}
    {key : Row → String}
    (table : KeyedTable Row key) : List String :=
  table.rows.map key

/-- The foreign keys that the schema declares. -/
def foreignKeys : List (ForeignKey Registry String) :=
  [{ references := fun registry =>
        registry.agents.rows.filterMap AgentRecord.lastDeploymentId
     keys := fun registry => idsOf registry.deployments },
    { references := fun registry => idsOf registry.credentials
      keys := fun registry => idsOf registry.agents },
    { references := fun registry =>
        registry.deployments.rows.map fun row => row.agentId
      keys := fun registry => idsOf registry.agents },
    { references := fun registry =>
        registry.deployments.rows.filterMap DeploymentRecord.releaseId
      keys := fun registry => idsOf registry.releases },
    { references := fun registry =>
        registry.updateJobs.rows.map UpdateJobRow.agentId
      keys := fun registry => idsOf registry.agents },
    { references := fun registry =>
        registry.updateJobs.rows.filterMap UpdateJobRow.deploymentId
      keys := fun registry => idsOf registry.deployments },
    { references := fun registry =>
        registry.updateJobs.rows.filterMap UpdateJobRow.fromReleaseId
      keys := fun registry => idsOf registry.releases },
    { references := fun registry =>
        registry.updateJobs.rows.filterMap UpdateJobRow.toReleaseId
      keys := fun registry => idsOf registry.releases }]

section Consistency

variable {registry : Registry}

theorem consistent_writeRelease
    (consistent : Consistent foreignKeys registry)
    (row : ReleaseRow) :
    Consistent foreignKeys (registry.writeRelease row) := by
  have kept :
      ∀ id ∈ idsOf registry.releases,
        id ∈ idsOf (registry.writeRelease row).releases :=
    fun _ member => KeyedTable.mem_keys_upsert.mpr (.inr member)
  apply consistent.grow
  simp only [foreignKeys, List.forall_mem_cons]
  exact
    ⟨⟨fun _ => id, fun _ => .inl⟩, ⟨fun _ => id, fun _ => .inl⟩,
      ⟨fun _ => id, fun _ => .inl⟩, ⟨kept, fun _ => .inl⟩,
      ⟨fun _ => id, fun _ => .inl⟩, ⟨fun _ => id, fun _ => .inl⟩,
      ⟨kept, fun _ => .inl⟩, ⟨kept, fun _ => .inl⟩, nofun⟩

theorem consistent_writeAgent
    (consistent : Consistent foreignKeys registry)
    {row : AgentRecord}
    (named : ∀ id ∈ row.lastDeploymentId, id ∈ idsOf registry.deployments) :
    Consistent foreignKeys (registry.writeAgent row) := by
  have kept :
      ∀ id ∈ idsOf registry.agents,
        id ∈ idsOf (registry.writeAgent row).agents :=
    fun _ member => KeyedTable.mem_keys_upsert.mpr (.inr member)
  have met :
      ∀ id ∈ (registry.writeAgent row).agents.rows.filterMap
          AgentRecord.lastDeploymentId,
        id ∈ registry.agents.rows.filterMap AgentRecord.lastDeploymentId ∨
          id ∈ idsOf (registry.writeAgent row).deployments := by
    intro id refers
    obtain ⟨found, member, isId⟩ := List.mem_filterMap.mp refers
    rcases KeyedTable.mem_rows_upsert member with
      old | rfl | ⟨stored, _, _, rfl⟩
    · exact .inl (List.mem_filterMap.mpr ⟨found, old, isId⟩)
    · exact .inr (named id isId)
    · exact .inr (named id isId)
  apply consistent.grow
  simp only [foreignKeys, List.forall_mem_cons]
  exact
    ⟨⟨fun _ => id, met⟩, ⟨kept, fun _ => .inl⟩, ⟨kept, fun _ => .inl⟩,
      ⟨fun _ => id, fun _ => .inl⟩, ⟨kept, fun _ => .inl⟩,
      ⟨fun _ => id, fun _ => .inl⟩, ⟨fun _ => id, fun _ => .inl⟩,
      ⟨fun _ => id, fun _ => .inl⟩, nofun⟩

theorem exists_writeAgent (registry : Registry) (row : AgentRecord) :
    ∃ written ∈ (registry.writeAgent row).agents.rows,
      written.id = row.id ∧
        written.lastDeploymentId = row.lastDeploymentId := by
  have found :=
    KeyedTable.find?_upsert registry.agents row
      (fun stored =>
        { row with id := stored.id, createdAt := stored.createdAt })
      (fun _ => rfl) row.id
  rw [if_pos rfl] at found
  obtain ⟨member, named⟩ := (KeyedTable.find?_eq_some_iff _).mp found
  refine ⟨_, member, named, ?_⟩
  cases registry.agents.find? row.id with
  | none | some =>
    rfl

theorem consistent_setBootstrapToken
    (consistent : Consistent foreignKeys registry)
    {agentId : String}
    (isAgent : agentId ∈ idsOf registry.agents)
    (tokenHash : String)
    (expiresAt now : Int) :
    Consistent foreignKeys
      (registry.setBootstrapToken agentId tokenHash expiresAt now) := by
  have met :
      ∀ id ∈ idsOf
          (registry.setBootstrapToken agentId tokenHash expiresAt
            now).credentials,
        id ∈ idsOf registry.credentials ∨ id ∈ idsOf registry.agents := by
    intro id refers
    rcases KeyedTable.mem_keys_upsert.mp refers with rfl | old
    · exact .inr isAgent
    · exact .inl old
  apply consistent.grow
  simp only [foreignKeys, List.forall_mem_cons]
  exact
    ⟨⟨fun _ => id, fun _ => .inl⟩, ⟨fun _ => id, met⟩,
      ⟨fun _ => id, fun _ => .inl⟩, ⟨fun _ => id, fun _ => .inl⟩,
      ⟨fun _ => id, fun _ => .inl⟩, ⟨fun _ => id, fun _ => .inl⟩,
      ⟨fun _ => id, fun _ => .inl⟩, ⟨fun _ => id, fun _ => .inl⟩, nofun⟩

end Consistency

/-- A program on the registry. -/
abbrev RegistryProgram :=
  SqlProgram Registry

def execute (change : Registry → Registry) : RegistryProgram Unit :=
  SqlProgram.statement foreignKeys fun registry => some (change registry)

theorem execute_ok
    {registry : Registry}
    {change : Registry → Registry}
    (consistent : Consistent foreignKeys (change registry)) :
    execute change registry = (.ok (), change registry) :=
  SqlProgram.statement_ok rfl consistent

theorem execute_foreignKey
    {registry : Registry}
    {change : Registry → Registry}
    (broken : ¬ Consistent foreignKeys (change registry)) :
    execute change registry = (.error .foreignKey, registry) :=
  SqlProgram.statement_foreignKey rfl broken

end RpaPlatform.Deploy
