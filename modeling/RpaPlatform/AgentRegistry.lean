import RpaPlatform.AgentCredentials
import RpaPlatform.Dictionary

namespace RpaPlatform.Agents

open Tasks (Json)

/-!
# The agent registry

The registry's tables with all the columns that the lifecycle of an agent
reads or writes: agents with their status and metadata, deployments, and
credentials.  Reads and writes are separate operations, as the handlers wait
between them.
-/

/-- A JSON object. -/
abbrev JsonObject :=
  List (String × Json)

/-- `agents.status`. -/
inductive AgentStatus where
  | registered
  | provisioning
  | readyForInstall
  | active
  | hostnameMismatch
  | bootstrapExpired
  | deployFailed
deriving DecidableEq

inductive ConnectionStatus where
  | offline
  | online
deriving DecidableEq

/-- `agent_deployments.status`. -/
inductive DeploymentStatus where
  | queued
  | building
  | preparing
  | ready
  | failed
  | expiredBootstrap
deriving DecidableEq

/-- A row of `agents`. -/
structure AgentRecord where
  id : String
  hostname : String := ""
  displayName : String := ""
  status : AgentStatus := .registered
  connectionStatus : ConnectionStatus := .offline
  currentVersion : String := ""
  lastDeploymentId : Option String := none
  metadata : JsonObject := []
  createdAt : Int
  updatedAt : Int
  lastSeenAt : Option Int := none

/-- A row of `agent_deployments`. -/
structure DeploymentRow where
  id : String
  agentId : String
  hostname : String
  status : DeploymentStatus := .queued
  error : Option String := none
  createdAt : Int
  completedAt : Option Int := none

/-- The registry's tables. -/
structure AgentRegistry where
  agents : KeyedTable AgentRecord AgentRecord.id
  deployments : KeyedTable DeploymentRow DeploymentRow.id
  credentials : KeyedTable CredentialsRow CredentialsRow.agentId

/-- A registry that knows no agent. -/
def AgentRegistry.empty : AgentRegistry where
  agents := .empty
  deployments := .empty
  credentials := .empty

/-! ### Metadata -/

mutual

/-- A value of `_merge_metadata`, merged into the value there was. -/
def mergeValue (existing : Option Json) : Json → Json
  | .obj incoming =>
    match existing with
    | some (.obj fields) => .obj (mergeMetadata fields incoming)
    | _ => .obj incoming
  | value =>
    value

def mergeMetadata (existing : JsonObject) : JsonObject → JsonObject
  | [] =>
    existing
  | (key, value) :: rest =>
    mergeMetadata
      (Dictionary.set key (mergeValue (existing.lookup key) value) existing)
      rest

end

theorem lookup_mergeMetadata_absent
    {incoming : JsonObject}
    {wanted : String}
    (absent : incoming.lookup wanted = none)
    (existing : JsonObject) :
    (mergeMetadata existing incoming).lookup wanted =
      existing.lookup wanted := by
  induction incoming generalizing existing with
  | nil =>
    rw [mergeMetadata]
  | cons entry rest inductionHypothesis =>
    obtain ⟨key, value⟩ := entry
    rw [List.lookup_cons] at absent
    split at absent
    · cases absent
    · rename_i different
      rw [mergeMetadata, inductionHypothesis absent]
      apply Dictionary.lookup_set_other
      rintro rfl
      simp at different

/-! ### Reading -/

/-- The latest of some deployments; the first one of those made together. -/
def latest : List DeploymentRow → Option DeploymentRow
  | [] =>
    none
  | row :: rest =>
    match latest rest with
    | none => some row
    | some later =>
      if row.createdAt < later.createdAt then some later else some row

theorem mem_of_latest
    {rows : List DeploymentRow}
    {row : DeploymentRow}
    (isLatest : latest rows = some row) : row ∈ rows := by
  induction rows with
  | nil =>
    cases isLatest
  | cons first rest inductionHypothesis =>
    rw [latest] at isLatest
    split at isLatest
    · cases isLatest
      exact List.mem_cons_self
    · rename_i later found
      split at isLatest
      · cases isLatest
        exact List.mem_cons_of_mem _ (inductionHypothesis found)
      · cases isLatest
        exact List.mem_cons_self

/-- `str.isspace`, of one character. -/
def isSpace (character : Char) : Bool :=
  let code := character.toNat
  (9 ≤ code && code ≤ 13) || (28 ≤ code && code ≤ 32) ||
    code = 0x85 || code = 0xa0 || code = 0x1680 ||
    (0x2000 ≤ code && code ≤ 0x200a) || code = 0x2028 ||
    code = 0x2029 || code = 0x202f || code = 0x205f || code = 0x3000

def strip (text : String) : String :=
  String.ofList ((text.toList.dropWhile isSpace).rdropWhile isSpace)

theorem dropEnds_dropEnds
    {Item : Type*}
    (blank : Item → Bool)
    (items : List Item) :
    (((items.dropWhile blank).rdropWhile blank).dropWhile
        blank).rdropWhile blank =
      (items.dropWhile blank).rdropWhile blank := by
  have leading :
      ((items.dropWhile blank).rdropWhile blank).dropWhile blank =
        (items.dropWhile blank).rdropWhile blank := by
    refine List.dropWhile_eq_self_iff.mpr fun nonempty => ?_
    have keptHead :=
      List.dropWhile_eq_self_iff.mp (List.dropWhile_idempotent blank items)
    have isPrefix :=
      List.rdropWhile_prefix blank (items.dropWhile blank)
    have longer := Nat.lt_of_lt_of_le nonempty isPrefix.length_le
    rw [isPrefix.getElem nonempty]
    exact keptHead longer
  rw [leading, List.rdropWhile_idempotent]

theorem strip_eq_self
    {text : String}
    (visible : ∀ character ∈ text.toList, isSpace character = false) :
    strip text = text := by
  have noneLeading : text.toList.dropWhile isSpace = text.toList :=
    List.dropWhile_eq_self_iff.mpr fun nonempty =>
      Bool.eq_false_iff.mp (visible _ (List.getElem_mem nonempty))
  have noneTrailing : text.toList.rdropWhile isSpace = text.toList :=
    List.rdropWhile_eq_self_iff.mpr fun nonempty =>
      Bool.eq_false_iff.mp (visible _ (List.getLast_mem nonempty))
  unfold strip
  rw [noneLeading, noneTrailing, String.ofList_toList]

@[simp]
theorem strip_strip (text : String) : strip (strip text) = strip text := by
  unfold strip
  rw [String.toList_ofList, dropEnds_dropEnds]

namespace AgentRegistry

def getAgent
    (registry : AgentRegistry)
    (agentId : String) : Option AgentRecord :=
  registry.agents.find? agentId

def getAgentCredentials
    (registry : AgentRegistry)
    (agentId : String) : Option CredentialsRow :=
  registry.credentials.find? agentId

def getLatestDeploymentForAgent
    (registry : AgentRegistry)
    (agentId : String) : Option DeploymentRow :=
  latest
    (registry.deployments.rows.filter fun row =>
      decide (row.agentId = agentId))

end AgentRegistry

/-- The host that an agent is expected on, by its row and deployment. -/
def expectedHostname
    (agent : Option AgentRecord)
    (deployment : Option DeploymentRow) : String :=
  let hostname := strip ((agent.map fun row => row.hostname).getD "")
  if hostname ≠ "" then
    hostname
  else
    strip ((deployment.map fun row => row.hostname).getD "")

/-! ### Writing -/

/-- The arguments of `upsert_agent`. -/
structure AgentChange where
  hostname : String := ""
  displayName : String := ""
  status : Option AgentStatus := none
  connectionStatus : Option ConnectionStatus := none
  metadata : Option JsonObject := none
  lastSeenAt : Option Int := none
  currentVersion : String := ""
  lastDeploymentId : Option String := none

def orText (text existing : String) : String :=
  if text ≠ "" then text else existing

/-- The row that `upsert_agent` writes, given the row it has read. -/
def mergeAgent
    (agentId : String)
    (existing : Option AgentRecord)
    (change : AgentChange)
    (now : Int) : AgentRecord :=
  let stored :=
    existing.getD { id := agentId, createdAt := now, updatedAt := now }
  { id := agentId
    hostname := orText change.hostname stored.hostname
    displayName := orText change.displayName stored.displayName
    status := change.status.getD stored.status
    connectionStatus :=
      change.connectionStatus.getD stored.connectionStatus
    currentVersion := orText change.currentVersion stored.currentVersion
    lastDeploymentId :=
      (change.lastDeploymentId.filter (· ≠ "")).or stored.lastDeploymentId
    metadata := mergeMetadata stored.metadata (change.metadata.getD [])
    createdAt := stored.createdAt
    updatedAt := now
    lastSeenAt := change.lastSeenAt.or stored.lastSeenAt }

/-- The arguments of `update_deployment`. -/
structure DeploymentChange where
  status : Option DeploymentStatus := none
  error : Option String := none
  completedAt : Option Int := none

/-- A deployment after `update_deployment`. -/
def DeploymentRow.changed
    (row : DeploymentRow)
    (change : DeploymentChange) : DeploymentRow :=
  { row with
    status := change.status.getD row.status
    error := change.error.or row.error
    completedAt := change.completedAt.or row.completedAt }

namespace AgentRegistry

/-- The statement of `upsert_agent`. -/
def writeAgent
    (registry : AgentRegistry)
    (row : AgentRecord) : AgentRegistry :=
  { registry with
    agents :=
      registry.agents.upsert row
        (fun stored =>
          { row with id := stored.id, createdAt := stored.createdAt })
        fun _ => rfl }

/-- `upsert_agent`, without anything in between. -/
def upsertAgent
    (registry : AgentRegistry)
    (agentId : String)
    (change : AgentChange)
    (now : Int) : AgentRegistry :=
  registry.writeAgent
    (mergeAgent agentId (registry.getAgent agentId) change now)

def updateDeployment
    (registry : AgentRegistry)
    (deploymentId : String)
    (change : DeploymentChange) : AgentRegistry :=
  { registry with
    deployments :=
      registry.deployments.modify deploymentId (·.changed change)
        fun _ => rfl }

/-- Issue the update of an authorization. -/
def applyUpdate
    (registry : AgentRegistry)
    (agentId : String)
    (now : Int)
    (update : CredentialsUpdate) : AgentRegistry :=
  { registry with
    credentials :=
      registry.credentials.modify agentId (·.updated now update)
        (CredentialsRow.agentId_updated now update) }

theorem getAgent_writeAgent
    (registry : AgentRegistry)
    (row : AgentRecord) :
    (registry.writeAgent row).getAgent row.id =
      some
        (((registry.getAgent row.id).map fun stored =>
            { row with id := stored.id, createdAt := stored.createdAt
              : AgentRecord }).getD row) := by
  unfold getAgent writeAgent
  rw [KeyedTable.find?_upsert, if_pos rfl]

theorem getAgent_upsertAgent
    (registry : AgentRegistry)
    (agentId : String)
    (change : AgentChange)
    (now : Int) :
    (registry.upsertAgent agentId change now).getAgent agentId =
      some (mergeAgent agentId (registry.getAgent agentId) change now) := by
  have written :=
    registry.getAgent_writeAgent
      (mergeAgent agentId (registry.getAgent agentId) change now)
  rw [upsertAgent]
  refine written.trans (congrArg some ?_)
  cases found : registry.getAgent agentId with
  | none =>
    have absent :
        registry.getAgent (mergeAgent agentId none change now).id = none :=
      found
    rw [absent]
    rfl
  | some stored =>
    have present :
        registry.getAgent
          (mergeAgent agentId (some stored) change now).id = some stored :=
      found
    have named : stored.id = agentId := KeyedTable.key_of_find? found
    rw [present]
    simp only [Option.map_some, Option.getD_some, mergeAgent, named]

end AgentRegistry

end RpaPlatform.Agents
