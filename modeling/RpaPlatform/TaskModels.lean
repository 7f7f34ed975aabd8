import Mathlib.Data.List.Basic

namespace RpaPlatform.Tasks

/-!
# Task specifications and their builders

The values the task subsystem works on before they reach the database: task
kinds, statuses and components, the immutable `TaskSpec`, the builder that
assembles one, and the two factory functions behind the task and pipeline
endpoints.  Agent and deployment specifications are subtypes of `TaskSpec`
whose proof is the check made by `__post_init__`.
-/

/-- A JSON value; a floating point number is known by its `repr`. -/
inductive Json where
  | null
  | bool (value : Bool)
  | num (value : Int)
  | float (repr : String)
  | str (value : String)
  | arr (items : List Json)
  | obj (fields : List (String × Json))

def statusNames : List String :=
  ["queued", "running", "completed", "failed", "cancelled", "timeout"]

/--
The status of a task.  Agents report it as free text, so a status may carry a
text that is none of the named ones.
-/
inductive TaskStatus where
  | queued
  | running
  | completed
  | failed
  | cancelled
  | timeout
  | other (text : String) (unnamed : text ∉ statusNames)
deriving DecidableEq

namespace TaskStatus

/-- The status column's text. -/
def text : TaskStatus → String
  | queued => "queued"
  | running => "running"
  | completed => "completed"
  | failed => "failed"
  | cancelled => "cancelled"
  | timeout => "timeout"
  | other text _ => text

/-- The status that a text denotes. -/
def ofText (text : String) : TaskStatus :=
  if named : text ∈ statusNames then
    if text = "queued" then queued
    else if text = "running" then running
    else if text = "completed" then completed
    else if text = "failed" then failed
    else if text = "cancelled" then cancelled
    else timeout
  else
    other text named

/-- `status in ("completed", "failed", "cancelled", "timeout")`. -/
def terminal : TaskStatus → Bool
  | completed | failed | cancelled | timeout => true
  | _ => false

/-- `status in ("completed", "failed", "timeout")`: the pipeline moves on. -/
def advances : TaskStatus → Bool
  | completed | failed | timeout => true
  | _ => false

/-- `status in {"failed", "timeout"}`: the failure policy is consulted. -/
def failing : TaskStatus → Bool
  | failed | timeout => true
  | _ => false

/-- `status in ("queued", "running")`: the task may be cancelled. -/
def cancellable : TaskStatus → Bool
  | queued | running => true
  | _ => false

theorem not_terminal_of_cancellable
    {status : TaskStatus}
    (cancellable : status.cancellable = true) :
    status.terminal = false := by
  cases status <;> simp_all [TaskStatus.cancellable, terminal]

end TaskStatus

/-- The handlers a task can be dispatched to. -/
inductive TaskKind where
  | agent
  | deployment
deriving DecidableEq

namespace TaskKind

def text : TaskKind → String
  | agent => "agent"
  | deployment => "deployment"

end TaskKind

/-- A typed bag of configuration values. -/
structure TaskComponent where
  type : String
  config : List (String × Json)

/-- An immutable description of a task, before it is stored. -/
structure TaskSpec where
  id : String
  kind : TaskKind
  agentId : String
  script : String
  name : String
  cwd : String
  timeoutSec : Int
  session : String
  pipelineRunId : Option String
  stepIndex : Nat
  requestedBy : String
  requestedFrom : String
  payload : List (String × Json)
  components : List TaskComponent

/-- The first component of a type. -/
def TaskSpec.getComponent
    (task : TaskSpec)
    (componentType : String) : Option TaskComponent :=
  task.components.find? fun component =>
    decide (component.type = componentType)

/-- A specification that passes the checks of `AgentTaskSpec`. -/
def AgentTaskSpec : Type :=
  { task : TaskSpec //
    task.kind = .agent ∧
      (task.getComponent "execution").isSome = true }

/-- A specification that passes the checks of `DeploymentTaskSpec`. -/
def DeploymentTaskSpec : Type :=
  { task : TaskSpec //
    task.kind = .deployment ∧
      (task.getComponent "deployment").isSome = true }

/-- A dictionary update: the value replaces one under the same key. -/
def assign
    (fields : List (String × Json))
    (key : String)
    (value : Json) : List (String × Json) :=
  if fields.any fun field => decide (field.1 = key) then
    fields.map fun field =>
      if field.1 = key then (key, value) else field
  else
    fields ++ [(key, value)]

/-- `dict.update`. -/
def assignAll
    (fields : List (String × Json))
    (changes : List (String × Json)) : List (String × Json) :=
  changes.foldl (fun merged change => assign merged change.1 change.2) fields

/-- The state of a `TaskBuilder`. -/
structure TaskBuilder where
  taskId : String
  kind : TaskKind
  agentId : String
  script : String
  name : String := ""
  cwd : String := ""
  timeoutSec : Int := 300
  session : String := ""
  pipelineRunId : Option String := none
  stepIndex : Nat := 0
  requestedBy : String := "system"
  requestedFrom : String := ""
  payload : List (String × Json) := []
  components : List TaskComponent := []

namespace TaskBuilder

/-- Whether a component of the type is present. -/
def has
    (builder : TaskBuilder)
    (componentType : String) : Bool :=
  builder.components.any fun component =>
    decide (component.type = componentType)

/-- Merge configuration values into a component, adding it when absent. -/
def component
    (builder : TaskBuilder)
    (componentType : String)
    (config : List (String × Json)) : TaskBuilder :=
  { builder with
    components :=
      if builder.has componentType then
        builder.components.map fun existing =>
          if existing.type = componentType then
            { existing with config := assignAll existing.config config }
          else
            existing
      else
        builder.components ++ [{ type := componentType, config }] }

/-- A builder for a task that an agent executes. -/
def agent (agentId script taskId : String) : TaskBuilder :=
  ({ taskId, kind := .agent, agentId, script } : TaskBuilder).component
    "execution"
    [("script", .str script), ("cwd", .str ""),
      ("timeout_sec", .num 300), ("session", .str ""),
      ("env", .obj [])]

/-- Set a payload value. -/
def payloadField
    (builder : TaskBuilder)
    (key : String)
    (value : Json) : TaskBuilder :=
  { builder with payload := assign builder.payload key value }

/-- Set several payload values in order. -/
def payloadFields
    (builder : TaskBuilder)
    (fields : List (String × Json)) : TaskBuilder :=
  { builder with payload := assignAll builder.payload fields }

/-- A builder for a deployment task. -/
def deployment (agentId operation taskId : String) : TaskBuilder :=
  (({ taskId, kind := .deployment, agentId,
      script := operation } : TaskBuilder).payloadField
    "operation" (.str operation)).component
    "deployment" [("operation", .str operation)]

/-- Mirror a setting into the execution component, where there is one. -/
def mirror
    (builder : TaskBuilder)
    (key : String)
    (value : Json) : TaskBuilder :=
  if builder.has "execution" then
    builder.component "execution" [(key, value)]
  else
    builder

def withName (builder : TaskBuilder) (value : String) : TaskBuilder :=
  { builder with name := value }

def withCwd (builder : TaskBuilder) (value : String) : TaskBuilder :=
  { builder with cwd := value }.mirror "cwd" (.str value)

def timeout (builder : TaskBuilder) (value : Int) : TaskBuilder :=
  { builder with timeoutSec := value }.mirror "timeout_sec" (.num value)

def withSession (builder : TaskBuilder) (value : String) : TaskBuilder :=
  { builder with session := value }.mirror "session" (.str value)

/-- Attach the task to a step of a pipeline run. -/
def pipeline
    (builder : TaskBuilder)
    (runId : Option String)
    (stepIndex : Nat) : TaskBuilder :=
  let attached :=
    { builder with pipelineRunId := runId, stepIndex }
  match runId with
  | none =>
    attached
  | some run =>
    if run = "" then
      attached
    else
      attached.component "pipeline"
        [("run_id", .str run), ("step_index", .num stepIndex)]

def withRequestedBy
    (builder : TaskBuilder)
    (value : String) : TaskBuilder :=
  { builder with requestedBy := value }

def withRequestedFrom
    (builder : TaskBuilder)
    (value : String) : TaskBuilder :=
  { builder with requestedFrom := value }

def env
    (builder : TaskBuilder)
    (value : List (String × Json)) : TaskBuilder :=
  builder.component "execution" [("env", .obj value)]

/-- The specification that the builder has assembled. -/
def build (builder : TaskBuilder) : TaskSpec where
  id := builder.taskId
  kind := builder.kind
  agentId := builder.agentId
  script := builder.script
  name := builder.name
  cwd := builder.cwd
  timeoutSec := builder.timeoutSec
  session := builder.session
  pipelineRunId := builder.pipelineRunId
  stepIndex := builder.stepIndex
  requestedBy := builder.requestedBy
  requestedFrom := builder.requestedFrom
  payload := builder.payload
  components := builder.components

theorem has_component
    (builder : TaskBuilder)
    (added : String)
    (config : List (String × Json))
    (componentType : String) :
    (builder.component added config).has componentType =
      (decide (added = componentType) || builder.has componentType) := by
  unfold component
  by_cases present : builder.has added = true
  · rw [if_pos present]
    have sameTypes : ∀ existing : TaskComponent, (if existing.type = added then
            { existing with config := assignAll existing.config config }
          else
            existing).type = existing.type := by
      intro existing
      split <;> rfl
    simp only [has, List.any_map, Function.comp_def, sameTypes]
    by_cases same : added = componentType
    · subst added
      simpa [has] using present
    · simp [same]
  · rw [if_neg present]
    simp [has, Bool.or_comm]

section Has

variable
    (builder : TaskBuilder)
    (componentType value : String)

@[simp]
theorem has_mirror
    (key : String)
    (setting : Json) :
    (builder.mirror key setting).has componentType =
      builder.has componentType := by
  unfold mirror
  split
  · rename_i present
    rw [has_component]
    by_cases same : "execution" = componentType
    · subst componentType
      simp [present]
    · simp [same]
  · rfl

@[simp]
theorem has_withName :
    (builder.withName value).has componentType = builder.has componentType :=
  rfl

@[simp]
theorem has_withCwd :
    (builder.withCwd value).has componentType = builder.has componentType :=
  has_mirror ..

@[simp]
theorem has_timeout (seconds : Int) :
    (builder.timeout seconds).has componentType = builder.has componentType :=
  has_mirror ..

@[simp]
theorem has_withSession :
    (builder.withSession value).has componentType = builder.has componentType :=
  has_mirror ..

@[simp]
theorem has_withRequestedBy :
    (builder.withRequestedBy value).has componentType =
      builder.has componentType :=
  rfl

@[simp]
theorem has_withRequestedFrom :
    (builder.withRequestedFrom value).has componentType =
      builder.has componentType :=
  rfl

@[simp]
theorem has_pipeline
    (runId : Option String)
    (stepIndex : Nat) :
    (builder.pipeline runId stepIndex).has "execution" =
      builder.has "execution" := by
  unfold pipeline
  cases runId with
  | none =>
    rfl
  | some run =>
    dsimp only
    split
    · rfl
    · rw [has_component]
      rfl

@[simp]
theorem has_payloadFields (fields : List (String × Json)) :
    (builder.payloadFields fields).has componentType =
      builder.has componentType :=
  rfl

@[simp]
theorem has_env (value : List (String × Json)) :
    (builder.env value).has "execution" = true := by
  rw [env, has_component]
  rfl

@[simp]
theorem has_agent (agentId script taskId : String) :
    (agent agentId script taskId).has "execution" = true :=
  rfl

@[simp]
theorem getComponent_build :
    (builder.build.getComponent componentType).isSome =
      builder.has componentType := by
  rw [Bool.eq_iff_iff]
  simp [TaskSpec.getComponent, build, has]

end Has

end TaskBuilder

/-- The columns of a task that no statement of the store ever updates. -/
structure TaskIdentity where
  id : String
  kind : TaskKind
  agentId : String
  pipelineRunId : Option String
  stepIndex : Nat
deriving DecidableEq

/-- The identity columns of a specification. -/
def TaskSpec.identity (task : TaskSpec) : TaskIdentity where
  id := task.id
  kind := task.kind
  agentId := task.agentId
  pipelineRunId := task.pipelineRunId
  stepIndex := task.stepIndex

theorem TaskSpec.identity_kind (task : TaskSpec) :
    task.identity.kind = task.kind :=
  rfl

namespace TaskBuilder

/-- The identity columns of the specification under construction. -/
def identity (builder : TaskBuilder) : TaskIdentity :=
  builder.build.identity

section Identity

variable
    (builder : TaskBuilder)
    (key value : String)
    (setting : Json)
    (config : List (String × Json))

@[simp]
theorem identity_build :
    builder.build.identity = builder.identity :=
  rfl

@[simp]
theorem identity_agent (agentId script taskId : String) :
    (agent agentId script taskId).identity =
      { id := taskId, kind := .agent, agentId,
        pipelineRunId := none, stepIndex := 0 } :=
  rfl

@[simp]
theorem identity_component :
    (builder.component key config).identity = builder.identity :=
  rfl

@[simp]
theorem identity_mirror :
    (builder.mirror key setting).identity = builder.identity := by
  unfold mirror
  split <;> rfl

@[simp]
theorem identity_withName :
    (builder.withName value).identity = builder.identity :=
  rfl

@[simp]
theorem identity_withCwd :
    (builder.withCwd value).identity = builder.identity := by
  rw [withCwd, identity_mirror]
  rfl

@[simp]
theorem identity_timeout (seconds : Int) :
    (builder.timeout seconds).identity = builder.identity := by
  rw [timeout, identity_mirror]
  rfl

@[simp]
theorem identity_withSession :
    (builder.withSession value).identity = builder.identity := by
  rw [withSession, identity_mirror]
  rfl

@[simp]
theorem identity_withRequestedBy :
    (builder.withRequestedBy value).identity = builder.identity :=
  rfl

@[simp]
theorem identity_withRequestedFrom :
    (builder.withRequestedFrom value).identity = builder.identity :=
  rfl

@[simp]
theorem identity_deployment (agentId operation taskId : String) :
    (deployment agentId operation taskId).identity =
      { id := taskId, kind := .deployment, agentId,
        pipelineRunId := none, stepIndex := 0 } :=
  rfl

@[simp]
theorem identity_payloadFields :
    (builder.payloadFields config).identity = builder.identity :=
  rfl

@[simp]
theorem identity_env :
    (builder.env config).identity = builder.identity :=
  rfl

@[simp]
theorem identity_pipeline
    (runId : Option String)
    (stepIndex : Nat) :
    (builder.pipeline runId stepIndex).identity =
      { builder.identity with pipelineRunId := runId, stepIndex } := by
  unfold pipeline
  cases runId with
  | none =>
    rfl
  | some run =>
    dsimp only
    split <;> rfl

end Identity

end TaskBuilder

/-- The policies a pipeline step can have for its own failure. -/
inductive OnFail where
  | stop
  | continue
  | retry
deriving DecidableEq

/-- The body of a request that creates a task. -/
structure CreateTaskRequest where
  agentId : String
  script : String
  name : String := ""
  cwd : String := ""
  timeoutSec : Nat := 300
  session : String := ""
  requestedBy : String := "user"
  env : List (String × Json) := []
  agentIdNonempty : agentId ≠ ""
  scriptNonempty : script ≠ ""
  timeoutPositive : 1 ≤ timeoutSec

/-- One step of a request that creates a pipeline. -/
structure PipelineStepRequest where
  stepIndex : Nat := 0
  name : String := ""
  script : String
  cwd : String := ""
  timeoutSec : Nat := 300
  onFail : OnFail := .stop
  retryCount : Nat := 0
  scriptNonempty : script ≠ ""
  timeoutPositive : 1 ≤ timeoutSec

/-- The body of a request that creates a pipeline. -/
structure CreatePipelineRequest where
  name : String := "Unnamed Pipeline"
  description : String := ""
  createdBy : String := "user"
  steps : List PipelineStepRequest
  stepsNonempty : steps ≠ []

/-- The body of a request that starts a pipeline. -/
structure RunPipelineRequest where
  agentId : String
  session : String := ""
  requestedBy : String := "user"
  agentIdNonempty : agentId ≠ ""

/-- A stored pipeline step. -/
structure PipelineStepRow where
  pipelineId : String
  stepIndex : Nat
  name : String
  script : String
  cwd : String
  timeoutSec : Nat
  onFail : OnFail
  retryCount : Nat

namespace TaskFactory

/-- The task of a request to the task endpoint. -/
def createAgentTaskFromRequest
    (body : CreateTaskRequest)
    (requestedFrom taskId : String) : AgentTaskSpec :=
  ⟨(TaskBuilder.agent body.agentId body.script taskId)
      |>.withName body.name
      |>.withCwd body.cwd
      |>.timeout body.timeoutSec
      |>.withSession body.session
      |>.withRequestedBy body.requestedBy
      |>.withRequestedFrom requestedFrom
      |>.env body.env
      |>.build, by
    constructor
    · rw [← TaskSpec.identity_kind]
      simp
    · simp⟩

/-- The task of a pipeline step. -/
def createPipelineStepTask
    (agentId session runId : String)
    (step : PipelineStepRow)
    (requestedBy requestedFrom taskId : String) : AgentTaskSpec :=
  ⟨(TaskBuilder.agent agentId step.script taskId)
      |>.withName step.name
      |>.withCwd step.cwd
      |>.timeout step.timeoutSec
      |>.withSession session
      |>.pipeline (some runId) step.stepIndex
      |>.withRequestedBy requestedBy
      |>.withRequestedFrom requestedFrom
      |>.build, by
    constructor
    · rw [← TaskSpec.identity_kind]
      simp
    · simp⟩

@[simp]
theorem identity_createAgentTaskFromRequest
    (body : CreateTaskRequest)
    (requestedFrom taskId : String) :
    (createAgentTaskFromRequest body requestedFrom taskId).val.identity =
      { id := taskId, kind := .agent, agentId := body.agentId,
        pipelineRunId := none, stepIndex := 0 } := by
  simp [createAgentTaskFromRequest]

@[simp]
theorem identity_createPipelineStepTask
    (agentId session runId : String)
    (step : PipelineStepRow)
    (requestedBy requestedFrom taskId : String) :
    (createPipelineStepTask agentId session runId step
        requestedBy requestedFrom taskId).val.identity =
      { id := taskId, kind := .agent, agentId,
        pipelineRunId := some runId, stepIndex := step.stepIndex } := by
  simp [createPipelineStepTask]

section StepTask

variable
    (agentId session runId : String)
    (step : PipelineStepRow)
    (requestedBy requestedFrom taskId : String)

@[simp]
theorem createPipelineStepTask_agentId :
    (createPipelineStepTask agentId session runId step
      requestedBy requestedFrom taskId).val.agentId = agentId :=
  congrArg TaskIdentity.agentId
    (identity_createPipelineStepTask agentId session runId step
      requestedBy requestedFrom taskId)

@[simp]
theorem createPipelineStepTask_pipelineRunId :
    (createPipelineStepTask agentId session runId step
      requestedBy requestedFrom taskId).val.pipelineRunId = some runId :=
  congrArg TaskIdentity.pipelineRunId
    (identity_createPipelineStepTask agentId session runId step
      requestedBy requestedFrom taskId)

@[simp]
theorem createPipelineStepTask_stepIndex :
    (createPipelineStepTask agentId session runId step
      requestedBy requestedFrom taskId).val.stepIndex = step.stepIndex :=
  congrArg TaskIdentity.stepIndex
    (identity_createPipelineStepTask agentId session runId step
      requestedBy requestedFrom taskId)

end StepTask

end TaskFactory

/-- What `prepare_deployment` puts into the task it submits. -/
structure PrepareSubmission where
  agentId : String
  hostname : String
  repoRoot : String
  requestedBy : String
  payload : List (String × Json)
  deployment : List (String × Json)

/-- The task that a deployment submits. -/
def prepareTask
    (body : PrepareSubmission)
    (taskId : String) : DeploymentTaskSpec :=
  ⟨(TaskBuilder.deployment body.agentId "prepare" taskId)
      |>.withName ("Prepare deployment for " ++ body.hostname)
      |>.withCwd body.repoRoot
      |>.timeout 7200
      |>.withRequestedBy body.requestedBy
      |>.withRequestedFrom "server"
      |>.payloadFields body.payload
      |>.component "deployment" body.deployment
      |>.build, by
    constructor
    · rw [← TaskSpec.identity_kind]
      simp
    · simp [TaskBuilder.has_component]⟩

@[simp]
theorem identity_prepareTask
    (body : PrepareSubmission)
    (taskId : String) :
    (prepareTask body taskId).val.identity =
      { id := taskId, kind := .deployment, agentId := body.agentId,
        pipelineRunId := none, stepIndex := 0 } := by
  simp [prepareTask]

end RpaPlatform.Tasks
