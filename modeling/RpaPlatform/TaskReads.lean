import RpaPlatform.AccessPolicy
import RpaPlatform.AgentLifecycle

namespace RpaPlatform.Tasks

open Agents (Role TextLibrary getHighestRole orText strip)

/-!
# Reading tasks

The read endpoints of the task router.  They are open to every user who may
see agents, whatever the user's role, and return the payload and the
components of a task as they are stored.  The task that prepares a deployment
carries the raw bootstrap token in both, so two stores that differ in such
tokens answer alike exactly where no task with different tokens is read.
-/

/-! ### Responses -/

/-- `TaskResponse`; no statement writes `config_id`. -/
structure TaskResponse where
  id : String
  pipelineRunId : Option String
  stepIndex : Nat
  agentId : String
  session : String
  name : String
  script : String
  cwd : String
  timeoutSec : Int
  configId : Option String := none
  status : String
  pid : Option Int
  exitCode : Option Int
  error : Option String
  requestedBy : String
  requestedFrom : String
  createdAt : Int
  startedAt : Option Int
  completedAt : Option Int
  kind : String
  payload : List (String × Json)
  components : List TaskComponent

/-- `_map_task_row`, as `TaskResponse` returns it. -/
def TaskRow.toResponse (row : TaskRow) : TaskResponse where
  id := row.id
  pipelineRunId := row.pipelineRunId
  stepIndex := row.stepIndex
  agentId := row.agentId
  session := row.session
  name := row.name
  script := row.script
  cwd := row.cwd
  timeoutSec := row.timeoutSec
  status := row.status.text
  pid := row.pid
  exitCode := row.exitCode
  error := row.error
  requestedBy := row.requestedBy
  requestedFrom := row.requestedFrom
  createdAt := row.createdAt
  startedAt := row.startedAt
  completedAt := row.completedAt
  kind := row.kind.text
  payload := row.payload
  components := row.components

structure TaskLogResponse where
  content : String
  offset : Nat
  size : Nat

structure PipelineRunResponse where
  run : PipelineRunRow
  tasks : List TaskResponse

/-- The response to a read operation. -/
inductive ReadResponse where
  | notFound
  | tasks (tasks : List TaskResponse)
  | task (task : TaskResponse)
  | pipelineRun (run : PipelineRunResponse)
  | log (log : TaskLogResponse)
  | text (content : String)

/-! ### Operations -/

/-- A user, as far as reading depends on it. -/
structure RequestUser where
  roles : List String := ["viewer"]
  agentVisibility : String := "all"

def requestHasAgentVisibility
    (library : TextLibrary) : Option RequestUser → Bool
  | none => false
  | some user =>
    library.lower (strip (orText user.agentVisibility "all")) ≠ "none"

/-- What the task reads are answered from. -/
structure TaskStore where
  db : TaskDB
  files : Files

/-- Where the logs are kept, and how they are decoded. -/
structure LogReader where
  host : LogHost
  /-- Reading UTF-8 as text, with `errors="replace"`. -/
  decode : ByteArray → String

/-- The read operations of the task router. -/
inductive TaskRead where
  | listTasks (agentId status : Option String) (limit : Nat)
  | getTask (taskId : String)
  | getPipelineRun (runId : String)
  | taskLog (taskId : String) (offset limit : Nat)
  | rawTaskLog (taskId : String)

/-- A filter that is not given lets every row pass. -/
def passes (filter : Option String) (column : String) : Bool :=
  match filter.filter (· ≠ "") with
  | none => true
  | some wanted => column = wanted

namespace TaskDB

def getTasks
    (db : TaskDB)
    (agentId status : Option String)
    (limit : Nat) : List TaskRow :=
  ((db.tasks.rows.filter fun row =>
      passes agentId row.agentId && passes status row.status.text).insertionSort
    fun first second => second.createdAt ≤ first.createdAt).take limit

end TaskDB

def readLog
    (reader : LogReader)
    (files : Files)
    (taskId : String)
    (offset limit : Nat) : TaskLogResponse :=
  match (reader.host.logFile taskId).bind files with
  | none =>
    { content := "", offset := 0, size := 0 }
  | some text =>
    let bytes := text.toUTF8
    let read := reader.decode (bytes.extract offset bytes.size)
    { content := if 0 < limit then (read.take limit).toString else read
      offset
      size := bytes.size }

section Responding

variable
    (library : TextLibrary)
    (reader : LogReader)
    (store : TaskStore)

/-- The rows of tasks that an operation reads. -/
def TaskRead.rows (db : TaskDB) : TaskRead → List TaskRow
  | .listTasks agentId status limit => db.getTasks agentId status limit
  | .getTask taskId => (db.getTask taskId).toList
  | .getPipelineRun runId =>
    match db.getPipelineRun runId with
    | none => []
    | some run => run.tasks
  | .taskLog _ _ _ => []
  | .rawTaskLog _ => []

/-- The answer of an operation that is allowed. -/
def answer : TaskRead → ReadResponse
  | .listTasks agentId status limit =>
    .tasks ((store.db.getTasks agentId status limit).map TaskRow.toResponse)
  | .getTask taskId =>
    match store.db.getTask taskId with
    | none => .notFound
    | some row => .task row.toResponse
  | .getPipelineRun runId =>
    match store.db.getPipelineRun runId with
    | none => .notFound
    | some run =>
      .pipelineRun
        { run := run.toPipelineRunRow
          tasks := run.tasks.map TaskRow.toResponse }
  | .taskLog taskId offset limit =>
    .log (readLog reader store.files taskId offset limit)
  | .rawTaskLog taskId =>
    .text (readLog reader store.files taskId 0 0).content

def refusal : TaskRead → ReadResponse
  | .listTasks _ _ _ => .tasks []
  | _ => .notFound

/-- The response of a read endpoint. -/
def respond
    (user : Option RequestUser)
    (operation : TaskRead) : ReadResponse :=
  if requestHasAgentVisibility library user then
    answer reader store operation
  else
    refusal operation

end Responding

/-! ### Bootstrap tokens -/

def bootstrapTokenKey : String :=
  "bootstrap_token"

def isToken (field : String × Json) : Bool :=
  field.1 = bootstrapTokenKey

def redactFields (fields : List (String × Json)) : List (String × Json) :=
  fields.map fun field => if isToken field then (field.1, .null) else field

def tokenFields (fields : List (String × Json)) : List Json :=
  (fields.filter isToken).map Prod.snd

namespace TaskComponent

def redacted (component : TaskComponent) : TaskComponent :=
  { component with config := redactFields component.config }

def tokens (component : TaskComponent) : List Json :=
  tokenFields component.config

end TaskComponent

namespace TaskRow

/-- A task without the raw bootstrap tokens of a deployment. -/
def redacted (row : TaskRow) : TaskRow :=
  match row.kind with
  | .deployment =>
    { row with
      payload := redactFields row.payload
      components := row.components.map TaskComponent.redacted }
  | .agent =>
    row

/-- The raw bootstrap tokens of a deployment, where they stand. -/
def tokens (row : TaskRow) : List (List Json) :=
  match row.kind with
  | .deployment =>
    tokenFields row.payload :: row.components.map TaskComponent.tokens
  | .agent =>
    []

end TaskRow

/-- Two stores differ at most in the tokens of deployment tasks. -/
structure DifferInTokens (first second : TaskStore) : Prop where
  tasks :
    first.db.tasks.rows.map TaskRow.redacted =
      second.db.tasks.rows.map TaskRow.redacted
  pipelines : first.db.pipelines = second.db.pipelines
  pipelineSteps : first.db.pipelineSteps = second.db.pipelineSteps
  pipelineRuns : first.db.pipelineRuns = second.db.pipelineRuns
  auditLog : first.db.auditLog = second.db.auditLog
  files : first.files = second.files

/--
A user below the role that may prepare a deployment reads nothing of the
tokens in which two stores differ.
-/
def TokensSecret
    (library : TextLibrary)
    (reader : LogReader)
    (user : RequestUser)
    (operation : TaskRead)
    (first second : TaskStore) : Prop :=
  DifferInTokens first second →
    (getHighestRole library user.roles).rank < Role.operator.rank →
    respond library reader first (some user) operation =
      respond library reader second (some user) operation

/-- An operation reads no deployment whose tokens differ. -/
def ReadsEqualTokens
    (operation : TaskRead)
    (first second : TaskStore) : Prop :=
  (operation.rows first.db).map TaskRow.tokens =
    (operation.rows second.db).map TaskRow.tokens

section Redaction

theorem fields_eq
    {first second : List (String × Json)}
    (same : redactFields first = redactFields second)
    (tokens : tokenFields first = tokenFields second) :
    first = second := by
  induction first generalizing second with
  | nil =>
    cases second with
    | nil =>
      rfl
    | cons field rest =>
      cases same
  | cons field rest inductionHypothesis =>
    cases second with
    | nil =>
      cases same
    | cons other others =>
      obtain ⟨key, value⟩ := field
      obtain ⟨otherKey, otherValue⟩ := other
      simp only [redactFields, List.map_cons, List.cons.injEq] at same
      obtain ⟨heads, tails⟩ := same
      have keys : key = otherKey := by
        have names := congrArg Prod.fst heads
        split at names <;> split at names <;> exact names
      subst otherKey
      by_cases token : isToken (key, value) = true
      · have otherToken : isToken (key, otherValue) = true := token
        simp only [tokenFields, token, otherToken,
          List.filter_cons_of_pos, List.map_cons,
          List.cons.injEq] at tokens
        rw [tokens.1, inductionHypothesis tails tokens.2]
      · have otherToken : ¬ isToken (key, otherValue) = true := token
        rw [if_neg token, if_neg otherToken] at heads
        have later : tokenFields rest = tokenFields others := by
          simpa only [tokenFields, List.filter_cons_of_neg token,
            List.filter_cons_of_neg otherToken] using tokens
        rw [heads, inductionHypothesis tails later]

theorem components_eq
    {first second : List TaskComponent}
    (same :
      first.map TaskComponent.redacted = second.map TaskComponent.redacted)
    (tokens :
      first.map TaskComponent.tokens = second.map TaskComponent.tokens) :
    first = second := by
  induction first generalizing second with
  | nil =>
    cases second with
    | nil =>
      rfl
    | cons component rest =>
      cases same
  | cons component rest inductionHypothesis =>
    cases second with
    | nil =>
      cases same
    | cons other others =>
      simp only [List.map_cons, List.cons.injEq] at same tokens
      obtain ⟨type, config⟩ := component
      obtain ⟨otherType, otherConfig⟩ := other
      have types := congrArg TaskComponent.type same.1
      have configs :=
        fields_eq (congrArg TaskComponent.config same.1) tokens.1
      have types : type = otherType := types
      have configs : config = otherConfig := configs
      rw [types, configs, inductionHypothesis same.2 tokens.2]

theorem TaskRow.redacted_column
    {Column : Type}
    (column : TaskRow → Column)
    (kept :
      ∀ (row : TaskRow) payload components,
        column { row with payload, components } = column row)
    (row : TaskRow) : column row.redacted = column row := by
  unfold redacted
  split
  · exact kept row _ _
  · rfl

theorem row_eq
    {first second : TaskRow}
    (same : first.redacted = second.redacted)
    (tokens : first.tokens = second.tokens) :
    first = second := by
  have kinds : first.kind = second.kind := by
    rw [← first.redacted_column TaskRow.kind fun _ _ _ => rfl,
      ← second.redacted_column TaskRow.kind fun _ _ _ => rfl, same]
  cases kind : first.kind with
  | agent =>
    rw [TaskRow.redacted, TaskRow.redacted, ← kinds, kind] at same
    exact same
  | deployment =>
    rw [TaskRow.redacted, TaskRow.redacted, ← kinds, kind] at same
    rw [TaskRow.tokens, TaskRow.tokens, ← kinds, kind] at tokens
    dsimp only at same tokens
    obtain ⟨payloadTokens, componentTokens⟩ := List.cons.inj tokens
    have payload :=
      fields_eq (congrArg TaskRow.payload same) payloadTokens
    have components :=
      components_eq (congrArg TaskRow.components same) componentTokens
    have others :
        { first with kind := TaskKind.deployment
                     payload := second.payload
                     components := second.components } =
          { second with kind := TaskKind.deployment } := by
      refine (congrArg
        (fun row : TaskRow =>
          { row with payload := second.payload
                     components := second.components }) same).trans ?_
      rfl
    rw [← kinds.symm.trans kind] at others
    calc
      first =
          { first with kind := second.kind
                       payload := second.payload
                       components := second.components } := by
        rw [← kinds, ← payload, ← components]
      _ = second := others

theorem toResponse_eq_iff
    {first second : TaskRow}
    (same : first.redacted = second.redacted) :
    first.toResponse = second.toResponse ↔ first.tokens = second.tokens := by
  constructor
  · intro responses
    have kinds : first.kind = second.kind := by
      rw [← first.redacted_column TaskRow.kind fun _ _ _ => rfl,
        ← second.redacted_column TaskRow.kind fun _ _ _ => rfl, same]
    have payload : first.payload = second.payload :=
      congrArg TaskResponse.payload responses
    have components : first.components = second.components :=
      congrArg TaskResponse.components responses
    unfold TaskRow.tokens
    rw [kinds, payload, components]
  · intro tokens
    rw [row_eq same tokens]

theorem toResponses_eq_iff
    {first second : List TaskRow}
    (same : first.map TaskRow.redacted = second.map TaskRow.redacted) :
    first.map TaskRow.toResponse = second.map TaskRow.toResponse ↔
      first.map TaskRow.tokens = second.map TaskRow.tokens := by
  induction first generalizing second with
  | nil =>
    cases second with
    | nil =>
      simp
    | cons row rest =>
      cases same
  | cons row rest inductionHypothesis =>
    cases second with
    | nil =>
      cases same
    | cons other others =>
      obtain ⟨heads, tails⟩ := List.cons.inj same
      simp only [List.map_cons, List.cons.injEq,
        toResponse_eq_iff heads, inductionHypothesis tails]

end Redaction

/-! ### Reading stores that differ in tokens -/

section Selecting

theorem filter_redacted
    {first second : List TaskRow}
    (same : first.map TaskRow.redacted = second.map TaskRow.redacted)
    (keep : TaskRow → Bool)
    (blind : ∀ row : TaskRow, keep row.redacted = keep row) :
    (first.filter keep).map TaskRow.redacted =
      (second.filter keep).map TaskRow.redacted := by
  have commutes :
      ∀ rows : List TaskRow,
        (rows.filter keep).map TaskRow.redacted =
          (rows.map TaskRow.redacted).filter keep := by
    intro rows
    rw [List.filter_map]
    exact congrArg (List.map TaskRow.redacted)
      (List.filter_congr fun row _ => (blind row).symm)
  rw [commutes, commutes, same]

theorem insertionSort_redacted
    {first second : List TaskRow}
    (same : first.map TaskRow.redacted = second.map TaskRow.redacted)
    (order : TaskRow → TaskRow → Prop)
    [DecidableRel order]
    (blind :
      ∀ row other : TaskRow,
        order row other ↔ order row.redacted other.redacted) :
    (first.insertionSort order).map TaskRow.redacted =
      (second.insertionSort order).map TaskRow.redacted := by
  rw [List.map_insertionSort order order _ _ fun row _ other _ =>
      blind row other,
    List.map_insertionSort order order _ _ fun row _ other _ =>
      blind row other,
    same]

variable {first second : TaskDB}

section Redacted

variable
    (same :
      first.tasks.rows.map TaskRow.redacted =
        second.tasks.rows.map TaskRow.redacted)
include same

theorem getTask_redacted
    (taskId : String) :
    (first.getTask taskId).toList.map TaskRow.redacted =
      (second.getTask taskId).toList.map TaskRow.redacted := by
  have found :
      ∀ db : TaskDB,
        (db.getTask taskId).toList =
          (db.tasks.rows.filter fun row =>
            decide (row.id = taskId)).take 1 := by
    intro db
    rw [List.take_one, List.head?_filter]
    rfl
  rw [found, found, List.map_take, List.map_take,
    filter_redacted same _ fun row => by
      rw [row.redacted_column TaskRow.id fun _ _ _ => rfl]]

theorem getTasks_redacted
    (agentId status : Option String)
    (limit : Nat) :
    (first.getTasks agentId status limit).map TaskRow.redacted =
      (second.getTasks agentId status limit).map TaskRow.redacted := by
  unfold TaskDB.getTasks
  rw [List.map_take, List.map_take]
  refine congrArg (List.take limit) (insertionSort_redacted ?_ _ ?_)
  · refine filter_redacted same _ fun row => ?_
    rw [row.redacted_column TaskRow.agentId fun _ _ _ => rfl,
      row.redacted_column TaskRow.status fun _ _ _ => rfl]
  · intro row other
    rw [row.redacted_column TaskRow.createdAt fun _ _ _ => rfl,
      other.redacted_column TaskRow.createdAt fun _ _ _ => rfl]

theorem tasksOfRun_redacted
    (runId : String) :
    (first.tasksOfRun runId).map TaskRow.redacted =
      (second.tasksOfRun runId).map TaskRow.redacted := by
  unfold TaskDB.tasksOfRun
  refine insertionSort_redacted ?_ _ ?_
  · refine filter_redacted same _ fun row => ?_
    rw [row.redacted_column TaskRow.pipelineRunId fun _ _ _ => rfl]
  · intro row other
    rw [row.redacted_column TaskRow.stepIndex fun _ _ _ => rfl,
      other.redacted_column TaskRow.stepIndex fun _ _ _ => rfl]

end Redacted

end Selecting

section Answers

variable
    (library : TextLibrary)
    (reader : LogReader)
    {first second : TaskStore}

theorem answer_eq_iff
    (differ : DifferInTokens first second)
    (operation : TaskRead) :
    answer reader first operation = answer reader second operation ↔
      ReadsEqualTokens operation first second := by
  unfold ReadsEqualTokens
  cases operation with
  | listTasks agentId status limit =>
    simp only [answer, TaskRead.rows, ReadResponse.tasks.injEq]
    exact toResponses_eq_iff
      (getTasks_redacted differ.tasks agentId status limit)
  | getTask taskId =>
    have same := getTask_redacted differ.tasks taskId
    rw [TaskRead.rows, TaskRead.rows, ← toResponses_eq_iff same]
    cases found : first.db.getTask taskId <;>
      cases other : second.db.getTask taskId <;>
      simp [answer, found, other]
  | getPipelineRun runId =>
    have same := tasksOfRun_redacted differ.tasks runId
    cases found : second.db.pipelineRuns.find? runId with
    | none =>
      simp [answer, TaskRead.rows, TaskDB.getPipelineRun,
        differ.pipelineRuns, found]
    | some run =>
      simpa [answer, TaskRead.rows, TaskDB.getPipelineRun,
        differ.pipelineRuns, found] using toResponses_eq_iff same
  | taskLog | rawTaskLog =>
    simp only [answer, TaskRead.rows, differ.files]

/--
The tokens stay secret exactly from the users who may see no agents and from
the operations that read no deployment whose tokens differ.
-/
theorem tokensSecret_iff
    (differ : DifferInTokens first second)
    {user : RequestUser}
    (below : (getHighestRole library user.roles).rank < Role.operator.rank)
    (operation : TaskRead) :
    TokensSecret library reader user operation first second ↔
      requestHasAgentVisibility library (some user) = false ∨
        ReadsEqualTokens operation first second := by
  have responses :
      TokensSecret library reader user operation first second ↔
        respond library reader first (some user) operation =
          respond library reader second (some user) operation :=
    ⟨fun secret => secret differ below, fun same _ _ => same⟩
  rw [responses]
  unfold respond
  cases visible : requestHasAgentVisibility library (some user) with
  | false =>
    simp
  | true =>
    simpa using answer_eq_iff reader differ operation

end Answers

/-! ### A prepared deployment -/

/-- What is stored for a deployment with a bootstrap token. -/
def preparedSubmission (bootstrapToken : String) : PrepareSubmission where
  agentId := "agent-1"
  hostname := "host-1"
  repoRoot := "/srv/platform"
  requestedBy := "operator"
  payload :=
    [("deployment_id", .str "deployment-1"),
      ("bootstrap_token", .str bootstrapToken)]
  deployment :=
    [("deployment_id", .str "deployment-1"),
      ("bootstrap_token", .str bootstrapToken)]

/-- A store with one prepared deployment. -/
def preparedStore (bootstrapToken : String) : TaskStore where
  db :=
    (TaskDB.empty.createTask 1700000000
      (prepareTask (preparedSubmission bootstrapToken) "task-1").val).getD
        .empty
  files := fun _ => none

/-- A reader of logs in a directory. -/
def plainReader : LogReader where
  host :=
    { logsDir := "/srv/logs"
      locate := fun path => some (Paths.Flavour.posix.text path) }
  decode bytes := (String.fromUTF8? bytes).getD ""

theorem preparedStores_differInTokens (first second : String) :
    DifferInTokens (preparedStore first) (preparedStore second) where
  tasks := rfl
  pipelines := rfl
  pipelineSteps := rfl
  pipelineRuns := rfl
  auditLog := rfl
  files := rfl

/-- A viewer who lists the tasks of another agent reads no token. -/
theorem otherAgentsTasks_tokensSecret :
    TokensSecret Agents.asciiTextLibrary plainReader {}
      (.listTasks (some "agent-2") none 50)
      (preparedStore "token-1") (preparedStore "token-2") := by
  refine
    (tokensSecret_iff Agents.asciiTextLibrary plainReader
      (preparedStores_differInTokens "token-1" "token-2") ?_ _).mpr
      (.inr ?_)
  · decide
  · rfl

/-- A viewer who gets the task reads the token. -/
theorem not_tokensSecret :
    ¬ TokensSecret Agents.asciiTextLibrary plainReader {}
        (.getTask "task-1")
        (preparedStore "token-1") (preparedStore "token-2") := by
  intro secret
  have same :=
    secret (preparedStores_differInTokens "token-1" "token-2") (by decide)
  have visible :
      requestHasAgentVisibility Agents.asciiTextLibrary (some {}) = true := by
    decide
  simp only [respond, visible, if_true] at same
  have payloads :
      ("operation", Json.str "prepare") ::
          (preparedSubmission "token-1").payload =
        ("operation", Json.str "prepare") ::
          (preparedSubmission "token-2").payload :=
    congrArg TaskResponse.payload (ReadResponse.task.inj same)
  simp [preparedSubmission] at payloads

end RpaPlatform.Tasks
