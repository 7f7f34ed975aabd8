import RpaPlatform.AgentRuntime
import RpaPlatform.TaskDelivery

namespace RpaPlatform.Tasks

open Agents (truthy)
open TaskDB (getTask_createTask newTaskRow)

/-!
# The row of a task, and its message

A builder keeps the settings of a task twice: in its own fields, which become
the columns of the row, and in the execution component, which the message to
the agent is made of.  Whatever the setters are called in, both agree.
-/

/-! ### Text columns -/

/-- The library functions for the text columns of a task. -/
structure JsonTexts where
  dumps : Json → String
  loads : String → Option Json
  /-- `str` of a value that is not a text. -/
  str : Json → String

def TaskComponent.toDict (component : TaskComponent) : Json :=
  .obj [("type", .str component.type), ("config", .obj component.config)]

namespace JsonTexts

variable (texts : JsonTexts)

/-- `TaskComponent.from_dict`; it raises for what is not an object. -/
def fromDict : Json → Option TaskComponent
  | .obj raw =>
    some
      { type :=
          match (raw.lookup "type").filter truthy with
          | some (.str type) => type
          | some value => texts.str value
          | none => "generic"
        config :=
          match raw.lookup "config" with
          | some (.obj config) => config
          | _ => [] }
  | _ =>
    none

def decodeJson (raw : String) (default : Json) : Json :=
  if raw = "" then default
  else (texts.loads raw).getD default

def normalizeComponents : Json → List TaskComponent
  | .arr items => items.filterMap texts.fromDict
  | _ => []

/-- The components, as `create_task` writes them. -/
def componentsValue (components : List TaskComponent) : Json :=
  .arr (components.map TaskComponent.toDict)

/-- The library reads back what it has written for a task. -/
structure ReadsBack (task : TaskSpec) : Prop where
  nothing : texts.loads "" = none
  payload :
    texts.loads (texts.dumps (.obj task.payload)) = some (.obj task.payload)
  components :
    texts.loads (texts.dumps (componentsValue task.components)) =
      some (componentsValue task.components)

end JsonTexts

/-- A task as `get_task` returns it, with what is decoded beside the row. -/
structure StoredTask where
  row : TaskRow
  payload : Json
  components : List TaskComponent

def TaskRow.mapTaskRow (texts : JsonTexts) (row : TaskRow) : StoredTask where
  row := row
  payload := texts.decodeJson (texts.dumps (.obj row.payload)) (.obj [])
  components :=
    texts.normalizeComponents
      (texts.decodeJson
        (texts.dumps (JsonTexts.componentsValue row.components)) (.arr []))

/-- `get_task`, with the text columns decoded. -/
def TaskDB.readTask
    (texts : JsonTexts)
    (db : TaskDB)
    (taskId : String) : Option StoredTask :=
  (db.getTask taskId).map (TaskRow.mapTaskRow texts)

/-! ### Messages -/

/-- What the handler for agents sends, and to whom; it may raise. -/
def agentTaskMessage (task : TaskSpec) : Option (String × ServerEvent) :=
  if task.kind = .agent then
    task.asAgentExecution.map fun execution =>
      (task.agentId, .executeTask execution)
  else
    none

/-! ### Setters -/

/-- A call of a setter. -/
inductive SetterCall where
  | name (value : String)
  | cwd (value : String)
  | timeout (value : Int)
  | session (value : String)
  | pipeline (runId : Option String) (stepIndex : Nat)
  | env (value : Option (List (String × Json)))
  | payloadField (key : String) (value : Json)

namespace SetterCall

/-- What a call does to the builder. -/
def apply (builder : TaskBuilder) : SetterCall → TaskBuilder
  | name value => builder.withName value
  | cwd value => builder.withCwd value
  | timeout value => builder.timeout value
  | session value => builder.withSession value
  | pipeline runId stepIndex => builder.pipeline runId stepIndex
  | env value => builder.env (value.getD [])
  | payloadField key value => builder.payloadField key value

def env? : SetterCall → Option (List (String × Json))
  | env value => some (value.getD [])
  | _ => none

def lastEnv (calls : List SetterCall) : List (String × Json) :=
  ((calls.filterMap env?).getLast?).getD []

def applyAll (builder : TaskBuilder) (calls : List SetterCall) : TaskBuilder :=
  calls.foldl apply builder

end SetterCall

/-- The specification that is built after some calls. -/
def builtTask
    (agentId script taskId : String)
    (calls : List SetterCall) : TaskSpec :=
  (SetterCall.applyAll (.agent agentId script taskId) calls).build

/-! ### Components -/

theorem lookup_cons_eq
    (name other : String)
    (value : Json)
    (rest : List (String × Json)) :
    ((name, value) :: rest).lookup other =
      if other = name then some value else rest.lookup other := by
  by_cases same : other = name
  · simp [same]
  · rw [List.lookup_cons, beq_false_of_ne same, if_neg same]

theorem lookup_map_assign
    (fields : List (String × Json))
    (key other : String)
    (value : Json) :
    (fields.map fun field =>
        if field.1 = key then (key, value) else field).lookup other =
      if other = key then (fields.lookup key).map fun _ => value
      else fields.lookup other := by
  induction fields with
  | nil =>
    simp
  | cons field rest inductionHypothesis =>
    obtain ⟨name, old⟩ := field
    by_cases same : name = key
    · subst name
      by_cases asked : other = key
      · simp [asked]
      · simpa [lookup_cons_eq, asked] using inductionHypothesis
    · by_cases asked : other = key
      · subst other
        simpa [lookup_cons_eq, same, Ne.symm same] using inductionHypothesis
      · simp only [asked, if_false] at inductionHypothesis
        simp [lookup_cons_eq, same, asked, inductionHypothesis]

theorem lookup_assign
    (fields : List (String × Json))
    (key other : String)
    (value : Json) :
    (assign fields key value).lookup other =
      if other = key then some value else fields.lookup other := by
  unfold assign
  split
  · rename_i present
    simp only [List.any_eq_true, decide_eq_true_eq] at present
    obtain ⟨field, member, rfl⟩ := present
    rw [lookup_map_assign]
    cases found : fields.lookup field.1 with
    | none =>
      have isOther := List.lookup_eq_none_iff.mp found field member
      simp at isOther
    | some old =>
      rfl
  · rename_i absent
    simp only [List.any_eq_true, decide_eq_true_eq, not_exists,
      not_and] at absent
    have nothing : fields.lookup key = none :=
      List.lookup_eq_none_iff.mpr fun field member =>
        bne_iff_ne.mpr (Ne.symm (absent field member))
    rw [List.lookup_append, lookup_cons_eq]
    by_cases asked : other = key
    · simp [asked, nothing]
    · simp [asked]

namespace TaskBuilder

variable
    {builder : TaskBuilder}
    {found : TaskComponent}

theorem find?_merged
    (components : List TaskComponent)
    (merged componentType : String)
    (config : List (String × Json)) :
    (components.map fun existing =>
        if existing.type = merged then
          { existing with config := assignAll existing.config config }
        else
          existing).find? (fun component =>
            decide (component.type = componentType)) =
      (components.find? fun component =>
        decide (component.type = componentType)).map fun existing =>
          if componentType = merged then
            { existing with config := assignAll existing.config config }
          else
            existing := by
  induction components with
  | nil =>
    rfl
  | cons existing rest inductionHypothesis =>
    by_cases same : existing.type = componentType
    · by_cases isMerged : existing.type = merged
      · simp [isMerged, same ▸ isMerged]
      · simp [same, same ▸ isMerged]
    · by_cases isMerged : existing.type = merged
      · simpa [isMerged, isMerged ▸ same] using inductionHypothesis
      · simpa [isMerged, same] using inductionHypothesis

theorem getComponent_component_self
    {componentType : String}
    (present : builder.build.getComponent componentType = some found)
    (config : List (String × Json)) :
    (builder.component componentType config).build.getComponent
        componentType =
      some { found with config := assignAll found.config config } := by
  have isPresent : builder.has componentType = true := by
    rw [← getComponent_build, present]
    rfl
  simp only [build, TaskSpec.getComponent, component, isPresent,
    if_true] at present ⊢
  rw [find?_merged, present]
  simp

theorem getComponent_component_other
    {added componentType : String}
    (other : added ≠ componentType)
    (config : List (String × Json)) :
    (builder.component added config).build.getComponent componentType =
      builder.build.getComponent componentType := by
  simp only [build, TaskSpec.getComponent, component]
  split
  · rw [find?_merged]
    simp [Ne.symm other]
  · simp [List.find?_append, other]

def Typed (builder : TaskBuilder) : Prop :=
  ∀ component ∈ builder.components, component.type ≠ ""

theorem Typed.component
    (typed : builder.Typed)
    {added : String}
    (notEmpty : added ≠ "")
    (config : List (String × Json)) :
    (builder.component added config).Typed := by
  intro component member
  simp only [TaskBuilder.component] at member
  split at member
  · obtain ⟨existing, stored, rfl⟩ := List.mem_map.mp member
    have isTyped := typed existing stored
    split <;> exact isTyped
  · rcases List.mem_append.mp member with stored | isAdded
    · exact typed component stored
    · rw [List.mem_singleton.mp isAdded]
      exact notEmpty

/-! ### What the builder and its component share -/

/-- The execution component has the settings of the builder. -/
structure Mirrors
    (builder : TaskBuilder)
    (env : List (String × Json)) : Prop where
  typed : builder.Typed
  isAgent : builder.kind = .agent
  execution :
    ∃ component,
      builder.build.getComponent "execution" = some component ∧
        component.config.lookup "script" = some (.str builder.script) ∧
        component.config.lookup "cwd" = some (.str builder.cwd) ∧
        component.config.lookup "timeout_sec" = some (.num builder.timeoutSec) ∧
        component.config.lookup "session" = some (.str builder.session) ∧
        component.config.lookup "env" = some (.obj env)

theorem mirrors_agent (agentId script taskId : String) :
    (agent agentId script taskId).Mirrors [] where
  typed := by simp [Typed, agent, component, has]
  isAgent := rfl
  execution := ⟨_, rfl, rfl, rfl, rfl, rfl, rfl⟩

theorem mirror_of_has
    (present : builder.build.getComponent "execution" = some found)
    (key : String)
    (value : Json) :
    builder.mirror key value = builder.component "execution" [(key, value)] :=
  if_pos (by rw [← getComponent_build, present]; rfl)

theorem Mirrors.of_merged
    {env : List (String × Json)}
    (typed : builder.Typed)
    (isAgent : builder.kind = .agent)
    (present : builder.build.getComponent "execution" = some found)
    {key : String}
    {value : Json}
    (fields :
      let merged := assign found.config key value
      merged.lookup "script" = some (.str builder.script) ∧
        merged.lookup "cwd" = some (.str builder.cwd) ∧
        merged.lookup "timeout_sec" = some (.num builder.timeoutSec) ∧
        merged.lookup "session" = some (.str builder.session) ∧
        merged.lookup "env" = some (.obj env)) :
    (builder.component "execution" [(key, value)]).Mirrors env :=
  ⟨typed.component (by decide) _, isAgent, _,
    getComponent_component_self present _, fields⟩

theorem Mirrors.apply
    {env : List (String × Json)}
    (mirrors : builder.Mirrors env)
    (call : SetterCall) :
    (call.apply builder).Mirrors (call.env?.getD env) := by
  obtain ⟨typed, isAgent, component, present, fields⟩ := mirrors
  cases call with
  | name | payloadField =>
    exact ⟨typed, isAgent, component, present, fields⟩
  | cwd value =>
    rw [show (SetterCall.cwd value).apply builder = _ from
      @mirror_of_has { builder with cwd := value } _ present _ _]
    refine
      @of_merged { builder with cwd := value } _ _ typed isAgent present _ _ ?_
    simp [lookup_assign, fields, SetterCall.env?]
  | timeout value =>
    rw [show (SetterCall.timeout value).apply builder = _ from
      @mirror_of_has { builder with timeoutSec := value } _ present _ _]
    refine
      @of_merged { builder with timeoutSec := value } _ _ typed isAgent present _ _
        ?_
    simp [lookup_assign, fields, SetterCall.env?]
  | session value =>
    rw [show (SetterCall.session value).apply builder = _ from
      @mirror_of_has { builder with session := value } _ present _ _]
    refine
      @of_merged { builder with session := value } _ _ typed isAgent present _ _
        ?_
    simp [lookup_assign, fields, SetterCall.env?]
  | env value =>
    refine .of_merged typed isAgent present ?_
    simp [lookup_assign, fields, SetterCall.env?]
  | pipeline runId stepIndex =>
    simp only [SetterCall.apply, pipeline, SetterCall.env?, Option.getD_none]
    split
    · exact ⟨typed, isAgent, component, present, fields⟩
    · split
      · exact ⟨typed, isAgent, component, present, fields⟩
      · exact
          ⟨Typed.component typed (by decide) _, isAgent, component,
            (getComponent_component_other (by decide) _).trans present,
            fields⟩

theorem Mirrors.applyAll
    {env : List (String × Json)}
    (mirrors : builder.Mirrors env)
    (calls : List SetterCall) :
    (SetterCall.applyAll builder calls).Mirrors
      (((calls.filterMap SetterCall.env?).getLast?).getD env) := by
  induction calls generalizing builder env with
  | nil =>
    exact mirrors
  | cons call rest inductionHypothesis =>
    have later := inductionHypothesis (mirrors.apply call)
    cases isEnv : call.env? with
    | none =>
      simpa [isEnv, SetterCall.applyAll] using later
    | some value =>
      simpa [isEnv, SetterCall.applyAll, List.getLast?_cons] using later

theorem fixed_applyAll
    (builder : TaskBuilder)
    (calls : List SetterCall) :
    let after := SetterCall.applyAll builder calls
    after.taskId = builder.taskId ∧
      after.agentId = builder.agentId ∧
      after.script = builder.script := by
  induction calls generalizing builder with
  | nil =>
    exact ⟨rfl, rfl, rfl⟩
  | cons call rest inductionHypothesis =>
    have kept : (call.apply builder).taskId = builder.taskId ∧
        (call.apply builder).agentId = builder.agentId ∧
        (call.apply builder).script = builder.script := by
      cases call with
      | pipeline runId stepIndex =>
        simp only [SetterCall.apply, pipeline]
        split
        · exact ⟨rfl, rfl, rfl⟩
        · split <;> exact ⟨rfl, rfl, rfl⟩
      | cwd value | timeout value | session value =>
        simp only [SetterCall.apply, withCwd, timeout, withSession, mirror]
        split <;> exact ⟨rfl, rfl, rfl⟩
      | _ =>
        exact ⟨rfl, rfl, rfl⟩
    have later := inductionHypothesis (call.apply builder)
    rwa [kept.1, kept.2.1, kept.2.2] at later

end TaskBuilder

/-! ### Rows and messages -/

theorem normalizeComponents_componentsValue
    (texts : JsonTexts)
    {components : List TaskComponent}
    (typed : ∀ component ∈ components, component.type ≠ "") :
    texts.normalizeComponents (JsonTexts.componentsValue components) =
      components := by
  induction components with
  | nil =>
    rfl
  | cons component rest inductionHypothesis =>
    have isTyped := typed component List.mem_cons_self
    have others :=
      inductionHypothesis fun other member =>
        typed other (List.mem_cons_of_mem _ member)
    simp only [JsonTexts.normalizeComponents, JsonTexts.componentsValue,
      List.filterMap_map] at others ⊢
    have isRead :
        (texts.fromDict ∘ TaskComponent.toDict) component = some component := by
      simp [TaskComponent.toDict, JsonTexts.fromDict, List.lookup_cons,
        Option.filter, truthy, isTyped]
    rw [List.filterMap_cons_some isRead, others]

theorem decodeJson_dumps
    {texts : JsonTexts}
    (nothing : texts.loads "" = none)
    {value : Json}
    (readsBack : texts.loads (texts.dumps value) = some value)
    (default : Json) :
    texts.decodeJson (texts.dumps value) default = value := by
  have notEmpty : texts.dumps value ≠ "" := by
    intro isEmpty
    rw [isEmpty, nothing] at readsBack
    cases readsBack
  rw [JsonTexts.decodeJson, if_neg notEmpty, readsBack, Option.getD_some]

theorem mapTaskRow_newTaskRow
    {texts : JsonTexts}
    {task : TaskSpec}
    (readsBack : texts.ReadsBack task)
    (typed : ∀ component ∈ task.components, component.type ≠ "")
    (now : Int) :
    (newTaskRow now task).mapTaskRow texts =
      { row := newTaskRow now task
        payload := .obj task.payload
        components := task.components } := by
  have payload :=
    decodeJson_dumps readsBack.nothing readsBack.payload (.obj [])
  have components :=
    decodeJson_dumps readsBack.nothing readsBack.components (.arr [])
  have sameComponents :=
    normalizeComponents_componentsValue texts typed
  simp only [TaskRow.mapTaskRow, newTaskRow, payload, components,
    sameComponents]

theorem asAgentExecution_eq_some
    {task : TaskSpec}
    {component : TaskComponent}
    (present : task.getComponent "execution" = some component)
    {env : List (String × Json)}
    (fields :
      component.config.lookup "script" = some (.str task.script) ∧
        component.config.lookup "cwd" = some (.str task.cwd) ∧
        component.config.lookup "timeout_sec" = some (.num task.timeoutSec) ∧
        component.config.lookup "session" = some (.str task.session) ∧
        component.config.lookup "env" = some (.obj env)) :
    task.asAgentExecution =
      some
        { taskId := task.id
          script := task.script
          cwd := task.cwd
          timeoutSec := task.timeoutSec
          session := task.session
          env } := by
  simp [TaskSpec.asAgentExecution, present, textOr, numberOr, fields]

/-- What a stored task is read as, and what its agent is told. -/
def StoredAndSent
    (texts : JsonTexts)
    (db : TaskDB)
    (now : Int)
    (agentId taskId : String)
    (calls : List SetterCall)
    (task : TaskSpec) : Prop :=
  db.readTask texts taskId =
      some
        { row := newTaskRow now task
          payload := .obj task.payload
          components := task.components } ∧
    agentTaskMessage task =
      some
        (agentId,
          .executeTask
            { taskId
              script := (newTaskRow now task).script
              cwd := (newTaskRow now task).cwd
              timeoutSec := (newTaskRow now task).timeoutSec
              session := (newTaskRow now task).session
              env := SetterCall.lastEnv calls })

/-- Some calls, and what `json` makes of the task that is built. -/
def exampleCalls : List SetterCall :=
  [.cwd "C:", .env (some [("A", .str "1")]), .timeout 0, .env none]

/-- `json`, as far as the example is concerned. -/
def exampleTexts : JsonTexts where
  dumps
    | .obj [] => "\x7b\x7d"
    | _ =>
      "[\x7b\"type\": \"execution\", \"config\": \x7b\"script\": \"dir\", " ++
        "\"cwd\": \"C:\", \"timeout_sec\": 0, \"session\": \"\", " ++
        "\"env\": \x7b\x7d\x7d\x7d]"
  loads text :=
    if text = "" then none
    else if text = "\x7b\x7d" then some (.obj [])
    else
      some (JsonTexts.componentsValue
          [{ type := "execution"
             config :=
               [("script", .str "dir"), ("cwd", .str "C:"),
                 ("timeout_sec", .num 0), ("session", .str ""),
                 ("env", .obj [])] }])
  str _ := ""

end RpaPlatform.Tasks
