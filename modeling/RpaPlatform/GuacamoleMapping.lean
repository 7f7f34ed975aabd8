import RpaPlatform.AccessPolicy

namespace RpaPlatform.Agents

open Tasks (Json)

/-!
# The Guacamole mapping of an agent

An agent's metadata holds a mapping that says which connection group and which
connection of Guacamole belong to the agent.  It is built from templates, and
provisioning fills in what Guacamole has answered.  The mapping also holds the
agent's access policy, under a key of its own.
-/

section Texts

variable (library : TextLibrary)

def cleanString : Json → String
  | .null => ""
  | .str text => strip text
  | value => strip (library.str value)

def cleanField (fields : JsonObject) (key : String) : String :=
  cleanString library (getField fields key)

def uniqueStrings (values : List Json) : List String :=
  dropRepeated library [] (values.map (cleanString library))

/-- `list(value or [])`; a number cannot be listed. -/
def listItems (value : Json) : Option (List Json) :=
  match orValue value (.arr []) with
  | .arr items => some items
  | .str text =>
    some (text.toList.map fun character => .str (String.singleton character))
  | .obj fields => some (fields.map fun field => .str field.1)
  | _ => none

def texts (values : List String) : Json :=
  .arr (values.map .str)

end Texts

/-! ### Building a mapping -/

/-- What the environment sets. -/
structure MappingTemplates where
  groupName : String := ""
  connectionName : String := ""
  connectionIdentifier : String := ""
  username : String := ""
  /-- `str.format_map`; it may raise. -/
  formatMap : String → List (String × String) → Option String :=
    fun template _ => some template

namespace MappingTemplates

def renderTemplate
    (templates : MappingTemplates)
    (template : String)
    (values : List (String × String)) : String :=
  if template = "" then
    ""
  else
    (templates.formatMap template values).getD ""

end MappingTemplates

/-- The arguments of `build_agent_guacamole_mapping`. -/
structure MappingRequest where
  agentId : String
  hostname : String
  displayName : String := ""
  targetHost : String := ""
  username : String := ""
  domain : String := ""
  groupName : String := ""
  connectionName : String := ""
  connectionIdentifier : String := ""

def buildAgentGuacamoleMapping
    (library : TextLibrary)
    (templates : MappingTemplates)
    (request : MappingRequest) : JsonObject :=
  let agentId := strip request.agentId
  let hostname := strip request.hostname
  let displayName := strip request.displayName
  let targetHost := strip request.targetHost
  let username := strip request.username
  let domain := strip request.domain
  let values :=
    [("agent_id", agentId), ("hostname", hostname),
      ("target_host", orText targetHost hostname),
      ("display_name", orText displayName (orText hostname agentId)),
      ("username", username), ("domain", domain)]
  let rendered := fun template =>
    templates.renderTemplate template values
  let groupName :=
    orText (strip request.groupName)
      (orText
        (rendered (orText (strip templates.groupName) "{display_name}"))
        (orText username agentId))
  let connectionName :=
    orText (strip request.connectionName)
      (orText
        (rendered (orText (strip templates.connectionName) "{hostname}"))
        (orText hostname agentId))
  let connectionIdentifier :=
    orText (strip request.connectionIdentifier)
      (rendered (strip templates.connectionIdentifier))
  [("version", .num 1),
    ("mapping_strategy", .str "agent_group"),
    ("group_name", .str groupName),
    ("group_identifier", .str ""),
    ("connection_name", .str connectionName),
    ("connection_identifier", .str connectionIdentifier),
    ("target_host", .str (orText targetHost hostname)),
    ("username", .str (orText username (rendered (strip templates.username)))),
    ("domain", .str domain),
    ("group_candidates",
      texts
        (uniqueStrings library [.str groupName, .str username, .str agentId])),
    ("connection_candidates",
      texts
        (uniqueStrings library
          [.str connectionIdentifier, .str connectionName,
            .str targetHost, .str hostname, .str displayName,
            .str agentId]))]

/-! ### Provisioning -/

/-- What Guacamole holds of a group or a connection after an upsert. -/
structure UpsertResult where
  identifier : String
  name : String

/-- What comes of provisioning, unless it raises. -/
inductive Provisioned where
  /-- Provisioning, or Guacamole, is disabled. -/
  | skipped
  | upserted (group connection : UpsertResult)

/-- Note the answer of an upsert; an empty name is not noted. -/
def recordResult
    (identifierKey nameKey : String)
    (result : UpsertResult)
    (mapping : JsonObject) : JsonObject :=
  let identified :=
    Dictionary.set identifierKey (.str result.identifier) mapping
  if result.name ≠ "" then
    Dictionary.set nameKey (.str result.name) identified
  else
    identified

/--
The mapping that `provision_guacamole_agent_target_with_diagnostics` returns.
Candidates that cannot be listed make it raise.
-/
def provisionedMapping
    (library : TextLibrary)
    (agentId hostname : String)
    (mapping : JsonObject) : Provisioned → Option JsonObject
  | .skipped => some mapping
  | .upserted group connection => do
      let named :=
        recordResult "connection_identifier" "connection_name" connection
          (recordResult "group_identifier" "group_name" group mapping)
      let groups ← listItems (getField named "group_candidates")
      let grouped :=
        Dictionary.set "group_candidates"
          (texts
            (uniqueStrings library
              (groups ++ [getField named "group_name", .str agentId])))
          named
      let connections ← listItems (getField grouped "connection_candidates")
      some <|
        Dictionary.set "connection_candidates"
          (texts
            (uniqueStrings library
              (connections ++
                [getField grouped "connection_identifier",
                  getField grouped "connection_name", .str hostname,
                  .str agentId])))
          grouped

/-! ### The access policy of a mapping -/

section Access

variable
    {library : TextLibrary}
    {mapping : JsonObject}

theorem lookup_access_buildAgentGuacamoleMapping
    (templates : MappingTemplates)
    (request : MappingRequest) :
    (buildAgentGuacamoleMapping library templates request).lookup
        "access" =
      none := by
  rfl

theorem lookup_recordResult
    {identifierKey nameKey key : String}
    (notIdentifier : key ≠ identifierKey)
    (notName : key ≠ nameKey)
    (result : UpsertResult) :
    (recordResult identifierKey nameKey result mapping).lookup key =
      mapping.lookup key := by
  unfold recordResult
  dsimp only
  split
  · rw [Dictionary.lookup_set_other notName,
      Dictionary.lookup_set_other notIdentifier]
  · rw [Dictionary.lookup_set_other notIdentifier]

theorem lookup_access_provisionedMapping
    {agentId hostname : String}
    {provisioned : Provisioned}
    {refreshed : JsonObject}
    (isRefreshed :
      provisionedMapping library agentId hostname mapping provisioned =
        some refreshed) :
    refreshed.lookup "access" = mapping.lookup "access" := by
  cases provisioned with
  | skipped =>
    cases isRefreshed
    rfl
  | upserted group connection =>
    simp only [provisionedMapping, Option.bind_eq_bind,
      Option.bind_eq_some_iff] at isRefreshed
    obtain ⟨groups, _, connections, _, returned⟩ := isRefreshed
    cases returned
    rw [Dictionary.lookup_set_other (by decide),
      Dictionary.lookup_set_other (by decide),
      lookup_recordResult (by decide) (by decide),
      lookup_recordResult (by decide) (by decide)]

theorem distinct_texts (values : List String) : Distinct (texts values) := by
  unfold texts
  induction values with
  | nil =>
    trivial
  | cons first rest inductionHypothesis =>
    exact ⟨trivial, inductionHypothesis⟩

theorem parsedFields_recordResult
    (parsed : ParsedFields mapping)
    (identifierKey nameKey : String)
    (result : UpsertResult) :
    ParsedFields (recordResult identifierKey nameKey result mapping) := by
  have identified :
      ParsedFields
        (Dictionary.set identifierKey (.str result.identifier) mapping) :=
    parsed.set identifierKey trivial
  unfold recordResult
  dsimp only
  split
  · exact identified.set nameKey trivial
  · exact identified

theorem parsedFields_provisionedMapping
    (parsed : ParsedFields mapping)
    {agentId hostname : String}
    {provisioned : Provisioned}
    {refreshed : JsonObject}
    (isRefreshed :
      provisionedMapping library agentId hostname mapping provisioned =
        some refreshed) :
    ParsedFields refreshed := by
  cases provisioned with
  | skipped =>
    cases isRefreshed
    exact parsed
  | upserted group connection =>
    simp only [provisionedMapping, Option.bind_eq_bind,
      Option.bind_eq_some_iff] at isRefreshed
    obtain ⟨groups, _, connections, _, returned⟩ := isRefreshed
    cases returned
    have grouped :=
      parsedFields_recordResult parsed "group_identifier" "group_name" group
    have named :=
      parsedFields_recordResult grouped "connection_identifier"
        "connection_name" connection
    exact
      (named.set "group_candidates" (distinct_texts _)).set
        "connection_candidates" (distinct_texts _)

end Access

end RpaPlatform.Agents
