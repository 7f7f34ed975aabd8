import RpaPlatform.AgentLifecycle
import RpaPlatform.GuacamoleConnection

namespace RpaPlatform.Agents

open Tasks (Json)

/-!
# The restriction of file transfers

Connections are written to Guacamole when an agent is deployed, when its entry
in the registry is changed, when a session reconciles the agent's connection,
for each user who is logged on, and for recorded sessions.  Only the change of
the registry hands the mapping with the access policy on; the other paths
build another mapping from it.
-/

/-! ### What is sent -/

/-- What Guacamole answers while a connection is provisioned. -/
structure GuacamoleAnswers where
  group : UpsertResult := { identifier := "", name := "" }
  /-- The name of the connection that a candidate stands for. -/
  resolvedName : String := ""
  /-- The connection that there is; there is none under an empty text. -/
  connectionIdentifier : String := ""
  existing : ExistingConnection := {}
  timestamp : String := "0"

def sameDict (first second : List (String × String)) : Bool :=
  first.all (fun entry => second.lookup entry.1 = some entry.2) &&
    second.all (fun entry => first.lookup entry.1 = some entry.2)

section Sending

variable
    (library : TextLibrary)
    (config : ProvisioningConfig)

/-- `_connection_payload_matches`. -/
def payloadMatches
    (payload : ConnectionPayload)
    (existing : ExistingConnection) : Bool :=
  let field := cleanField library existing.fields
  decide (field "name" = strip payload.name) &&
    decide (field "protocol" = strip payload.protocol) &&
    decide (field "parentIdentifier" = strip payload.parentIdentifier) &&
    sameDict
      (normalizeStringDict library
        (mappingFields (getField existing.fields "attributes")))
      (normalizeStringDict library (textFields payload.attributes)) &&
    sameDict
      (normalizeStringDict library (textFields existing.parameters))
      (normalizeStringDict library (textFields payload.parameters))

/--
`_upsert_guacamole_connection`: what is sent, unless the connection is like
that already.
-/
def upsertedPayload?
    (agentId : String)
    (mapping : JsonObject)
    (hostname : String)
    (secrets : TemplateSecrets)
    (recordingOwner : Option RecordingOwner)
    (answers : GuacamoleAnswers) : Option ConnectionPayload :=
  let found := decide (answers.connectionIdentifier ≠ "")
  let existing := if found then answers.existing else {}
  let connectionName :=
    orText (cleanField library existing.fields "name")
      (orText answers.resolvedName
        (orText (cleanField library mapping "connection_name")
          (strip hostname)))
  let payload :=
    buildConnectionPayload library config agentId
      (Dictionary.set "connection_identifier"
        (.str answers.connectionIdentifier)
        (Dictionary.set "connection_name" (.str connectionName) mapping))
      hostname secrets existing recordingOwner answers.timestamp
  if found && payloadMatches library payload existing then
    none
  else
    some payload

/-- `provision_guacamole_agent_target_with_diagnostics`: what it sends. -/
def provisionedPayload?
    (agentId hostname : String)
    (mapping : JsonObject)
    (secrets : TemplateSecrets)
    (answers : GuacamoleAnswers) : Option ConnectionPayload :=
  upsertedPayload? library config agentId
    (recordResult "group_identifier" "group_name" answers.group mapping)
    hostname secrets none answers

end Sending

/-! ### The mappings of a session -/

/-- What is known of an agent when a session is opened. -/
structure AgentView where
  metrics : JsonObject := []
  /-- The user whose session is preferred. -/
  preferredUsername : String := ""

/-- A user who is logged on. -/
structure SessionEntry where
  username : String
  sessionName : String := ""
  sessionId : String := ""

/-- The connection that was made for the user a session asks for. -/
structure MatchedEntry where
  username : String
  groupIdentifier : String := ""
  groupName : String := ""
  connectionIdentifier : String := ""
  connectionName : String := ""

section Mappings

variable
    (library : TextLibrary)
    (config : ProvisioningConfig)
    (agentId : String)
    (record : AgentRecord)

def metricsHostname (view : AgentView) : String :=
  cleanField library view.metrics "hostname"

/-- `_extract_guacamole_mapping`; stored candidates may not be a list. -/
def extractGuacamoleMapping (view : AgentView) : Option JsonObject := do
  let stored := objectAt record.metadata "guacamole"
  let field := cleanField library stored
  let hostname :=
    orText (metricsHostname library view)
      (orText (strip record.hostname) agentId)
  let displayName := orText (strip record.displayName) hostname
  let targetHost := orText (field "target_host") hostname
  let mapping :=
    buildAgentGuacamoleMapping library config.templates
      { agentId, hostname, displayName, targetHost
        username := orText (field "username") view.preferredUsername
        groupName :=
          orText agentId
            (orText (field "group_name") (orText displayName hostname))
        domain := field "domain"
        connectionIdentifier := field "connection_identifier" }
  let identified :=
    if field "group_identifier" ≠ "" then
      Dictionary.set "group_identifier" (.str (field "group_identifier"))
        mapping
    else
      mapping
  let builtGroups ← listItems (getField identified "group_candidates")
  let storedGroups ← listItems (getField stored "group_candidates")
  let grouped :=
    Dictionary.set "group_candidates"
      (texts (uniqueStrings library (builtGroups ++ storedGroups)))
      identified
  let storedConnections ← listItems (getField stored "connection_candidates")
  let builtConnections ← listItems (getField grouped "connection_candidates")
  let connected :=
    Dictionary.set "connection_candidates"
      (texts (uniqueStrings library (storedConnections ++ builtConnections)))
      grouped
  some
    (Dictionary.set "source"
      (.str (if stored.isEmpty then "derived" else "metadata")) connected)

/-- The text before and after the first separator. -/
def splitOnce (separator : Char) (text : String) :
    Option (String × String) :=
  let first := text.toList.takeWhile (· ≠ separator)
  match text.toList.drop first.length with
  | [] =>
    none
  | _ :: later =>
    some (String.ofList first, String.ofList later)

def displayVmUsername
    (value : String)
    (localIdentifiers : List String) : String :=
  let clean := strip value
  let localPrefixes :=
    ((localIdentifiers.map strip).filter (· ≠ "")).map fun candidate =>
      library.casefold (replaceChar '/' '\\' candidate)
  match splitOnce '\\' clean with
  | none =>
    clean
  | some (leading, following) =>
    if library.casefold leading ∈ localPrefixes then
      following
    else
      clean

def buildVmUserConnectionMapping
    (hostname displayName : String)
    (base : JsonObject)
    (entry : SessionEntry) : Option JsonObject := do
  let username := strip entry.username
  let connectionUsername :=
    displayVmUsername library username [hostname, displayName, agentId]
  let sessionName := strip entry.sessionName
  let sessionId := strip entry.sessionId
  let connectionName :=
    orText connectionUsername
      (orText sessionName
        (orText displayName (orText hostname agentId) ++ " session"))
  let field := cleanField library base
  let mapping :=
    buildAgentGuacamoleMapping library config.templates
      { agentId, hostname, displayName, username, connectionName
        targetHost := orText (field "target_host") hostname
        groupName := field "group_name"
        domain := field "domain" }
  let identified :=
    if field "group_identifier" ≠ "" then
      Dictionary.set "group_identifier" (.str (field "group_identifier"))
        mapping
    else
      mapping
  let groups ← listItems (getField base "group_candidates")
  let grouped :=
    Dictionary.set "group_candidates"
      (texts
        (uniqueStrings library
          (groups ++
            [getField identified "group_name", .str displayName,
              .str hostname, .str agentId])))
      identified
  let qualified := fun suffix : String =>
    if username ≠ "" ∧ suffix ≠ "" then username ++ ":" ++ suffix else ""
  some
    (Dictionary.set "connection_candidates"
      (texts
        (uniqueStrings library
          [.str connectionName, .str connectionUsername, .str username,
            .str sessionName, .str (qualified sessionName),
            .str (qualified sessionId)]))
      grouped)

/-- `_build_recorded_connection_name`. -/
def recordedConnectionName (connectionName : String) : String :=
  let clean := strip connectionName
  if clean = "" then
    "Recorded Session"
  else if clean.endsWith " (Recorded)" then
    clean
  else
    clean ++ " (Recorded)"

def buildRecordedConnectionMapping (mapping : JsonObject) : JsonObject :=
  let name :=
    recordedConnectionName (cleanField library mapping "connection_name")
  Dictionary.update mapping
    [("connection_identifier", .str ""), ("connection_name", .str name),
      ("connection_candidates", texts (uniqueStrings library [.str name]))]

/-- Note what Guacamole answers of a group, where it answers anything. -/
def noteGroup (group : UpsertResult) (mapping : JsonObject) : JsonObject :=
  let given := fun key text =>
    if text ≠ "" then [(key, Json.str text)] else ([] : JsonObject)
  Dictionary.update mapping
    (given "group_identifier" group.identifier ++ given "group_name" group.name)

/-- The mapping of a session on the connection of one user. -/
def matchMapping
    (entry : MatchedEntry)
    (mapping : JsonObject) : JsonObject :=
  let chosen := fun key text =>
    (key, Json.str (orText (strip text) (cleanField library mapping key)))
  Dictionary.update mapping
    [chosen "group_identifier" entry.groupIdentifier,
      chosen "group_name" entry.groupName,
      chosen "connection_identifier" entry.connectionIdentifier,
      chosen "connection_name" entry.connectionName,
      chosen "username" entry.username]

/-- How the mapping of a session has come about. -/
inductive SessionTarget where
  /-- The agent's connection; reconciling it may fail. -/
  | reconciled (provisioned : Option Provisioned)
  /-- The connection of a user, if one was found. -/
  | requested (entry : Option MatchedEntry)

/-- The mapping of a session, given the extracted one. -/
def sessionMapping
    (view : AgentView)
    (extracted : JsonObject) : SessionTarget → JsonObject
  | .reconciled none => extracted
  | .reconciled (some provisioned) =>
    (provisionedMapping library agentId (metricsHostname library view)
        extracted provisioned).getD extracted
  | .requested none => extracted
  | .requested (some entry) => matchMapping library entry extracted

end Mappings

/-! ### The paths -/

/-- A call that provisions a connection of an agent. -/
inductive ProvisioningCall where
  | deployment
      (request : MappingRequest)
      (secrets : TemplateSecrets)
      (answers : GuacamoleAnswers)
  | registryPatch (answers : GuacamoleAnswers)
  | reconciliation (view : AgentView) (answers : GuacamoleAnswers)
  | userConnection
      (view : AgentView)
      (entry : SessionEntry)
      (answers : GuacamoleAnswers)
  | recordedConnection
      (view : AgentView)
      (target : SessionTarget)
      (owner : RecordingOwner)
      (answers : GuacamoleAnswers)

section Paths

variable
    (library : TextLibrary)
    (config : ProvisioningConfig)
    (agentId : String)
    (record : AgentRecord)

/-- The host that a change of the registry provisions. -/
def patchedHostname (mapping : JsonObject) : String :=
  orText
    (strip
      (orText record.hostname
        (orText (textOr library (getField mapping "target_host")) agentId)))
    agentId

/-- The connection of a user who is logged on. -/
def userPayload?
    (view : AgentView)
    (entry : SessionEntry)
    (answers : GuacamoleAnswers) : Option ConnectionPayload := do
  let extracted ← extractGuacamoleMapping library config agentId record view
  let hostname :=
    orText (metricsHostname library view)
      (orText (cleanField library extracted "target_host") agentId)
  let displayName := orText (strip record.displayName) hostname
  let groupName :=
    orText agentId
      (orText (cleanField library extracted "group_name")
        (orText displayName hostname))
  let base :=
    noteGroup answers.group
      (Dictionary.set "group_name" (.str groupName) extracted)
  let mapping ←
    buildVmUserConnectionMapping library config agentId hostname displayName
      base entry
  upsertedPayload? library config agentId mapping hostname {} none answers

/-- The connection of a recorded session. -/
def recordedPayload?
    (view : AgentView)
    (target : SessionTarget)
    (owner : RecordingOwner)
    (answers : GuacamoleAnswers) : Option ConnectionPayload := do
  let extracted ← extractGuacamoleMapping library config agentId record view
  let mapping := sessionMapping library agentId view extracted target
  let hostname :=
    orText (cleanField library extracted "target_host")
      (orText (metricsHostname library view)
        (orText (cleanField library mapping "target_host") agentId))
  let groupIdentifier :=
    orText answers.group.identifier
      (cleanField library mapping "group_identifier")
  let recorded :=
    buildRecordedConnectionMapping library (noteGroup answers.group mapping)
  let grouped :=
    if groupIdentifier ≠ "" then
      Dictionary.set "group_identifier" (.str groupIdentifier) recorded
    else
      recorded
  upsertedPayload? library config agentId grouped hostname {} (some owner)
    answers

/-- The payload that a call writes to Guacamole. -/
def ProvisioningCall.payload? :
    ProvisioningCall → Option ConnectionPayload
  | deployment request secrets answers =>
    provisionedPayload? library config agentId request.hostname
      (buildAgentGuacamoleMapping library config.templates
        { request with agentId })
      secrets answers
  | registryPatch answers =>
    let mapping := objectAt record.metadata "guacamole"
    if mapping.isEmpty then
      none
    else
      provisionedPayload? library config agentId
        (patchedHostname library agentId record mapping) mapping {}
        answers
  | reconciliation view answers =>
    (extractGuacamoleMapping library config agentId record view).bind
      fun mapping =>
        let hostname := metricsHostname library view
        if hostname = "" then
          none
        else
          provisionedPayload? library config agentId hostname mapping {} answers
  | userConnection view entry answers =>
    userPayload? library config agentId record view entry answers
  | recordedConnection view target owner answers =>
    recordedPayload? library config agentId record view target owner answers

/-- A call, and the payload that it has written. -/
structure ConnectionWrite where
  call : ProvisioningCall
  payload : ConnectionPayload
  written : call.payload? library config agentId record = some payload

end Paths

/-! ### The claim and the condition -/

/-- The transfers that a policy forbids are disabled in a payload. -/
def Restricts (policy : AccessPolicy) (payload : ConnectionPayload) : Prop :=
  ((policy .upload).enabled = false →
      payload.parameters.lookup "disable-upload" = some "true") ∧
    ((policy .download).enabled = false →
      payload.parameters.lookup "disable-download" = some "true")

/-- Whatever is written for an agent restricts transfers as its policy does. -/
def TransfersRestricted
    (library : TextLibrary)
    (config : ProvisioningConfig)
    (agentId : String)
    (record : AgentRecord)
    (writes : List (ConnectionWrite library config agentId record)) :
    Prop :=
  ∀ write ∈ writes,
    Restricts (extractAccessPolicy library record.metadata) write.payload

/-- The policy of the agent forbids a transfer. -/
def forbids
    (library : TextLibrary)
    (metadata : JsonObject)
    (permission : Permission) : Bool :=
  !(extractAccessPolicy library metadata permission).enabled

/-- The policy in the stored mapping alone forbids a transfer. -/
def mappingForbids
    (library : TextLibrary)
    (metadata : JsonObject)
    (permission : Permission) : Bool :=
  !(mappingPolicy library (objectAt metadata "guacamole") permission).enabled

/--
The condition under which a call restricts transfers.  The policy forbids none;
or the call comes from a change of the registry, and what the policy forbids
is forbidden by the policy in the stored mapping alone, without the transfers
that older records allow beside it.
-/
def ProvisioningCall.KeepsRestrictions
    (library : TextLibrary)
    (metadata : JsonObject) : ProvisioningCall → Prop
  | registryPatch _ =>
    (forbids library metadata .upload = true →
        mappingForbids library metadata .upload = true) ∧
      (forbids library metadata .download = true →
        mappingForbids library metadata .download = true)
  | _ =>
    forbids library metadata .upload = false ∧
      forbids library metadata .download = false

/-! ### What a payload says of transfers -/

section Parameters

theorem lookup_clearRecording
    {key : String}
    (other : key ∉ recordingParameterKeys)
    (parameters : List (String × String)) :
    (clearRecording parameters).lookup key = parameters.lookup key := by
  unfold clearRecording
  generalize recordingParameterKeys = keys at other ⊢
  induction keys generalizing parameters with
  | nil =>
    rfl
  | cons first rest inductionHypothesis =>
    rw [List.mem_cons, not_or] at other
    exact
      (inductionHypothesis _ other.2).trans
        (Dictionary.lookup_erase_other other.1 parameters)

theorem lookup_disableUpload_setTransfers
    (upload download : Bool)
    (parameters : List (String × String)) :
    (setTransfers upload download parameters).lookup "disable-upload" =
      some (flagText !upload) := by
  unfold setTransfers
  split
  · simp [Dictionary.update, Dictionary.lookup_set_other]
  · rename_i neither
    have disabled : upload = false := by
      simp_all
    simp [Dictionary.update, Dictionary.lookup_set_other,
      Dictionary.lookup_erase_other, flagText, disabled]

theorem lookup_disableDownload_setTransfers
    (upload download : Bool)
    (parameters : List (String × String)) :
    (setTransfers upload download parameters).lookup "disable-download" =
      some (flagText !download) := by
  unfold setTransfers
  split
  · simp [Dictionary.update]
  · rename_i neither
    have disabled : download = false := by
      simp_all
    simp [Dictionary.update, Dictionary.lookup_erase_other, flagText, disabled]

theorem mem_recordingParameterKeys
    {recording : RecordingConfig}
    {path name key : String}
    (member : key ∈ (recordingParameters recording path name).map Prod.fst) :
    key ∈ recordingParameterKeys := by
  unfold recordingParameters at member
  unfold recordingParameterKeys
  split at member <;> simp at member ⊢ <;> tauto

end Parameters

/-- A payload sets the transfers as a policy enables them. -/
def SetsTransfers
    (policy : AccessPolicy)
    (payload : ConnectionPayload) : Prop :=
  payload.parameters.lookup "disable-upload" =
      some (flagText !(policy .upload).enabled) ∧
    payload.parameters.lookup "disable-download" =
      some (flagText !(policy .download).enabled)

theorem restricts_iff
    {policy written : AccessPolicy}
    {payload : ConnectionPayload}
    (sets : SetsTransfers written payload) :
    Restricts policy payload ↔
      ((policy .upload).enabled = false →
          (written .upload).enabled = false) ∧
        ((policy .download).enabled = false →
          (written .download).enabled = false) := by
  have disables :
      ∀ enabled : Bool,
        some (flagText !enabled) = some "true" ↔ enabled = false := by
    decide
  unfold Restricts
  rw [sets.1, sets.2, disables, disables]

section Payloads

variable
    {library : TextLibrary}
    {config : ProvisioningConfig}
    {agentId hostname : String}
    {mapping : JsonObject}

theorem lookup_setRecording
    {key : String}
    (other : key ∉ recordingParameterKeys)
    (values : List (String × String))
    (owner : RecordingOwner)
    (parameters : List (String × String)) :
    (setRecording library config values owner parameters).lookup key =
      parameters.lookup key := by
  unfold setRecording
  dsimp only
  split
  · apply Dictionary.lookup_update_other
    exact fun member => other (mem_recordingParameterKeys member)
  · rfl

theorem setsTransfers_buildConnectionPayload
    (secrets : TemplateSecrets)
    (existing : ExistingConnection)
    (recordingOwner : Option RecordingOwner)
    (timestamp : String) :
    SetsTransfers (mappingPolicy library mapping)
      (buildConnectionPayload library config agentId mapping hostname
        secrets existing recordingOwner timestamp) := by
  have kept :
      ∀ key ∉ recordingParameterKeys,
        (buildConnectionPayload library config agentId mapping hostname
            secrets existing recordingOwner timestamp).parameters.lookup
            key =
          (setTransfers (mappingPolicy library mapping .upload).enabled
            (mappingPolicy library mapping .download).enabled
            (connectionParameters library config mapping hostname
              (buildTemplateValues library config agentId mapping hostname
                secrets timestamp)
              existing)).lookup key := by
    intro key other
    unfold buildConnectionPayload
    dsimp only
    split
    · exact lookup_clearRecording other _
    · split
      · exact
          (lookup_setRecording other _ _ _).trans
            (lookup_clearRecording other _)
      · exact lookup_clearRecording other _
  constructor
  · rw [kept "disable-upload" (by decide)]
    exact lookup_disableUpload_setTransfers _ _ _
  · rw [kept "disable-download" (by decide)]
    exact lookup_disableDownload_setTransfers _ _ _

theorem mappingPolicy_congr
    {first second : JsonObject}
    (same : first.lookup "access" = second.lookup "access") :
    mappingPolicy library first = mappingPolicy library second := by
  unfold mappingPolicy getField fieldOr
  rw [same]

variable {payload : ConnectionPayload}

theorem setsTransfers_upsertedPayload
    {secrets : TemplateSecrets}
    {recordingOwner : Option RecordingOwner}
    {answers : GuacamoleAnswers}
    (sent :
      upsertedPayload? library config agentId mapping hostname secrets
          recordingOwner answers =
        some payload) :
    SetsTransfers (mappingPolicy library mapping) payload := by
  unfold upsertedPayload? at sent
  dsimp only at sent
  generalize
    (if decide (answers.connectionIdentifier ≠ "") then answers.existing
      else {}) =
      existing at sent
  split at sent
  · cases sent
  · cases sent
    have unchanged :
        ∀ identifier name : Json,
          (Dictionary.set "connection_identifier" identifier
              (Dictionary.set "connection_name" name mapping)).lookup
              "access" =
            mapping.lookup "access" := by
      intro identifier name
      rw [Dictionary.lookup_set_other (by decide),
        Dictionary.lookup_set_other (by decide)]
    rw [← mappingPolicy_congr (unchanged _ _)]
    exact setsTransfers_buildConnectionPayload _ _ _ _

theorem setsTransfers_provisionedPayload
    {secrets : TemplateSecrets}
    {answers : GuacamoleAnswers}
    (sent :
      provisionedPayload? library config agentId hostname mapping secrets
          answers =
        some payload) :
    SetsTransfers (mappingPolicy library mapping) payload := by
  have recorded :
      (recordResult "group_identifier" "group_name" answers.group
          mapping).lookup "access" =
        mapping.lookup "access" :=
    lookup_recordResult (by decide) (by decide) answers.group
  rw [← mappingPolicy_congr recorded]
  exact setsTransfers_upsertedPayload sent

theorem setsTransfers_withoutPolicy
    (absent : mapping.lookup "access" = none)
    (sets : SetsTransfers (mappingPolicy library mapping) payload) :
    SetsTransfers (mappingPolicy library []) payload := by
  have same : mappingPolicy library mapping = mappingPolicy library [] :=
    mappingPolicy_congr absent
  rwa [same] at sets

/-! ### The mappings of the paths -/

theorem lookup_access_extractGuacamoleMapping
    {record : AgentRecord}
    {view : AgentView}
    (extracted :
      extractGuacamoleMapping library config agentId record view =
        some mapping) :
    mapping.lookup "access" = none := by
  simp only [extractGuacamoleMapping, Option.bind_eq_bind,
    Option.bind_eq_some_iff] at extracted
  obtain ⟨_, _, _, _, _, _, _, _, returned⟩ := extracted
  cases returned
  rw [Dictionary.lookup_set_other (by decide),
    Dictionary.lookup_set_other (by decide),
    Dictionary.lookup_set_other (by decide)]
  split
  · exact Dictionary.lookup_set_other (by decide) _ _
  · rfl

theorem lookup_access_buildVmUserConnectionMapping
    {displayName : String}
    {base : JsonObject}
    {entry : SessionEntry}
    (built :
      buildVmUserConnectionMapping library config agentId hostname
          displayName base entry =
        some mapping) :
    mapping.lookup "access" = none := by
  simp only [buildVmUserConnectionMapping, Option.bind_eq_bind,
    Option.bind_eq_some_iff] at built
  obtain ⟨_, _, returned⟩ := built
  cases returned
  rw [Dictionary.lookup_set_other (by decide),
    Dictionary.lookup_set_other (by decide)]
  split
  · exact Dictionary.lookup_set_other (by decide) _ _
  · rfl

theorem lookup_access_noteGroup
    (group : UpsertResult)
    (mapping : JsonObject) :
    (noteGroup group mapping).lookup "access" = mapping.lookup "access" := by
  apply Dictionary.lookup_update_other
  dsimp only
  split <;> split <;> simp

theorem lookup_access_sessionMapping
    (view : AgentView)
    (extracted : JsonObject)
    (target : SessionTarget) :
    (sessionMapping library agentId view extracted target).lookup
        "access" =
      extracted.lookup "access" := by
  cases target with
  | reconciled provisioned =>
    cases provisioned with
    | none =>
      rfl
    | some provisioned =>
      rw [sessionMapping]
      cases isRefreshed :
          provisionedMapping library agentId
            (metricsHostname library view) extracted provisioned with
      | none =>
        rfl
      | some refreshed =>
        exact lookup_access_provisionedMapping isRefreshed
  | requested entry =>
    cases entry with
    | none =>
      rfl
    | some entry =>
      exact Dictionary.lookup_update_other (by simp) _

theorem lookup_access_buildRecordedConnectionMapping
    (mapping : JsonObject) :
    (buildRecordedConnectionMapping library mapping).lookup "access" =
      mapping.lookup "access" :=
  Dictionary.lookup_update_other (by simp) _

end Payloads

/-! ### Every path -/

section Paths

variable
    {library : TextLibrary}
    {config : ProvisioningConfig}
    {agentId : String}
    {record : AgentRecord}
    {payload : ConnectionPayload}

theorem setsTransfers_userPayload
    {view : AgentView}
    {entry : SessionEntry}
    {answers : GuacamoleAnswers}
    (written :
      userPayload? library config agentId record view entry answers =
        some payload) :
    SetsTransfers (mappingPolicy library []) payload := by
  simp only [userPayload?, Option.bind_eq_bind,
    Option.bind_eq_some_iff] at written
  obtain ⟨_, _, mapping, built, sent⟩ := written
  exact
    setsTransfers_withoutPolicy
      (lookup_access_buildVmUserConnectionMapping built)
      (setsTransfers_upsertedPayload sent)

theorem setsTransfers_recordedPayload
    {view : AgentView}
    {target : SessionTarget}
    {owner : RecordingOwner}
    {answers : GuacamoleAnswers}
    (written :
      recordedPayload? library config agentId record view target owner
          answers =
        some payload) :
    SetsTransfers (mappingPolicy library []) payload := by
  simp only [recordedPayload?, Option.bind_eq_bind,
    Option.bind_eq_some_iff] at written
  obtain ⟨extracted, isExtracted, sent⟩ := written
  have recorded :
      (buildRecordedConnectionMapping library
          (noteGroup answers.group
            (sessionMapping library agentId view extracted
              target))).lookup "access" = none := by
    rw [lookup_access_buildRecordedConnectionMapping,
      lookup_access_noteGroup, lookup_access_sessionMapping,
      lookup_access_extractGuacamoleMapping isExtracted]
  refine setsTransfers_withoutPolicy ?_ (setsTransfers_upsertedPayload sent)
  split
  · rwa [Dictionary.lookup_set_other (by decide)]
  · exact recorded

namespace ProvisioningCall

/-- The policy that a call sets transfers from. -/
def writtenPolicy
    (library : TextLibrary)
    (metadata : JsonObject) : ProvisioningCall → AccessPolicy
  | registryPatch _ =>
    mappingPolicy library (objectAt metadata "guacamole")
  | _ =>
    mappingPolicy library []

theorem setsTransfers
    {call : ProvisioningCall}
    (written : call.payload? library config agentId record = some payload) :
    SetsTransfers (call.writtenPolicy library record.metadata) payload := by
  cases call with
  | deployment request secrets answers =>
    exact
      setsTransfers_withoutPolicy
        (lookup_access_buildAgentGuacamoleMapping config.templates _)
        (setsTransfers_provisionedPayload written)
  | registryPatch answers =>
    unfold payload? at written
    dsimp only at written
    split at written
    · cases written
    · exact setsTransfers_provisionedPayload written
  | reconciliation view answers =>
    obtain ⟨mapping, extracted, sent⟩ :=
      Option.bind_eq_some_iff.mp written
    dsimp only at sent
    split at sent
    · cases sent
    · exact
        setsTransfers_withoutPolicy
          (lookup_access_extractGuacamoleMapping extracted)
          (setsTransfers_provisionedPayload sent)
  | userConnection view entry answers =>
    exact setsTransfers_userPayload written
  | recordedConnection view target owner answers =>
    exact setsTransfers_recordedPayload written

theorem keepsRestrictions_iff
    (call : ProvisioningCall)
    (metadata : JsonObject) :
    call.KeepsRestrictions library metadata ↔
      ((extractAccessPolicy library metadata .upload).enabled = false →
          (call.writtenPolicy library metadata .upload).enabled = false) ∧
        ((extractAccessPolicy library metadata .download).enabled =
            false →
          (call.writtenPolicy library metadata .download).enabled = false) := by
  have upload : (mappingPolicy library [] .upload).enabled = true := rfl
  have download : (mappingPolicy library [] .download).enabled = true := rfl
  cases call with
  | registryPatch answers =>
    simp [KeepsRestrictions, forbids, mappingForbids, writtenPolicy]
  | _ =>
    simp [KeepsRestrictions, forbids, writtenPolicy, upload, download]

end ProvisioningCall

/--
Whatever is written for an agent restricts the transfers, over any sequence of
calls, exactly when every one of them keeps the restrictions.
-/
theorem transfersRestricted_iff_keepsRestrictions
    (writes : List (ConnectionWrite library config agentId record)) :
    TransfersRestricted library config agentId record writes ↔
      ∀ write ∈ writes,
        write.call.KeepsRestrictions library record.metadata := by
  refine forall_congr' fun write => imp_congr_right fun _ => ?_
  rw [restricts_iff (ProvisioningCall.setsTransfers write.written),
    ProvisioningCall.keepsRestrictions_iff]

end Paths

/-! ### A transfer that is enabled again -/

/-- An agent whose policy forbids that files are uploaded. -/
def forbiddingRecord : AgentRecord where
  id := "agent-1"
  hostname := "desk"
  metadata :=
    [("guacamole",
      .obj
        [("connection_identifier", .str "7"),
          ("access",
            .obj
              [("permissions",
                .obj [("upload", .obj [("enabled", .bool false)])])])])]
  createdAt := 0
  updatedAt := 0

/-- A session is opened, and the agent's connection is reconciled. -/
def reconcilingCall : ProvisioningCall :=
  .reconciliation { metrics := [("hostname", .str "desk")] } {}

/-- The reconciled connection lets files be uploaded. -/
theorem not_transfersRestricted :
    ¬ ∀ writes :
        List (ConnectionWrite asciiTextLibrary {} "agent-1" forbiddingRecord),
      TransfersRestricted asciiTextLibrary {} "agent-1" forbiddingRecord
        writes := by
  intro restricted
  have sent :
      (reconcilingCall.payload? asciiTextLibrary {} "agent-1"
          forbiddingRecord).map
          (fun payload => payload.parameters.lookup "disable-upload") =
        some (some "false") := by
    decide
  obtain ⟨payload, written, enabled⟩ := Option.map_eq_some_iff.mp sent
  have kept := restricted [⟨reconcilingCall, payload, written⟩]
  have disabled :=
    (kept _ (List.mem_singleton_self _)).1 (by decide)
  rw [enabled] at disabled
  exact absurd disabled (by decide)

end RpaPlatform.Agents
