import RpaPlatform.GuacamoleMapping

namespace RpaPlatform.Agents

open Tasks (Json)

/-!
# The connections that are written to Guacamole

The payload of a connection is assembled from the agent's mapping, the
connection that Guacamole has already, templates from the environment and the
settings for recordings.  The transfers of files are set from the access policy
in the mapping.
-/

/-! ### Texts -/

/-- `str.rsplit(separator, 1)`, where the separator occurs. -/
def rsplitOnce (separator : Char) (text : String) :
    Option (String × String) :=
  let later := text.toList.reverse.takeWhile (· ≠ separator)
  match text.toList.reverse.drop later.length with
  | [] =>
    none
  | _ :: earlier =>
    some (String.ofList earlier.reverse, String.ofList later.reverse)

/-- `str.replace`, of one character by another one. -/
def replaceChar (old new : Char) (text : String) : String :=
  String.ofList
    (text.toList.map fun character =>
      if character = old then new else character)

/-- Some characters in a row become one hyphen. -/
def hyphenateSlashes : Bool → List Char → List Char
  | _, [] =>
    []
  | inRun, character :: rest =>
    if character = '\\' || character = '/' then
      if inRun then
        hyphenateSlashes true rest
      else
        '-' :: hyphenateSlashes true rest
    else
      character :: hyphenateSlashes false rest

/--
`" ".join(text.split())`.  The flag is there once a word has begun, and is set
when a blank is due before the next one.
-/
def joinWords : Option Bool → List Char → List Char
  | _, [] =>
    []
  | due, character :: rest =>
    if isSpace character then
      joinWords (due.map fun _ => true) rest
    else if due = some true then
      ' ' :: character :: joinWords (some false) rest
    else
      character :: joinWords (some false) rest

/-- `_sanitize_recording_template_value`. -/
def sanitizeRecordingValue (text : String) : String :=
  let marked :=
    (hyphenateSlashes false (strip text).toList).map fun character =>
      if character ∈ [':', '*', '?', '"', '<', '>', '|'] then '_'
      else character
  let isEdge := fun character : Char => character = ' ' || character = '.'
  String.ofList (((joinWords none marked).dropWhile isEdge).rdropWhile isEdge)

section Library

variable (library : TextLibrary)

/-- `_ensure_guacamole_recording_filename`. -/
def ensureRecordingFilename (text : String) : String :=
  let clean := strip text
  if clean = "" || (library.casefold clean).endsWith ".guac" then
    clean
  else
    clean ++ ".guac"

/-- `_is_reserved_windows_identity`. -/
def isReservedIdentity (text : String) : Bool :=
  let clean := strip text
  let normalized := library.casefold (replaceChar '/' '\\' clean)
  let localName :=
    ((rsplitOnce '\\' normalized).map Prod.snd).getD normalized
  clean ≠ "" &&
    (decide
        (normalized ∈
          ["system", "unknown", "nt authority\\system",
            "nt authority\\local service",
            "nt authority\\network service"]) ||
      decide (localName ∈ ["system", "local service", "network service"]))

/-- `_split_guacamole_credentials`: the user's name and domain. -/
def splitGuacamoleCredentials (mapping : JsonObject) : String × String :=
  let domain := cleanField library mapping "domain"
  let username := cleanField library mapping "username"
  let split :=
    (rsplitOnce '\\' username).or (rsplitOnce '/' username)
  if username = "" || isReservedIdentity library username then
    ("", domain)
  else if domain ≠ "" then
    let clean := strip ((split.map Prod.snd).getD username)
    if isReservedIdentity library clean then
      ("", domain)
    else
      (clean, domain)
  else
    match split with
    | none =>
      (username, "")
    | some (prefixText, localText) =>
      let cleanDomain := strip prefixText
      let clean := strip localText
      if isReservedIdentity library (cleanDomain ++ "\\" ++ clean) ||
          isReservedIdentity library clean then
        ("", "")
      else
        (clean, cleanDomain)

def normalizeStringDict (fields : JsonObject) : List (String × String) :=
  fields.foldl
    (fun result field =>
      let key := strip field.1
      let value := cleanString library field.2
      if key ≠ "" && value ≠ "" then
        Dictionary.set key value result
      else
        result)
    []

def textFields (parameters : List (String × String)) : JsonObject :=
  parameters.map fun parameter => (parameter.1, .str parameter.2)

end Library

/-! ### Settings -/

/-- `_get_recording_config`, as far as a connection depends on it. -/
structure RecordingConfig where
  enabled : Bool := false
  configured : Bool := false
  pathTemplate : String := ""
  nameTemplate : String := ""
  createPath : Bool := true
  excludeOutput : Bool := false
  excludeMouse : Bool := false
  excludeTouch : Bool := false
  includeKeys : Bool := true

/-- The settings of provisioning. -/
structure ProvisioningConfig where
  templates : MappingTemplates := {}
  groupParentIdentifier : String := "ROOT"
  protocol : String := "rdp"
  rdpPort : String := "3389"
  /-- The decoded templates. -/
  parameterTemplate : JsonObject := []
  attributeTemplate : JsonObject := []
  defaultPassword : String := ""
  defaultSecret : String := ""
  recording : RecordingConfig := {}

section Templates

variable
    (library : TextLibrary)
    (config : ProvisioningConfig)

mutual

def renderTemplateValue
    (values : List (String × String)) : Json → Json
  | .str text => .str (config.templates.renderTemplate text values)
  | .obj fields =>
    .obj (Dictionary.update [] (renderTemplateFields values fields))
  | value => value

/-- The fields of a template; those without a key are left out. -/
def renderTemplateFields
    (values : List (String × String)) : JsonObject → JsonObject
  | [] => []
  | (key, value) :: rest =>
    let rendered := renderTemplateFields values rest
    if strip key = "" then
      rendered
    else
      (strip key, renderTemplateValue values value) :: rendered

end

/-- A rendered template as texts. -/
def renderedDict
    (values : List (String × String))
    (template : JsonObject) : List (String × String) :=
  normalizeStringDict library
    (Dictionary.update [] (renderTemplateFields config values template))

/-- Values that a deployment provides for its templates. -/
structure TemplateSecrets where
  password : String := ""
  secret : String := ""

/-- `_build_guacamole_template_values`. -/
def buildTemplateValues
    (agentId : String)
    (mapping : JsonObject)
    (hostname : String)
    (secrets : TemplateSecrets)
    (timestamp : String) : List (String × String) :=
  let field := cleanField library mapping
  [("agent_id", strip agentId), ("hostname", strip hostname),
    ("target_host", orText (field "target_host") (strip hostname)),
    ("username", field "username"), ("domain", field "domain"),
    ("password", orText (strip secrets.password) config.defaultPassword),
    ("secret", orText (strip secrets.secret) config.defaultSecret),
    ("group_name", field "group_name"),
    ("connection_name", field "connection_name"),
    ("timestamp", timestamp), ("date", timestamp)]

/-- Whose session is recorded. -/
structure RecordingOwner where
  username : String := ""
  displayName : String := ""
  email : String := ""
  subject : String := ""

/-- `_build_recording_template_values`. -/
def buildRecordingValues
    (values : List (String × String))
    (owner : RecordingOwner) : List (String × String) :=
  let sanitized :=
    values.map fun value => (value.1, sanitizeRecordingValue value.2)
  let username := sanitizeRecordingValue owner.username
  let named :=
    if username ≠ "" then
      Dictionary.set "username" username
        (Dictionary.set "vm_username"
          ((sanitized.lookup "username").getD "") sanitized)
    else
      sanitized
  Dictionary.update named
    [("owner_username", username),
      ("owner_display_name", sanitizeRecordingValue owner.displayName),
      ("owner_email", sanitizeRecordingValue owner.email),
      ("owner_subject", sanitizeRecordingValue owner.subject)]

end Templates

/-! ### The payload -/

/-- What is sent to Guacamole of a connection. -/
structure ConnectionPayload where
  name : String
  parentIdentifier : String
  protocol : String
  parameters : List (String × String)
  attributes : List (String × String)

/-- What Guacamole has of a connection already. -/
structure ExistingConnection where
  fields : JsonObject := []
  parameters : List (String × String) := []

def flagText (flag : Bool) : String :=
  if flag then "true" else "false"

/-- Set the transfers of files, and the drive that they need. -/
def setTransfers
    (upload download : Bool)
    (parameters : List (String × String)) : List (String × String) :=
  if upload || download then
    let drivePath :=
      orText (strip ((parameters.lookup "drive-path").getD "")) "/drive"
    Dictionary.update parameters
      [("enable-drive", "true"), ("create-drive-path", "true"),
        ("drive-path", drivePath),
        ("disable-upload", flagText !upload),
        ("disable-download", flagText !download)]
  else
    Dictionary.erase "drive-path"
      (Dictionary.erase "create-drive-path"
        (Dictionary.update parameters
          [("enable-drive", "false"), ("disable-upload", "true"),
            ("disable-download", "true")]))

/-- `_CONNECTION_RECORDING_PARAMETER_KEYS`. -/
def recordingParameterKeys : List String :=
  ["recording-path", "create-recording-path", "recording-name",
    "recording-exclude-output", "recording-exclude-mouse",
    "recording-exclude-touch", "recording-include-keys"]

/-- Take the parameters of an earlier recording out. -/
def clearRecording
    (parameters : List (String × String)) : List (String × String) :=
  recordingParameterKeys.foldl
    (fun kept key => Dictionary.erase key kept) parameters

/-- The parameters of a recording. -/
def recordingParameters
    (recording : RecordingConfig)
    (path name : String) : List (String × String) :=
  [("recording-path", path),
    ("create-recording-path", flagText recording.createPath)] ++
    (if name ≠ "" then [("recording-name", name)] else []) ++
    [("recording-exclude-output", flagText recording.excludeOutput),
      ("recording-exclude-mouse", flagText recording.excludeMouse),
      ("recording-exclude-touch", flagText recording.excludeTouch),
      ("recording-include-keys", flagText recording.includeKeys)]

section Payload

variable
    (library : TextLibrary)
    (config : ProvisioningConfig)

/-- Whose session is to be recorded, and with which values of templates. -/
def setRecording
    (values : List (String × String))
    (owner : RecordingOwner)
    (parameters : List (String × String)) : List (String × String) :=
  let recording := config.recording
  let recordingValues := buildRecordingValues values owner
  let path :=
    config.templates.renderTemplate recording.pathTemplate recordingValues
  let name :=
    ensureRecordingFilename library
      (config.templates.renderTemplate recording.nameTemplate recordingValues)
  if path ≠ "" then
    Dictionary.update parameters (recordingParameters recording path name)
  else
    parameters

/-- The parameters before transfers and recordings are set. -/
def connectionParameters
    (mapping : JsonObject)
    (hostname : String)
    (values : List (String × String))
    (existing : ExistingConnection) : List (String × String) :=
  let credentials := splitGuacamoleCredentials library mapping
  let given := fun key text =>
    if text ≠ "" then [(key, text)] else ([] : List (String × String))
  let targetHost :=
    orText (cleanField library mapping "target_host") (strip hostname)
  let addressed :=
    Dictionary.update
      (normalizeStringDict library (textFields existing.parameters))
      [("hostname", targetHost), ("port", config.rdpPort),
        ("resize-method", "display-update"), ("ignore-cert", "true")]
  let named :=
    Dictionary.update addressed
      (given "username" credentials.1 ++ given "domain" credentials.2)
  Dictionary.update named
    (renderedDict library config values config.parameterTemplate)

def mappingPolicy (mapping : JsonObject) : AccessPolicy :=
  normalizeAccessPolicy library (mappingFields (getField mapping "access"))

/-- `_build_guacamole_connection_payload`. -/
def buildConnectionPayload
    (agentId : String)
    (mapping : JsonObject)
    (hostname : String)
    (secrets : TemplateSecrets)
    (existing : ExistingConnection)
    (recordingOwner : Option RecordingOwner)
    (timestamp : String) : ConnectionPayload :=
  let policy := mappingPolicy library mapping
  let values :=
    buildTemplateValues library config agentId mapping hostname secrets
      timestamp
  let transfers :=
    setTransfers (policy .upload).enabled (policy .download).enabled
      (connectionParameters library config mapping hostname values existing)
  let cleared := clearRecording transfers
  { name :=
      orText (cleanField library mapping "connection_name") (strip hostname)
    parentIdentifier :=
      orText (cleanField library mapping "group_identifier")
        config.groupParentIdentifier
    protocol := config.protocol
    parameters :=
      match recordingOwner with
      | none => cleared
      | some owner =>
        if config.recording.enabled && config.recording.configured then
          setRecording library config values owner cleared
        else
          cleared
    attributes :=
      Dictionary.update
        (normalizeStringDict library
          (mappingFields (getField existing.fields "attributes")))
        (renderedDict library config values config.attributeTemplate) }

end Payload

end RpaPlatform.Agents
