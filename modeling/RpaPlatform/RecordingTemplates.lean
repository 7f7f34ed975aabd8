import RpaPlatform.CaptureMatching
import RpaPlatform.RecordingPaths

namespace RpaPlatform.Agents

open Tasks (Json)

/-!
# Paths by a template

The path template of the settings says in which directories recordings are
written.  From the path of a recording, the values of the template's
placeholders are read back, a segment at a time.
-/

/-! ### Rendering -/

/-- `_build_recording_entry_hint`, where it is not empty. -/
structure RecordingHint where
  agentId : String
  directory : String
  name : String
  relativePath : String

section Rendering

variable
    (library : TextLibrary)
    (config : ProvisioningConfig)
    (agentId : String)
    (mapping : JsonObject)
    (hostname : String)
    (owner : RecordingOwner)
    (timestamp : String)

/-- The sanitised values that the paths of a recording are rendered with. -/
def recordingValues : List (String × String) :=
  buildRecordingValues
    (buildTemplateValues library config agentId mapping hostname {} timestamp)
    owner

/-- The name of a recording. -/
def recordingName : String :=
  ensureRecordingFilename library
    (config.templates.renderTemplate (strip config.recording.nameTemplate)
      (recordingValues library config agentId mapping hostname owner timestamp))

def buildRecordingEntryHint : Option RecordingHint :=
  let recording := config.recording
  let values :=
    recordingValues library config agentId mapping hostname owner timestamp
  let directory :=
    sanitizeRecordingPath
      (config.templates.renderTemplate (strip recording.pathTemplate) values)
  let name :=
    recordingName library config agentId mapping hostname owner timestamp
  let relativePath := sanitizeRecordingPath (posixJoin directory name)
  if !recording.enabled || !recording.configured then
    none
  else if relativePath = "" then
    none
  else
    some { agentId := strip agentId, directory, name, relativePath }

end Rendering

/-! ### Reading -/

/-- One item of a template. -/
inductive TemplateItem where
  | literal (character : Char)
  | placeholder (name : String)
  deriving DecidableEq

/-- `[a-zA-Z_]`. -/
def isNameStart (character : Char) : Bool :=
  character.isAlpha || character = '_'

/-- The name of a placeholder that begins before some characters. -/
def placeholderName? (afterBrace : List Char) : Option (List Char) :=
  let isNamePart := fun character : Char =>
    isNameStart character || character.isDigit
  let name := afterBrace.takeWhile isNamePart
  if name.head?.any isNameStart &&
      (afterBrace.drop name.length).head? = some '}' then
    some name
  else
    none

/--
The items of a template, from left to right.  What is counted down are the
characters of a placeholder that are still to be passed.
-/
def scanTemplate : Nat → List Char → List TemplateItem
  | _, [] =>
    []
  | passed + 1, _ :: rest =>
    scanTemplate passed rest
  | 0, character :: rest =>
    match if character = '{' then placeholderName? rest else none with
    | some name =>
      .placeholder (String.ofList name) :: scanTemplate (name.length + 1) rest
    | none =>
      .literal character :: scanTemplate 0 rest

namespace TemplateItem

def name? : TemplateItem → Option String
  | .literal _ => none
  | .placeholder name => some name

def startsLiteral : List TemplateItem → Bool
  | .literal _ :: _ => true
  | _ => false

/-- The pattern of a template; captures before a character are lazy. -/
def pattern : List TemplateItem → List Captures.Item
  | [] =>
    []
  | .literal character :: rest =>
    .literal character :: pattern rest
  | .placeholder name :: rest =>
    .capture name (startsLiteral rest) :: pattern rest

end TemplateItem

/-- A pattern in which two groups have one name. -/
inductive PatternError where
  | redefinedGroup
  deriving DecidableEq

/--
The values that one segment of a template reads of a segment of a path, if
the one fits the other.
-/
def readSegment
    (templatePart candidatePart : String) :
    Except PatternError (Option (List (String × String))) :=
  let items := scanTemplate 0 templatePart.toList
  let names := items.filterMap TemplateItem.name?
  if names = [] then
    .ok (if strip templatePart = strip candidatePart then some [] else none)
  else if ¬ names.Nodup then
    .error .redefinedGroup
  else
    .ok
      ((Captures.fullMatch (TemplateItem.pattern items)
        candidatePart.toList).map fun captured =>
          (captured.map fun value =>
            (value.1, strip (String.ofList value.2))).filter fun value =>
              value.2 ≠ "")

/-- The values that segments of a template read of the segments of a path. -/
def readSegments
    (values : List (String × String)) :
    List (String × String) → Except PatternError (List (String × String))
  | [] =>
    .ok values
  | (templatePart, candidatePart) :: rest =>
    match readSegment templatePart candidatePart with
    | .error error =>
      .error error
    | .ok none =>
      .ok []
    | .ok (some found) =>
      readSegments (Dictionary.update values found) rest

theorem readSegments_cons
    {templatePart candidatePart : String}
    {found : List (String × String)}
    (reads : readSegment templatePart candidatePart = .ok (some found))
    (values rest : List (String × String)) :
    readSegments values ((templatePart, candidatePart) :: rest) =
      readSegments (Dictionary.update values found) rest := by
  rw [readSegments, reads]

theorem readSegments_error
    {templatePart candidatePart : String}
    {error : PatternError}
    (raises : readSegment templatePart candidatePart = .error error)
    (values rest : List (String × String)) :
    readSegments values ((templatePart, candidatePart) :: rest) =
      .error error := by
  rw [readSegments, raises]

def isDynamicPart (part : String) : Bool :=
  decide ('{' ∈ part.toList) && decide ('}' ∈ part.toList)

def parseRecordingTemplateMetadata
    (relativePath pathTemplate : String) :
    Except PatternError (List (String × String)) :=
  let cleanRelativePath := sanitizeRecordingPath relativePath
  let cleanTemplate := sanitizeRecordingPath pathTemplate
  let directoryParts := (Segments.split '/' cleanRelativePath).dropLast
  let dynamicParts :=
    (Segments.split '/' cleanTemplate).dropWhile fun part =>
      !isDynamicPart part
  if cleanRelativePath = "" || cleanTemplate = "" then
    .ok []
  else if dynamicParts = [] || directoryParts.length < dynamicParts.length then
    .ok []
  else
    readSegments []
      (dynamicParts.zip
        (directoryParts.drop (directoryParts.length - dynamicParts.length)))

example :
    parseRecordingTemplateMetadata "x/vm-7/anna.b/1.guac"
        "rec/{agent_id}/{username}" =
      .ok [("agent_id", "vm-7"), ("username", "anna.b")] := by
  decide +kernel

/-- The separator is found where it occurs first. -/
example :
    parseRecordingTemplateMetadata "vm-7-anna/x/1.guac"
        "rec/{agent_id}-{username}/x" =
      .ok [("agent_id", "vm"), ("username", "7-anna")] := by
  decide +kernel

end RpaPlatform.Agents
