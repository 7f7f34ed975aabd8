import Mathlib.Data.List.Sort
import RpaPlatform.RecordingTemplates

namespace RpaPlatform.Agents

open Tasks (Json)

/-!
# The inventory of recordings

The directories of recordings are listed a level after the other, and each file
that is found is attributed to an agent and a user.  A filter for either is
passed on to the attribution, which falls back on it.
-/

/-! ### Listing directories -/

/-- Why a directory could not be listed. -/
inductive ListingFailure where
  /-- `HTTPError`. -/
  | http (code : Int)
  /-- `URLError`. -/
  | unreachable (reason : String)
  /-- Another error that is expected. -/
  | failed (error : String)

/-- What an inventory depends on. -/
structure InventoryHost where
  library : TextLibrary
  /-- A time, as seconds. -/
  parseTime : String → Option Int
  /-- The decoded answer to a request for a URL. -/
  fetch : String → Except ListingFailure Json

/-- `_get_recording_config`, as far as the inventory depends on it. -/
structure InventoryConfig where
  enabled : Bool := false
  browseUrl : String := ""
  pathTemplate : String := ""

/-- `_normalize_recording_listing_entry`. -/
structure ListingEntry where
  name : String := ""
  type : String := ""
  size : Option Int := none
  mtime : Option Int := none

/-- A file that has been found. -/
structure FoundFile where
  name : String
  relativePath : String
  size : Option Int
  mtime : Option Int

/-- What comes of the request for one directory. -/
structure Visit where
  /-- The URL that is requested. -/
  url : String
  warnings : List String := []
  files : List FoundFile := []
  directories : List String := []

section Walking

variable
    (host : InventoryHost)
    (browseUrl : String)

/-- `_normalize_recording_listing_entry`. -/
def normalizeListingEntry (entry : Json) : ListingEntry :=
  match entry with
  | .obj fields =>
    let field := cleanField host.library fields
    { name := field "name"
      type := host.library.casefold (field "type")
      size := host.library.int (field "size")
      mtime :=
        if field "mtime" = "" then none
        else host.parseTime (field "mtime") }
  | _ => {}

def requestRecordingListing
    (url : String) : Except ListingFailure (List Json) :=
  (host.fetch url).map fun
    | .arr items => items
    | _ => []

/-- The warning that a failure leaves. -/
def listingWarning (relativePath : String) : ListingFailure → List String
  | .http code =>
    if code ≠ 404 || relativePath = "" then
      ["Recording inventory request failed for " ++
        orText relativePath "/" ++ " with HTTP " ++ toString code ++ "."]
    else
      []
  | .unreachable reason =>
    ["Could not reach recording inventory for " ++
      orText relativePath "/" ++ ": " ++ reason ++ "."]
  | .failed error =>
    ["Recording inventory failed for " ++ orText relativePath "/" ++
      ": " ++ error ++ "."]

def entryPath (relativePath : String) (entry : ListingEntry) : String :=
  sanitizeRecordingPath (posixJoin relativePath (strip entry.name))

/-- The entries of a directory that have a name and a type. -/
def entriesOfType
    (type : String)
    (entries : List ListingEntry) : List ListingEntry :=
  entries.filter fun entry =>
    strip entry.name ≠ "" && strip entry.type = type

/-- List one directory. -/
def visitDirectory (relativePath : String) : Visit :=
  let url := buildRecordingListingUrl browseUrl relativePath
  match requestRecordingListing host url with
  | .error failure =>
    { url, warnings := listingWarning relativePath failure }
  | .ok listing =>
    let entries := listing.map (normalizeListingEntry host)
    { url
      files :=
        (entriesOfType "file" entries).map fun entry =>
          { name := strip entry.name
            relativePath := entryPath relativePath entry
            size := entry.size
            mtime := entry.mtime }
      directories :=
        (entriesOfType "directory" entries).map
          (entryPath relativePath) }

/-- The directories of a level, and those some levels below. -/
def walkLevels : Nat → List String → List Visit
  | 0, paths =>
    paths.map (visitDirectory host browseUrl)
  | levels + 1, paths =>
    let visits := paths.map (visitDirectory host browseUrl)
    visits ++ walkLevels levels (visits.flatMap Visit.directories)

/-- The queue of directories with their depths, and what has been visited. -/
structure DirectoryWalk where
  queue : List (String × Nat) := [("", 0)]
  visits : List Visit := []

def atDepth (depth : Nat) (paths : List String) : List (String × Nat) :=
  paths.map fun path => (path, depth)

def belowDepth (depth : Nat) (visits : List Visit) : List String :=
  if depth < 4 then visits.flatMap Visit.directories else []

/-- One turn of the loop over the queue. -/
def DirectoryWalk.step? (walk : DirectoryWalk) : Option DirectoryWalk :=
  match walk.queue with
  | [] => none
  | (path, depth) :: rest =>
    let visit := visitDirectory host browseUrl path
    some
      { queue := rest ++ atDepth (depth + 1) (belowDepth depth [visit])
        visits := walk.visits ++ [visit] }

variable {host browseUrl}

theorem walks_level
    (depth : Nat)
    (paths below : List String)
    (visits : List Visit) :
    Relation.ReflTransGen
      (fun before after =>
        DirectoryWalk.step? host browseUrl before = some after)
      { queue := atDepth depth paths ++ atDepth (depth + 1) below, visits }
      { queue :=
          atDepth (depth + 1)
            (below ++
              belowDepth depth (paths.map (visitDirectory host browseUrl)))
        visits := visits ++ paths.map (visitDirectory host browseUrl) } := by
  induction paths generalizing below visits with
  | nil =>
    have nothingBelow : belowDepth depth [] = [] := ite_self []
    rw [List.map_nil, nothingBelow, List.append_nil, List.append_nil]
    exact .refl
  | cons path rest inductionHypothesis =>
    have splits :
        belowDepth depth
            ((path :: rest).map (visitDirectory host browseUrl)) =
          belowDepth depth [visitDirectory host browseUrl path] ++
            belowDepth depth (rest.map (visitDirectory host browseUrl)) := by
      unfold belowDepth
      split
      · rw [List.map_cons, List.flatMap_cons, List.flatMap_singleton]
      · rfl
    have later :=
      inductionHypothesis
        (below ++ belowDepth depth [visitDirectory host browseUrl path])
        (visits ++ [visitDirectory host browseUrl path])
    rw [List.append_assoc, ← splits, List.append_assoc,
      List.singleton_append, ← List.map_cons] at later
    refine .head ?_ later
    refine congrArg some (DirectoryWalk.mk.injEq .. |>.mpr ⟨?_, rfl⟩)
    simp [atDepth, List.append_assoc]

theorem walks_levels
    (levels : Nat)
    (shallow : levels ≤ 4)
    (paths : List String)
    (visits : List Visit) :
    Relation.ReflTransGen
      (fun before after =>
        DirectoryWalk.step? host browseUrl before = some after)
      { queue := atDepth (4 - levels) paths, visits }
      { queue := [],
        visits := visits ++ walkLevels host browseUrl levels paths } := by
  induction levels generalizing paths visits with
  | zero =>
    have thisLevel := @walks_level host browseUrl 4 paths [] visits
    rwa [show atDepth (4 + 1) [] = [] from rfl, List.append_nil,
      List.nil_append] at thisLevel
  | succ levels inductionHypothesis =>
    have thisLevel :=
      @walks_level host browseUrl (4 - (levels + 1)) paths [] visits
    have isDeeper : 4 - (levels + 1) + 1 = 4 - levels := by
      omega
    rw [isDeeper, show atDepth (4 - levels) [] = [] from rfl,
      List.append_nil, List.nil_append, belowDepth,
      if_pos (by omega)] at thisLevel
    refine thisLevel.trans ?_
    rw [walkLevels, ← List.append_assoc]
    exact inductionHypothesis (by omega) _ _

variable (host browseUrl)

def visitedDirectories : List Visit :=
  walkLevels host browseUrl 4 [""]

end Walking

/-! ### Confinement -/

theorem url_visitDirectory
    (host : InventoryHost)
    (browseUrl relativePath : String) :
    (visitDirectory host browseUrl relativePath).url =
      buildRecordingListingUrl browseUrl relativePath := by
  unfold visitDirectory
  dsimp only
  generalize buildRecordingListingUrl browseUrl relativePath = url
  cases requestRecordingListing host url with
  | error | ok =>
    rfl

theorem url_of_mem_walkLevels
    {host : InventoryHost}
    {browseUrl : String}
    {levels : Nat}
    {paths : List String}
    {visit : Visit}
    (visited : visit ∈ walkLevels host browseUrl levels paths) :
    ∃ path, visit.url = buildRecordingListingUrl browseUrl path := by
  have ofLevel :
      ∀ paths : List String,
        visit ∈ paths.map (visitDirectory host browseUrl) →
          ∃ path, visit.url = buildRecordingListingUrl browseUrl path := by
    intro paths inLevel
    obtain ⟨path, -, rfl⟩ := List.mem_map.mp inLevel
    exact ⟨path, url_visitDirectory host browseUrl path⟩
  induction levels generalizing paths with
  | zero =>
    exact ofLevel paths visited
  | succ levels inductionHypothesis =>
    rcases List.mem_append.mp visited with inLevel | isBelow
    · exact ofLevel paths inLevel
    · exact inductionHypothesis isBelow

theorem url_of_openGuacamoleRecording
    {browseUrl relativePath url : String}
    (requested : openGuacamoleRecording browseUrl relativePath = .ok url) :
    url = buildRecordingTargetUrl browseUrl relativePath := by
  unfold openGuacamoleRecording at requested
  dsimp only at requested
  by_cases noBase : strip browseUrl = ""
  · rw [if_pos noBase] at requested
    cases requested
  · rw [if_neg noBase] at requested
    by_cases noPath : sanitizeRecordingPath relativePath = ""
    · rw [if_pos noPath] at requested
      cases requested
    · rw [if_neg noPath] at requested
      rw [← Except.ok.inj requested]
      unfold buildRecordingTargetUrl
      rw [strip_strip, sanitizeRecordingPath_idem]

/--
A cleaned path stays clean, and has no segment that is empty or that leads
elsewhere.  What is requested for a path is the base, a slash and the
percent-encoded segments of the cleaned path.
-/
theorem recordingPath_confined
    (host : InventoryHost)
    (baseUrl relativePath : String) :
    let clean := sanitizeRecordingPath relativePath
    let base := rstripSlashes (strip baseUrl)
    let target := buildRecordingTargetUrl baseUrl relativePath
    let listing := buildRecordingListingUrl baseUrl relativePath
    sanitizeRecordingPath clean = clean ∧
      (∀ segment ∈ pathSegments clean, segment ∉ ["", ".", ".."]) ∧
      '\\' ∉ clean.toList ∧
      (base = "" → target = "" ∧ listing = "") ∧
      (base ≠ "" →
        LeadsTo base target (pathSegments clean) ∧
          listing = target ++ (if clean = "" then "" else "/")) ∧
      (∀ url,
        openGuacamoleRecording baseUrl relativePath = .ok url →
          url = target) ∧
      ∀ visit ∈ visitedDirectories host baseUrl,
        ∃ path, visit.url = buildRecordingListingUrl baseUrl path := by
  dsimp only
  refine
    ⟨sanitizeRecordingPath_idem relativePath, ?_, ?_, ?_,
      fun hasBase =>
        ⟨leadsTo_targetUrl hasBase relativePath,
          listingUrl_eq hasBase relativePath⟩,
      fun _ requested => url_of_openGuacamoleRecording requested,
      fun _ visited => url_of_mem_walkLevels visited⟩
  · intro segment isSegment
    rw [pathSegments_sanitize] at isSegment
    have kept := (cleanSegment_of_mem isSegment).kept
    unfold keepsSegment at kept
    grind
  · intro member
    rcases Segments.mem_join member with
      isSlash | ⟨segment, isSegment, inSegment⟩
    · exact absurd isSlash (by decide)
    · exact (cleanSegment_of_mem isSegment).noBackslash inSegment
  · intro noBase
    unfold buildRecordingTargetUrl buildRecordingListingUrl
    dsimp only
    rw [if_pos noBase, if_pos noBase]
    exact ⟨rfl, rfl⟩

/-! ### Attributing files -/

/-- Whose recording a file is taken for. -/
@[ext]
structure Attribution where
  agentId : String
  username : String
  deriving DecidableEq

def ownerSegment? (parts : List String) : Option String :=
  if 3 ≤ parts.length then parts.dropLast.getLast? else none

/-- A value that a template has read; it is empty where there is none. -/
def readValue (values : List (String × String)) (key : String) : String :=
  strip ((values.lookup key).getD "")

/-- Whose recording a file is, by what the template has read of its path. -/
def attributionOf
    (relativePath : String)
    (fallback : Attribution)
    (values : List (String × String)) : Attribution :=
  let parts := pathSegments (sanitizeRecordingPath relativePath)
  if values ≠ [] then
    { agentId :=
        orText (readValue values "agent_id") (strip fallback.agentId)
      username :=
        orText (readValue values "username") (strip fallback.username) }
  else
    { agentId :=
        orText (strip fallback.agentId) (strip (parts.head?.getD ""))
      username :=
        orText (strip fallback.username)
          (strip ((ownerSegment? parts).getD "")) }

/-- `_extract_recording_inventory_metadata`. -/
def extractRecordingMetadata
    (relativePath pathTemplate : String)
    (fallback : Attribution) : Except PatternError Attribution :=
  (parseRecordingTemplateMetadata relativePath pathTemplate).map
    (attributionOf relativePath fallback)

/-- An entry of the inventory. -/
structure RecordingEntry where
  agentId : String
  username : String
  name : String
  relativePath : String
  sizeBytes : Option Int
  modifiedAt : Option Int
  downloadUrl : String

/-- The newest recordings come first; those of one time are by path. -/
def RecordingEntry.precedes (entry other : RecordingEntry) : Prop :=
  let time := -(entry.modifiedAt.getD 0)
  let otherTime := -(other.modifiedAt.getD 0)
  time < otherTime ∨
    time = otherTime ∧
      List.le entry.relativePath.toList other.relativePath.toList

instance : DecidableRel RecordingEntry.precedes :=
  fun _ _ => inferInstanceAs (Decidable (_ ∨ _))

/-- The answer to a request for the inventory. -/
structure RecordingInventory where
  enabled : Bool
  configured : Bool
  browseUrl : String
  entryCount : Nat
  entries : List RecordingEntry
  warnings : List String

section Inventory

variable
    (host : InventoryHost)
    (config : InventoryConfig)
    (publicBaseUrl : String)

def passesFilter (filter value : String) : Bool :=
  filter = "" ||
    decide (host.library.casefold (strip value) = host.library.casefold filter)

/-- The entry of a file, given whose recording it is. -/
def recordingEntry
    (file : FoundFile)
    (attribution : Attribution) : RecordingEntry :=
  { agentId := attribution.agentId
    username := attribution.username
    name := file.name
    relativePath := file.relativePath
    sizeBytes := file.size
    modifiedAt := file.mtime
    downloadUrl :=
      rstripSlashes publicBaseUrl ++
        "/api/guacamole/recordings/download?path=" ++
          Percent.quote file.relativePath }

/-- The entry of a file, if the filters let it through. -/
def entryOfFile
    (agentId username : String)
    (file : FoundFile) : Except PatternError (Option RecordingEntry) :=
  (extractRecordingMetadata file.relativePath (strip config.pathTemplate)
    { agentId, username }).map fun attribution =>
      if passesFilter host agentId attribution.agentId &&
          passesFilter host username attribution.username then
        some (recordingEntry publicBaseUrl file attribution)
      else
        none

/-- The files that an inventory finds. -/
def inventoryFiles : List FoundFile :=
  if config.enabled && strip config.browseUrl ≠ "" then
    (visitedDirectories host (strip config.browseUrl)).flatMap Visit.files
  else
    []

def listGuacamoleRecordings
    (agentId username : String) :
    Except PatternError RecordingInventory :=
  let browseUrl := strip config.browseUrl
  let nothing :=
    { enabled := config.enabled
      configured := false
      browseUrl
      entryCount := 0
      entries := []
      warnings := [] : RecordingInventory }
  if !config.enabled then
    .ok { nothing with warnings := ["Recording is disabled."] }
  else if browseUrl = "" then
    .ok
      { nothing with
        warnings :=
          ["Recording browse URL is not configured. Set " ++
            "GUACAMOLE_SESSION_RECORDING_BROWSE_URL or save a browse URL " ++
            "in settings."] }
  else do
    let found ←
      (inventoryFiles host config).mapM
        (entryOfFile host config publicBaseUrl (strip agentId) (strip username))
    let entries :=
      (found.filterMap id).insertionSort RecordingEntry.precedes
    .ok
      { enabled := true
        configured := true
        browseUrl
        entryCount := entries.length
        entries
        warnings :=
          (visitedDirectories host browseUrl).flatMap Visit.warnings }

end Inventory

end RpaPlatform.Agents
