import RpaPlatform.GuacamoleConnection
import RpaPlatform.PercentEncoding
import RpaPlatform.TextSegments

namespace RpaPlatform.Agents

/-!
# The paths of recordings

Recordings are read from a web server by paths below a configured base.  A path
is cleaned before it is used, and each of its segments is percent-encoded.
-/

/-! ### Cleaning -/

def keepsSegment (segment : String) : Bool :=
  segment ≠ "" && segment ∉ [".", ".."]

/-- The segments of a path, cleaned. -/
def recordingSegments (relativePath : String) : List String :=
  let parts :=
    Segments.split '/' (replaceChar '\\' '/' (strip relativePath))
  (parts.map strip).filter keepsSegment

/-- `_sanitize_recording_relative_path`. -/
def sanitizeRecordingPath (relativePath : String) : String :=
  Segments.join '/' (recordingSegments relativePath)

example :
    sanitizeRecordingPath " ..\\a / ./..// %2e\\ b c " = "a/%2e/b c" := by
  decide +kernel

/-- `posixpath.join`, of two parts. -/
def posixJoin (path name : String) : String :=
  if name.toList.head? = some '/' then
    name
  else if path = "" || path.toList.getLast? = some '/' then
    path ++ name
  else
    path ++ "/" ++ name

/-- A segment as cleaning leaves it. -/
structure CleanSegment (segment : String) : Prop where
  kept : keepsSegment segment = true
  unpadded : strip segment = segment
  noSlash : '/' ∉ segment.toList
  noBackslash : '\\' ∉ segment.toList

theorem mem_of_mem_strip
    {text : String}
    {character : Char}
    (member : character ∈ (strip text).toList) :
    character ∈ text.toList := by
  unfold strip at member
  rw [String.toList_ofList] at member
  exact
    (List.dropWhile_sublist _).subset
      ((List.rdropWhile_prefix _ _).subset member)

theorem notMem_replaceChar
    {old new : Char}
    (differ : new ≠ old)
    (text : String) :
    old ∉ (replaceChar old new text).toList := by
  unfold replaceChar
  rw [String.toList_ofList, List.mem_map]
  rintro ⟨character, -, isOld⟩
  split at isOld
  · exact differ isOld
  · rename_i isOther
    exact isOther isOld

theorem replaceChar_eq_self
    {old : Char}
    {text : String}
    (absent : old ∉ text.toList)
    (new : Char) :
    replaceChar old new text = text := by
  have kept :
      ∀ character ∈ text.toList,
        (if character = old then new else character) = id character := by
    intro character member
    refine if_neg ?_
    rintro rfl
    exact absent member
  have same :
      (text.toList.map fun character =>
        if character = old then new else character) = text.toList :=
    (List.map_congr_left kept).trans (List.map_id _)
  rw [replaceChar, same, String.ofList_toList]

theorem cleanSegment_of_mem
    {relativePath segment : String}
    (member : segment ∈ recordingSegments relativePath) :
    CleanSegment segment := by
  obtain ⟨isPart, kept⟩ := List.mem_filter.mp member
  obtain ⟨part, inSplit, rfl⟩ := List.mem_map.mp isPart
  exact
    { kept
      unpadded := strip_strip part
      noSlash := fun inPart =>
        Segments.notMem_split inSplit (mem_of_mem_strip inPart)
      noBackslash := fun inPart =>
        notMem_replaceChar (by decide) _
          (Segments.mem_of_mem_split inSplit (mem_of_mem_strip inPart)) }

theorem dropEnds_eq_self_iff
    {Item : Type*}
    (blank : Item → Bool)
    (items : List Item) :
    (items.dropWhile blank).rdropWhile blank = items ↔
      (∀ item ∈ items.head?, blank item = false) ∧
        ∀ item ∈ items.getLast?, blank item = false := by
  constructor
  · intro same
    have leading : items.dropWhile blank = items := by
      refine (List.dropWhile_suffix blank).eq_of_length_le ?_
      have shorter :=
        (List.rdropWhile_prefix blank (items.dropWhile blank)).length_le
      rwa [same] at shorter
    have trailing : items.rdropWhile blank = items := by
      rwa [leading] at same
    constructor
    · intro item isFirst
      obtain ⟨rest, rfl⟩ := List.head?_eq_some_iff.mp isFirst
      have keeps := List.dropWhile_eq_self_iff.mp leading (by simp)
      rwa [Bool.not_eq_true] at keeps
    · intro item isLast
      obtain ⟨start, rfl⟩ := List.getLast?_eq_some_iff.mp isLast
      have keeps := List.rdropWhile_eq_self_iff.mp trailing (by simp)
      rwa [List.getLast_append_singleton, Bool.not_eq_true] at keeps
  · rintro ⟨first, last⟩
    have leading : items.dropWhile blank = items := by
      refine List.dropWhile_eq_self_iff.mpr fun nonempty => ?_
      rw [Bool.not_eq_true]
      refine first _ ?_
      rw [List.head?_eq_getElem?]
      exact List.getElem?_eq_getElem nonempty
    rw [leading]
    refine List.rdropWhile_eq_self_iff.mpr fun nonempty => ?_
    rw [Bool.not_eq_true]
    exact last _ (List.getLast?_eq_some_getLast nonempty)

theorem strip_eq_self_iff {text : String} :
    strip text = text ↔
      (∀ character ∈ text.toList.head?, isSpace character = false) ∧
        ∀ character ∈ text.toList.getLast?, isSpace character = false := by
  rw [← dropEnds_eq_self_iff, ← String.toList_inj, strip, String.toList_ofList]

theorem CleanSegment.nonempty
    {segment : String}
    (clean : CleanSegment segment) :
    segment ≠ "" := by
  rintro rfl
  exact absurd clean.kept (by decide)

variable {segments : List String}

theorem join_clean
    (clean : ∀ segment ∈ segments, CleanSegment segment) :
    strip (Segments.join '/' segments) = Segments.join '/' segments ∧
      (Segments.join '/' segments).toList.getLast? ≠ some '/' := by
  have ends :=
    @Segments.ends_join '/' segments fun segment isSegment =>
      (clean segment isSegment).nonempty
  refine ⟨strip_eq_self_iff.mpr ⟨?_, ?_⟩, ?_⟩
  · intro character isFirst
    obtain ⟨segment, isSegment, isFirst⟩ := ends.1 character isFirst
    exact
      (strip_eq_self_iff.mp (clean segment isSegment).unpadded).1
        character isFirst
  · intro character isLast
    obtain ⟨segment, isSegment, isLast⟩ := ends.2 character isLast
    exact
      (strip_eq_self_iff.mp (clean segment isSegment).unpadded).2
        character isLast
  · intro isSlash
    obtain ⟨segment, isSegment, isLast⟩ := ends.2 '/' isSlash
    exact (clean segment isSegment).noSlash (List.mem_of_getLast? isLast)

theorem recordingSegments_join
    (clean : ∀ segment ∈ segments, CleanSegment segment) :
    recordingSegments (Segments.join '/' segments) = segments := by
  have noBackslash : '\\' ∉ (Segments.join '/' segments).toList := by
    intro member
    rcases Segments.mem_join member with
      isSlash | ⟨segment, isSegment, inSegment⟩
    · exact absurd isSlash (by decide)
    · exact (clean segment isSegment).noBackslash inSegment
  unfold recordingSegments
  dsimp only
  rw [(join_clean clean).1, replaceChar_eq_self noBackslash]
  cases segments with
  | nil =>
    decide +kernel
  | cons segment rest =>
    rw [Segments.split_join (List.cons_ne_nil _ _)
      fun other isOther => (clean other isOther).noSlash]
    have same : (segment :: rest).map strip = segment :: rest :=
      (List.map_congr_left fun other isOther =>
        (clean other isOther).unpadded).trans (List.map_id _)
    rw [same]
    exact
      List.filter_eq_self.mpr fun other isOther =>
        (clean other isOther).kept

theorem recordingSegments_sanitize (relativePath : String) :
    recordingSegments (sanitizeRecordingPath relativePath) =
      recordingSegments relativePath :=
  recordingSegments_join fun _ => cleanSegment_of_mem

@[simp]
theorem sanitizeRecordingPath_idem (relativePath : String) :
    sanitizeRecordingPath (sanitizeRecordingPath relativePath) =
      sanitizeRecordingPath relativePath :=
  congrArg (Segments.join '/') (recordingSegments_sanitize relativePath)

/-! ### URLs -/

/-- `str.rstrip("/")`. -/
def rstripSlashes (text : String) : String :=
  String.ofList (text.toList.rdropWhile (· == '/'))

def encodeRecordingPath (cleanRelative : String) : String :=
  Segments.join '/' ((Segments.split '/' cleanRelative).map Percent.quote)

def buildRecordingTargetUrl (baseUrl relativePath : String) : String :=
  let cleanBase := rstripSlashes (strip baseUrl)
  let cleanRelative := sanitizeRecordingPath relativePath
  if cleanBase = "" then
    ""
  else if cleanRelative = "" then
    cleanBase ++ "/"
  else
    cleanBase ++ "/" ++ encodeRecordingPath cleanRelative

def buildRecordingListingUrl (baseUrl relativePath : String) : String :=
  let cleanBase := rstripSlashes (strip baseUrl)
  let cleanRelative := sanitizeRecordingPath relativePath
  if cleanBase = "" then
    ""
  else if cleanRelative = "" then
    cleanBase ++ "/"
  else
    cleanBase ++ "/" ++ encodeRecordingPath cleanRelative ++ "/"

/-- `open_guacamole_recording`, up to the URL that it requests. -/
def openGuacamoleRecording
    (browseUrl relativePath : String) : Except String String :=
  let cleanRelativePath := sanitizeRecordingPath relativePath
  if strip browseUrl = "" then
    .error "Recording browse URL is not configured"
  else if cleanRelativePath = "" then
    .error "Recording path is required"
  else
    .ok (buildRecordingTargetUrl (strip browseUrl) cleanRelativePath)

example :
    buildRecordingListingUrl " http://host/files/ " "a b\\..\\%2e" =
      "http://host/files/a%20b/%252e/" := by
  decide +kernel

def pathSegments (path : String) : List String :=
  if path = "" then [] else Segments.split '/' path

theorem pathSegments_join
    (nonempty : ∀ segment ∈ segments, segment ≠ "")
    (separate : ∀ segment ∈ segments, '/' ∉ segment.toList) :
    pathSegments (Segments.join '/' segments) = segments := by
  cases segments with
  | nil =>
    rfl
  | cons segment rest =>
    have isPath : Segments.join '/' (segment :: rest) ≠ "" := by
      intro isEmpty
      obtain ⟨character, member⟩ :=
        List.exists_mem_of_ne_nil segment.toList fun noCharacters =>
          nonempty segment List.mem_cons_self
            (String.toList_eq_nil_iff.mp noCharacters)
      have inPath : character ∈ (Segments.join '/' (segment :: rest)).toList :=
        Segments.mem_join_of_mem List.mem_cons_self member
      rw [isEmpty] at inPath
      cases inPath
    rw [pathSegments, if_neg isPath,
      Segments.split_join (List.cons_ne_nil _ _) separate]

theorem pathSegments_sanitize (relativePath : String) :
    pathSegments (sanitizeRecordingPath relativePath) =
      recordingSegments relativePath := by
  refine pathSegments_join ?_ ?_
  · intro segment isSegment
    exact (cleanSegment_of_mem isSegment).nonempty
  · intro segment isSegment
    exact (cleanSegment_of_mem isSegment).noSlash

theorem split_sanitize
    {relativePath : String}
    (hasSegments : recordingSegments relativePath ≠ []) :
    sanitizeRecordingPath relativePath ≠ "" ∧
      Segments.split '/' (sanitizeRecordingPath relativePath) =
        recordingSegments relativePath := by
  have parts := pathSegments_sanitize relativePath
  unfold pathSegments at parts
  by_cases isEmpty : sanitizeRecordingPath relativePath = ""
  · rw [if_pos isEmpty] at parts
    exact absurd parts.symm hasSegments
  · rw [if_neg isEmpty] at parts
    exact ⟨isEmpty, parts⟩

theorem quote_ne_empty {text : String} (nonempty : text ≠ "") :
    Percent.quote text ≠ "" := by
  intro isEmpty
  have decoded := Percent.unquote_quote text
  rw [isEmpty] at decoded
  exact nonempty decoded.symm

theorem slash_notMem_quote (text : String) :
    '/' ∉ (Percent.quote text).toList := by
  intro member
  rcases (Percent.encoded_quote text).mem member with isKept | isPercent
  · exact absurd isKept (by decide)
  · exact absurd isPercent (by decide)

/--
A URL leads below a base to some segments: after the base and a slash come
segments that are percent-encoded, and are these when decoded.
-/
def LeadsTo (base url : String) (segments : List String) : Prop :=
  ∃ path,
    url = base ++ "/" ++ path ∧
      (∀ segment ∈ pathSegments path, Percent.Encoded segment.toList) ∧
      (pathSegments path).map Percent.unquote = segments

theorem leadsTo_join
    (base : String)
    (nonempty : ∀ segment ∈ segments, segment ≠ "") :
    LeadsTo base
      (base ++ "/" ++ Segments.join '/' (segments.map Percent.quote))
      segments := by
  have encodedSegments :
      pathSegments (Segments.join '/' (segments.map Percent.quote)) =
        segments.map Percent.quote := by
    refine pathSegments_join ?_ ?_
    · intro encoded isEncoded
      obtain ⟨segment, isSegment, rfl⟩ := List.mem_map.mp isEncoded
      exact quote_ne_empty (nonempty segment isSegment)
    · intro encoded isEncoded
      obtain ⟨segment, -, rfl⟩ := List.mem_map.mp isEncoded
      exact slash_notMem_quote segment
  refine ⟨_, rfl, ?_, ?_⟩
  · intro encoded isEncoded
    rw [encodedSegments] at isEncoded
    obtain ⟨segment, -, rfl⟩ := List.mem_map.mp isEncoded
    exact Percent.encoded_quote segment
  · rw [encodedSegments, List.map_map]
    exact
      (List.map_congr_left fun segment _ =>
        Percent.unquote_quote segment).trans (List.map_id _)

theorem leadsTo_targetUrl
    {baseUrl : String}
    (hasBase : rstripSlashes (strip baseUrl) ≠ "")
    (relativePath : String) :
    LeadsTo (rstripSlashes (strip baseUrl))
      (buildRecordingTargetUrl baseUrl relativePath)
      (pathSegments (sanitizeRecordingPath relativePath)) := by
  have kept :
      ∀ segment ∈ pathSegments (sanitizeRecordingPath relativePath),
        segment ≠ "" := by
    intro segment isSegment
    rw [pathSegments_sanitize] at isSegment
    exact (cleanSegment_of_mem isSegment).nonempty
  have leads := leadsTo_join (rstripSlashes (strip baseUrl)) kept
  unfold buildRecordingTargetUrl
  dsimp only
  rw [if_neg hasBase]
  by_cases isEmpty : sanitizeRecordingPath relativePath = ""
  · rw [if_pos isEmpty]
    rw [isEmpty] at leads ⊢
    have noPath :
        Segments.join '/' ((pathSegments "").map Percent.quote) = "" := by
      decide
    rwa [noPath, String.append_empty] at leads
  · rw [if_neg isEmpty]
    unfold pathSegments at leads ⊢
    rw [if_neg isEmpty] at leads ⊢
    exact leads

theorem listingUrl_eq
    {baseUrl : String}
    (hasBase : rstripSlashes (strip baseUrl) ≠ "")
    (relativePath : String) :
    buildRecordingListingUrl baseUrl relativePath =
      buildRecordingTargetUrl baseUrl relativePath ++
        (if sanitizeRecordingPath relativePath = "" then "" else "/") := by
  unfold buildRecordingListingUrl buildRecordingTargetUrl
  dsimp only
  rw [if_neg hasBase, if_neg hasBase]
  split
  · rw [String.append_empty]
  · rfl

end RpaPlatform.Agents
