import RpaPlatform.AgentLifecycle
import RpaPlatform.RecordingRoundTrip

namespace RpaPlatform.Agents

open Tasks (Json)

/-!
# The hint for a recording, read back

The hint for a recording holds the path that it is expected under.  Here the
path is followed from the path template to the values that reading gives.
-/

/-! ### Paths put together -/

theorem recordingSegments_append
    {first second : String}
    (firstUnpadded : strip first = first)
    (secondUnpadded : strip second = second)
    (firstNonempty : first ≠ "")
    (secondNonempty : second ≠ "") :
    recordingSegments (first ++ "/" ++ second) =
      recordingSegments first ++ recordingSegments second := by
  have firstCharacters : first.toList ≠ [] :=
    fun isEmpty => firstNonempty (String.toList_eq_nil_iff.mp isEmpty)
  have secondCharacters : second.toList ≠ [] :=
    fun isEmpty => secondNonempty (String.toList_eq_nil_iff.mp isEmpty)
  have whole :
      (first ++ "/" ++ second).toList =
        first.toList ++ '/' :: second.toList := by
    simp
  have unpadded : strip (first ++ "/" ++ second) = first ++ "/" ++ second := by
    rw [strip_eq_self_iff, whole,
      List.head?_append_of_ne_nil _ firstCharacters,
      List.getLast?_append_of_ne_nil _ (List.cons_ne_nil _ _),
      ← List.singleton_append,
      List.getLast?_append_of_ne_nil _ secondCharacters]
    exact
      ⟨(strip_eq_self_iff.mp firstUnpadded).1,
        (strip_eq_self_iff.mp secondUnpadded).2⟩
  unfold recordingSegments Segments.split
  dsimp only
  rw [unpadded, firstUnpadded, secondUnpadded]
  unfold replaceChar
  rw [whole]
  simp only [String.toList_ofList, List.map_append, List.map_cons]
  rw [if_neg (by decide), List.splitOn_append_cons_self, List.map_append,
    List.map_append, List.filter_append]

theorem strip_ensureRecordingFilename
    (library : TextLibrary)
    (text : String) :
    strip (ensureRecordingFilename library text) =
      ensureRecordingFilename library text := by
  unfold ensureRecordingFilename
  dsimp only
  split
  · exact strip_strip text
  · rename_i notComplete
    have nonempty : (strip text).toList ≠ [] := by
      intro isEmpty
      rw [String.toList_eq_nil_iff.mp isEmpty] at notComplete
      exact notComplete rfl
    rw [strip_eq_self_iff, String.toList_append,
      List.head?_append_of_ne_nil _ nonempty,
      List.getLast?_append_of_ne_nil _ (by decide)]
    refine ⟨(strip_eq_self_iff.mp (strip_strip text)).1, ?_⟩
    rintro _ ⟨⟩
    decide

theorem posixJoin_eq
    {directory name : String}
    (relative : name.toList.head? ≠ some '/')
    (nonempty : directory ≠ "")
    (noSlash : directory.toList.getLast? ≠ some '/') :
    posixJoin directory name = directory ++ "/" ++ name := by
  unfold posixJoin
  rw [if_neg relative, if_neg (by simp [nonempty, noSlash])]

/-! ### The segments of a template -/

variable
    {Item : Type}
    {items : List TemplateItem}

theorem mem_dropWhile_of_not
    {drops : Item → Bool}
    {items : List Item}
    {item : Item}
    (member : item ∈ items)
    (isKept : drops item = false) :
    item ∈ items.dropWhile drops := by
  rw [← List.takeWhile_append_dropWhile (p := drops) (l := items),
    List.mem_append] at member
  rcases member with isTaken | isLater
  · rw [List.mem_takeWhile_imp isTaken] at isKept
    cases isKept
  · exact isLater

theorem placeholder_mem_stripItems
    {name : String}
    (member : .placeholder name ∈ items) :
    .placeholder name ∈ stripItems items := by
  unfold stripItems List.rdropWhile
  rw [List.mem_reverse]
  refine mem_dropWhile_of_not (List.mem_reverse.mpr ?_) rfl
  exact mem_dropWhile_of_not member rfl

theorem exists_part_of_mem
    [DecidableEq Item]
    {separator item : Item}
    {items : List Item}
    (member : item ∈ items)
    (isOther : item ≠ separator) :
    ∃ part ∈ items.splitOn separator, item ∈ part := by
  induction items with
  | nil =>
    cases member
  | cons first rest inductionHypothesis =>
    rw [List.splitOn_cons_eq_if_modifyHead]
    by_cases isSeparator : (first == separator) = true
    · rw [if_pos isSeparator]
      have isLater : item ∈ rest := by
        rcases List.mem_cons.mp member with rfl | isLater
        · exact absurd (beq_iff_eq.mp isSeparator) isOther
        · exact isLater
      obtain ⟨part, isPart, inPart⟩ := inductionHypothesis isLater
      exact ⟨part, List.mem_cons_of_mem _ isPart, inPart⟩
    · rw [if_neg isSeparator]
      cases parts : rest.splitOn separator with
      | nil =>
        exact absurd parts (List.splitOn_ne_nil _ _)
      | cons head later =>
        rw [List.modifyHead_cons]
        rcases List.mem_cons.mp member with rfl | isLater
        · exact ⟨_, List.mem_cons_self, List.mem_cons_self⟩
        · obtain ⟨part, isPart, inPart⟩ :=
            inductionHypothesis isLater
          rw [parts] at isPart
          rcases List.mem_cons.mp isPart with rfl | inLater
          · exact ⟨_, List.mem_cons_self, List.mem_cons_of_mem _ inPart⟩
          · exact ⟨part, List.mem_cons_of_mem _ inLater, inPart⟩

theorem exists_segment
    {name : String}
    (member : .placeholder name ∈ items) :
    ∃ segment ∈ templateSegments items, name ∈ placeholderNames segment := by
  have inStripped :
      .placeholder name ∈ (stripItems items).map TemplateItem.unbackslash :=
    List.mem_map.mpr ⟨.placeholder name, placeholder_mem_stripItems member, rfl⟩
  obtain ⟨part, isPart, inPart⟩ :=
    exists_part_of_mem inStripped
      (show TemplateItem.placeholder name ≠ .literal '/' by nofun)
  have inSegment := placeholder_mem_stripItems inPart
  refine ⟨stripItems part, ?_, mem_placeholderNames.mpr inSegment⟩
  refine List.mem_filter.mpr ⟨List.mem_map_of_mem isPart, ?_⟩
  unfold keepsItems
  refine decide_eq_true ?_
  intro isDropped
  simp only [List.mem_cons, List.not_mem_nil, or_false] at isDropped
  rcases isDropped with same | same | same
  · rw [same] at inSegment
    cases inSegment
  · simp [same] at inSegment
  · simp [same] at inSegment

theorem templateSegments_stripItems (items : List TemplateItem) :
    templateSegments (stripItems items) = templateSegments items := by
  have same : stripItems (stripItems items) = stripItems items :=
    dropEnds_dropEnds _ _
  unfold templateSegments
  rw [same]

theorem plain_templateSegments
    {items segment : List TemplateItem}
    (plain : PlainTemplate items)
    (isSegment : segment ∈ templateSegments items) :
    PlainTemplate segment := by
  obtain ⟨isPart, -⟩ := List.mem_filter.mp isSegment
  obtain ⟨part, inSplit, rfl⟩ := List.mem_map.mp isPart
  intro item member
  obtain ⟨original, isItem, rfl⟩ :=
    List.mem_map.mp (mem_of_mem_splitOn inSplit (mem_of_mem_stripItems member))
  have isPlain := plain original (mem_of_mem_stripItems isItem)
  cases original with
  | literal character =>
    change (if character = '\\' then '/' else character) ≠ '{' ∧ _ ≠ '}'
    split
    · decide
    · exact isPlain
  | placeholder name =>
    exact isPlain

theorem PlainTemplate.mono
    {items part : List TemplateItem}
    (plain : PlainTemplate items)
    (isPart : ∀ item ∈ part, item ∈ items) :
    PlainTemplate part :=
  fun item member => plain item (isPart item member)

theorem PlainTemplate.fillsBraced
    (plain : PlainTemplate items) :
    FillsSegments braced items :=
  fun name member => inSegment_braced (plain (.placeholder name) member)

theorem PlainTemplate.fillsValues
    {values : String → List Char}
    (plain : PlainTemplate items)
    (areValues : ∀ name ∈ pathPlaceholders, PathValue (values name)) :
    FillsSegments values items :=
  fun name member =>
    (areValues name (plain (.placeholder name) member)).inSegment

theorem isDynamicPart_braced
    {segment : List TemplateItem}
    (plain : PlainTemplate segment) :
    isDynamicPart (String.ofList (fillItems braced segment)) =
      decide (placeholderNames segment ≠ []) := by
  have isBraced :
      ∀ character, character = '{' ∨ character = '}' →
        (character ∈ fillItems braced segment ↔
          placeholderNames segment ≠ []) := by
    intro character isBrace
    constructor
    · intro member noNames
      obtain ⟨item, isItem, inText⟩ := List.mem_flatMap.mp member
      have isPlain := plain item isItem
      cases item with
      | literal other =>
        rw [List.mem_singleton.mp inText] at isBrace
        rcases isBrace with isOpen | isClose
        · exact isPlain.1 isOpen
        · exact isPlain.2 isClose
      | placeholder name =>
        have isName := mem_placeholderNames.mpr isItem
        rw [noNames] at isName
        cases isName
    · intro hasNames
      obtain ⟨name, isName⟩ := List.exists_mem_of_ne_nil _ hasNames
      refine List.mem_flatMap.mpr ⟨_, mem_placeholderNames.mp isName, ?_⟩
      change character ∈ '{' :: (name.toList ++ ['}'])
      rcases isBrace with rfl | rfl
      · exact List.mem_cons_self
      · exact List.mem_cons_of_mem _ (by simp)
  unfold isDynamicPart
  rw [String.toList_ofList, Bool.eq_iff_iff, Bool.and_eq_true,
    decide_eq_true_iff, decide_eq_true_iff, decide_eq_true_iff,
    isBraced '{' (.inl rfl), isBraced '}' (.inr rfl), and_self]

/-! ### Reading a rendered path -/

def dynamicSegments
    (segments : List (List TemplateItem)) : List (List TemplateItem) :=
  segments.dropWhile fun segment => decide (placeholderNames segment = [])

theorem names_of_mem_takeWhile
    {segments : List (List TemplateItem)}
    {segment : List TemplateItem}
    (isTaken :
      segment ∈
        segments.takeWhile fun segment =>
          decide (placeholderNames segment = [])) :
    placeholderNames segment = [] := by
  have noNames := List.mem_takeWhile_imp isTaken
  exact of_decide_eq_true noNames

theorem lastWith_dynamicSegments
    (name : String)
    (segments : List (List TemplateItem)) :
    lastWith name (dynamicSegments segments) = lastWith name segments := by
  have nothingTaken :
      (segments.takeWhile fun segment =>
          decide (placeholderNames segment = [])).filter
          (fun segment => decide (name ∈ placeholderNames segment)) =
        [] := by
    refine List.filter_eq_nil_iff.mpr fun segment isTaken => ?_
    rw [names_of_mem_takeWhile isTaken]
    simp
  have whole :=
    List.takeWhile_append_dropWhile
      (p := fun segment => decide (placeholderNames segment = []))
      (l := segments)
  unfold lastWith dynamicSegments
  conv_rhs => rw [← whole, List.filter_append, nothingTaken]
  rfl

theorem drop_dropWhile
    (drops : Item → Bool)
    (items : List Item) :
    items.drop (items.length - (items.dropWhile drops).length) =
      items.dropWhile drops := by
  obtain ⟨leading, whole⟩ := List.dropWhile_suffix drops (l := items)
  have lengths := congrArg List.length whole
  rw [List.length_append] at lengths
  have isLeading :
      items.length - (items.dropWhile drops).length = leading.length := by
    omega
  rw [isLeading]
  conv_lhs => rw [← whole, List.drop_left]

/-- The texts of segments. -/
def segmentTexts
    (fill : String → List Char)
    (segments : List (List TemplateItem)) : List String :=
  segments.map fun segment => String.ofList (fillItems fill segment)

theorem dropWhile_segmentTexts
    {segments : List (List TemplateItem)}
    (plain : ∀ segment ∈ segments, PlainTemplate segment) :
    (segmentTexts braced segments).dropWhile
        (fun part => !isDynamicPart part) =
      segmentTexts braced (dynamicSegments segments) := by
  unfold segmentTexts dynamicSegments
  induction segments with
  | nil =>
    rfl
  | cons segment rest inductionHypothesis =>
    have isDynamic :=
      isDynamicPart_braced (plain segment List.mem_cons_self)
    rw [List.map_cons, List.dropWhile_cons, List.dropWhile_cons, isDynamic]
    by_cases noNames : placeholderNames segment = []
    · rw [if_pos (by simp [noNames]), if_pos (by simp [noNames])]
      exact
        inductionHypothesis fun other isLater =>
          plain other (List.mem_cons_of_mem _ isLater)
    · rw [if_neg (by simp [noNames]), if_neg (by simp [noNames])]
      rfl

/--
A path of rendered segments and a name is read, by the template of the
segments, from the first segment that has a placeholder.
-/
theorem parse_rendered
    {values : String → List Char}
    (plain : PlainTemplate items)
    (dynamic : dynamicSegments (templateSegments items) ≠ [])
    {relativePath name : String}
    (isPath :
      recordingSegments relativePath =
        segmentTexts values (templateSegments items) ++ [name]) :
    parseRecordingTemplateMetadata relativePath
        (String.ofList (fillItems braced items)) =
      readSegments []
        (renderedPairs values (dynamicSegments (templateSegments items))) := by
  have templateParts :
      recordingSegments (String.ofList (fillItems braced items)) =
        segmentTexts braced (templateSegments items) :=
    recordingSegments_fillItems plain.fillsBraced
  have someSegments : templateSegments items ≠ [] := by
    intro noSegments
    rw [noSegments] at dynamic
    exact dynamic rfl
  obtain ⟨pathNonempty, pathParts⟩ :=
    @split_sanitize relativePath (by rw [isPath]; simp)
  obtain ⟨templateNonempty, writtenParts⟩ :=
    @split_sanitize (String.ofList (fillItems braced items)) (by
      rw [templateParts]
      unfold segmentTexts
      rw [ne_eq, List.map_eq_nil_iff]
      exact someSegments)
  have plainSegments :
      ∀ segment ∈ templateSegments items, PlainTemplate segment :=
    fun segment isSegment => plain_templateSegments plain isSegment
  unfold parseRecordingTemplateMetadata
  dsimp only
  rw [pathParts, writtenParts, isPath, templateParts,
    dropWhile_segmentTexts plainSegments, List.dropLast_concat,
    if_neg (by simp [pathNonempty, templateNonempty])]
  have fewer :
      (dynamicSegments (templateSegments items)).length ≤
        (templateSegments items).length :=
    (List.dropWhile_suffix _).length_le
  have candidates :
      (segmentTexts values (templateSegments items)).drop
          ((segmentTexts values (templateSegments items)).length -
            (segmentTexts braced
              (dynamicSegments (templateSegments items))).length) =
        segmentTexts values (dynamicSegments (templateSegments items)) := by
    unfold segmentTexts
    rw [List.length_map, List.length_map, ← List.map_drop]
    unfold dynamicSegments
    rw [drop_dropWhile]
  have enough :
      ¬ (decide
            (segmentTexts braced
                (dynamicSegments (templateSegments items)) =
              []) ||
          decide
            ((segmentTexts values (templateSegments items)).length <
              (segmentTexts braced
                (dynamicSegments (templateSegments items))).length)) =
        true := by
    unfold segmentTexts
    rw [List.length_map, List.length_map, Bool.or_eq_true,
      decide_eq_true_iff, decide_eq_true_iff, List.map_eq_nil_iff]
    exact not_or.mpr ⟨dynamic, Nat.not_lt.mpr fewer⟩
  rw [candidates, if_neg enough]
  unfold segmentTexts renderedPairs
  rw [List.zip_map']

/-! ### The values of a recording -/

/-- What `str.format_map` does with a plain template. -/
def FormatsPlain
    (formatMap : String → List (String × String) → Option String) : Prop :=
  ∀ items values,
    PlainTemplate items →
      formatMap (String.ofList (fillItems braced items)) values =
        some
          (String.ofList
            (fillItems
              (fun name => ((values.lookup name).getD "").toList) items))

section Hint

variable
    (library : TextLibrary)
    (config : ProvisioningConfig)
    (agentId : String)
    (mapping : JsonObject)
    (hostname : String)
    (owner : RecordingOwner)
    (timestamp : String)

def recordingValue (name : String) : String :=
  ((recordingValues library config agentId mapping hostname owner
    timestamp).lookup name).getD ""

theorem recordingValue_agentId :
    recordingValue library config agentId mapping hostname owner timestamp
        "agent_id" =
      sanitizeRecordingValue (strip agentId) := by
  unfold recordingValue recordingValues buildRecordingValues
  dsimp only
  rw [Dictionary.lookup_update_other (by simp)]
  split
  · rw [Dictionary.lookup_set_other (by decide),
      Dictionary.lookup_set_other (by decide)]
    rfl
  · rfl

theorem recordingValue_username :
    recordingValue library config agentId mapping hostname owner timestamp
        "username" =
      orText (sanitizeRecordingValue owner.username)
        (sanitizeRecordingValue (cleanField library mapping "username")) := by
  unfold recordingValue recordingValues buildRecordingValues orText
  dsimp only
  rw [Dictionary.lookup_update_other (by simp)]
  split
  · rw [Dictionary.lookup_set_self]
    rfl
  · rfl

/-- A path template of literals and placeholders that a path is rendered by. -/
structure RendersPath (items : List TemplateItem) : Prop where
  formats : FormatsPlain config.templates.formatMap
  enabled : config.recording.enabled = true
  configured : config.recording.configured = true
  template :
    config.recording.pathTemplate = String.ofList (fillItems braced items)
  plain : PlainTemplate items
  /-- Each of the placeholders occurs. -/
  named : ∀ name ∈ pathPlaceholders, .placeholder name ∈ items
  nonempty :
    ∀ name ∈ pathPlaceholders,
      recordingValue library config agentId mapping hostname owner timestamp
          name ≠
        ""

def NamesOneSegment (name : String) : Prop :=
  name.toList.head? ≠ some '/' ∧ (recordingSegments name).length = 1

/--
Reading the path of the hint gives exactly the sanitised agent id and user name
that it has been rendered with, and does not raise.
-/
def RoundTrips : Prop :=
  ∃ hint,
    buildRecordingEntryHint library config agentId mapping hostname owner
          timestamp =
        some hint ∧
      ∃ values,
        parseRecordingTemplateMetadata hint.relativePath
              config.recording.pathTemplate =
            .ok values ∧
          ∀ key, values.lookup key = if key ∈ pathPlaceholders then
                some
                  (recordingValue library config agentId mapping hostname
                    owner timestamp key)
              else
                none

/--
No segment has a placeholder twice, and the last segment with each placeholder
is split where its values have been put together.
-/
structure ReadsBack
    (values : String → List Char)
    (segments : List (List TemplateItem)) : Prop where
  unrepeated : ∀ segment ∈ segments, (placeholderNames segment).Nodup
  right :
    ∀ name ∈ pathPlaceholders,
      ∀ segment ∈ lastWith name segments, ReadsRight values segment

def valueCharacters (name : String) : List Char :=
  (recordingValue library config agentId mapping hostname owner timestamp
    name).toList

variable
    {library config agentId mapping hostname owner timestamp}
    {items : List TemplateItem}

theorem pathValue_valueCharacters
    (renders :
      RendersPath library config agentId mapping hostname owner timestamp
        items) :
    ∀ name ∈ pathPlaceholders,
      PathValue
        (valueCharacters library config agentId mapping hostname owner
          timestamp name) := by
  intro name isPlaceholder
  have nonempty := renders.nonempty name isPlaceholder
  unfold valueCharacters
  simp only [pathPlaceholders, List.mem_cons, List.not_mem_nil, or_false]
    at isPlaceholder
  rcases isPlaceholder with rfl | rfl
  · rw [recordingValue_agentId] at nonempty ⊢
    exact pathValue_sanitize nonempty
  · rw [recordingValue_username] at nonempty ⊢
    unfold orText at nonempty ⊢
    split at nonempty
    · rename_i hasOwner
      rw [if_pos hasOwner]
      exact pathValue_sanitize hasOwner
    · rename_i noOwner
      rw [if_neg noOwner]
      exact pathValue_sanitize nonempty

theorem recordingSegments_posixJoin
    {directory name : String}
    (someSegments : recordingSegments directory ≠ [])
    (unpadded : strip name = name)
    (oneSegment : NamesOneSegment name) :
    recordingSegments (posixJoin (sanitizeRecordingPath directory) name) =
      recordingSegments directory ++ recordingSegments name := by
  have directoryNonempty := (split_sanitize someSegments).1
  have clean : ∀ segment ∈ recordingSegments directory, CleanSegment segment :=
    fun _ isSegment => cleanSegment_of_mem isSegment
  have nameNonempty : name ≠ "" := by
    rintro rfl
    exact absurd oneSegment.2 (by decide +kernel)
  have directoryUnpadded :
      strip (sanitizeRecordingPath directory) =
        sanitizeRecordingPath directory :=
    (join_clean clean).1
  rw [posixJoin_eq oneSegment.1 directoryNonempty (join_clean clean).2,
    recordingSegments_append directoryUnpadded unpadded directoryNonempty
      nameNonempty,
    recordingSegments_sanitize]

/-- The hint for a recording leads through the rendered segments to a name. -/
theorem exists_hint
    (renders :
      RendersPath library config agentId mapping hostname owner timestamp items)
    (oneSegment :
      NamesOneSegment
        (recordingName library config agentId mapping hostname owner
          timestamp)) :
    ∃ hint name,
      buildRecordingEntryHint library config agentId mapping hostname owner
            timestamp =
          some hint ∧
        recordingSegments hint.relativePath =
          segmentTexts
              (valueCharacters library config agentId mapping hostname owner
                timestamp)
              (templateSegments items) ++
            [name] := by
  have areValues := pathValue_valueCharacters renders
  have plain := renders.plain
  have hasAgent :=
    renders.named "agent_id" List.mem_cons_self
  have inStripped := placeholder_mem_stripItems hasAgent
  have plainStripped : PlainTemplate (stripItems items) :=
    plain.mono fun _ => mem_of_mem_stripItems
  have writtenNonempty :
      String.ofList (fillItems braced (stripItems items)) ≠ "" := by
    intro isEmpty
    have characters :
        '{' ∈ (String.ofList (fillItems braced (stripItems items))).toList := by
      rw [String.toList_ofList]
      exact List.mem_flatMap.mpr ⟨_, inStripped, List.mem_cons_self⟩
    rw [isEmpty] at characters
    cases characters
  have rendered :
      config.templates.renderTemplate (strip config.recording.pathTemplate)
          (recordingValues library config agentId mapping hostname owner
            timestamp) =
        String.ofList
          (fillItems
            (valueCharacters library config agentId mapping hostname owner
              timestamp)
            (stripItems items)) := by
    rw [renders.template, strip_fillItems plain.fillsBraced]
    unfold MappingTemplates.renderTemplate
    rw [if_neg writtenNonempty, renders.formats _ _ plainStripped]
    rfl
  have directorySegments :
      recordingSegments
          (String.ofList
            (fillItems
              (valueCharacters library config agentId mapping hostname owner
                timestamp)
              (stripItems items))) =
        segmentTexts
          (valueCharacters library config agentId mapping hostname owner
            timestamp)
          (templateSegments items) := by
    rw [recordingSegments_fillItems (plainStripped.fillsValues areValues),
      templateSegments_stripItems]
    rfl
  obtain ⟨segment, isSegment, -⟩ := exists_segment hasAgent
  have someTexts :
      segmentTexts
          (valueCharacters library config agentId mapping hostname owner
            timestamp)
          (templateSegments items) ≠
        [] := by
    unfold segmentTexts
    rw [ne_eq, List.map_eq_nil_iff]
    exact List.ne_nil_of_mem isSegment
  rw [← directorySegments] at someTexts
  obtain ⟨name, isName⟩ := List.length_eq_one_iff.mp oneSegment.2
  have unpadded :
      strip
          (recordingName library config agentId mapping hostname owner
            timestamp) =
        recordingName library config agentId mapping hostname owner timestamp :=
    strip_ensureRecordingFilename library _
  have isPath := recordingSegments_posixJoin someTexts unpadded oneSegment
  rw [directorySegments, isName] at isPath
  have pathNonempty :=
    (@split_sanitize
      (posixJoin
        (sanitizeRecordingPath
          (String.ofList
            (fillItems
              (valueCharacters library config agentId mapping hostname owner
                timestamp)
              (stripItems items))))
        (recordingName library config agentId mapping hostname owner timestamp))
      (by rw [isPath]; simp)).1
  have switchedOn :
      ¬ (!config.recording.enabled || !config.recording.configured) = true := by
    rw [renders.enabled, renders.configured]
    decide
  unfold buildRecordingEntryHint
  dsimp only
  rw [rendered, if_neg switchedOn, if_neg pathNonempty]
  refine ⟨_, name, rfl, ?_⟩
  dsimp only
  rw [recordingSegments_sanitize, isPath]

variable {name : String}

theorem dynamicSegments_ne_nil
    (member : .placeholder name ∈ items) :
    dynamicSegments (templateSegments items) ≠ [] := by
  obtain ⟨segment, isSegment, isName⟩ := exists_segment member
  have hasNames : placeholderNames segment ≠ [] := List.ne_nil_of_mem isName
  exact
    List.ne_nil_of_mem
      (mem_dropWhile_of_not isSegment (decide_eq_false hasNames))

theorem exists_lastWith
    (member : .placeholder name ∈ items) :
    ∃ segment, lastWith name (templateSegments items) = some segment := by
  obtain ⟨segment, isSegment, isName⟩ := exists_segment member
  refine ⟨_, List.getLast?_eq_some_getLast ?_⟩
  exact
    List.ne_nil_of_mem (List.mem_filter.mpr ⟨isSegment, decide_eq_true isName⟩)

theorem lastWith_eq_none
    (plain : PlainTemplate items)
    (isOther : name ∉ pathPlaceholders) :
    lastWith name (templateSegments items) = none := by
  unfold lastWith
  rw [List.getLast?_eq_none_iff, List.filter_eq_nil_iff]
  intro segment isSegment isName
  have member := mem_placeholderNames.mp (of_decide_eq_true isName)
  exact isOther (plain_templateSegments plain isSegment _ member)

/--
Reading a rendered path gives the values back exactly if no segment has a
placeholder twice and the last segments with the placeholders split right.
-/
theorem roundTrips_iff
    (renders :
      RendersPath library config agentId mapping hostname owner timestamp items)
    (oneSegment :
      NamesOneSegment
        (recordingName library config agentId mapping hostname owner
          timestamp)) :
    RoundTrips library config agentId mapping hostname owner timestamp ↔
      ReadsBack
        (valueCharacters library config agentId mapping hostname owner
          timestamp)
        (templateSegments items) := by
  obtain ⟨hint, name, isHint, isPath⟩ := exists_hint renders oneSegment
  have areValues := pathValue_valueCharacters renders
  have plain := renders.plain
  have plainSegments :
      ∀ segment ∈ templateSegments items, PlainTemplate segment :=
    fun segment isSegment => plain_templateSegments plain isSegment
  have isDynamic :
      ∀ segment ∈ dynamicSegments (templateSegments items),
        segment ∈ templateSegments items :=
    fun _ member => (List.dropWhile_suffix _).subset member
  have parsed :=
    parse_rendered plain
      (dynamicSegments_ne_nil
        (renders.named "agent_id" (List.mem_cons_self ..)))
      isPath
  rw [← renders.template] at parsed
  have unfolded :
      RoundTrips library config agentId mapping hostname owner timestamp ↔
        ∃ values,
          readSegments []
                (renderedPairs
                  (valueCharacters library config agentId mapping hostname
                    owner timestamp)
                  (dynamicSegments (templateSegments items))) =
              .ok values ∧
            ∀ key, values.lookup key = if key ∈ pathPlaceholders then
                  some
                    (recordingValue library config agentId mapping hostname
                      owner timestamp key)
                else
                  none := by
    unfold RoundTrips
    rw [isHint, ← parsed]
    simp
  rw [unfolded]
  by_cases unrepeated :
      ∀ segment ∈ templateSegments items, (placeholderNames segment).Nodup
  · obtain ⟨values, reads, readsLast⟩ :=
      readSegments_rendered
        (fun segment isSegment =>
          plainSegments segment (isDynamic segment isSegment))
        (fun segment isSegment =>
          unrepeated segment (isDynamic segment isSegment))
        areValues []
    rw [reads]
    constructor
    · rintro ⟨_, same, found⟩
      obtain rfl := Except.ok.inj same
      refine ⟨unrepeated, fun name isPlaceholder segment isLast => ?_⟩
      have last := readsLast name
      unfold ReadsLast at last
      rw [lastWith_dynamicSegments, Option.mem_def.mp isLast] at last
      refine last.2.mp ?_
      rw [found name, if_pos isPlaceholder]
      unfold valueCharacters
      rw [String.ofList_toList]
    · intro readsBack
      refine ⟨values, rfl, fun key => ?_⟩
      have last := readsLast key
      unfold ReadsLast at last
      rw [lastWith_dynamicSegments] at last
      by_cases isPlaceholder : key ∈ pathPlaceholders
      · obtain ⟨segment, isLast⟩ :=
          exists_lastWith (renders.named key isPlaceholder)
        rw [isLast] at last
        rw [if_pos isPlaceholder,
          last.2.mpr (readsBack.right key isPlaceholder segment isLast)]
        unfold valueCharacters
        rw [String.ofList_toList]
      · rw [lastWith_eq_none plain isPlaceholder] at last
        rw [if_neg isPlaceholder]
        exact last
  · -- A segment that repeats a placeholder has placeholders.
    have repeated :
        ∃ segment ∈ dynamicSegments (templateSegments items),
          ¬ (placeholderNames segment).Nodup := by
      by_contra isUnrepeated
      refine unrepeated fun segment isSegment => ?_
      by_cases noNames : placeholderNames segment = []
      · rw [noNames]
        exact List.nodup_nil
      · by_contra isRepeated
        exact
          isUnrepeated
            ⟨segment,
              mem_dropWhile_of_not isSegment (decide_eq_false noNames),
              isRepeated⟩
    rw [readSegments_repeated
      (fun segment isSegment =>
        plainSegments segment (isDynamic segment isSegment))
      repeated areValues]
    exact
      iff_of_false (fun ⟨_, same, _⟩ => nomatch same)
        fun readsBack => unrepeated readsBack.unrepeated

end Hint

/-- `str.format_map` for templates whose braces are those of placeholders. -/
def formatPlain
    (template : String)
    (values : List (String × String)) : Option String :=
  some
    (String.ofList
      (fillItems (fun name => ((values.lookup name).getD "").toList)
        (scanTemplate 0 template.toList)))

theorem formatsPlain_formatPlain : FormatsPlain formatPlain := by
  intro items values plain
  unfold formatPlain
  rw [String.toList_ofList, scanTemplate_braced plain]

/-- Recordings below one directory for each agent and user. -/
def pairedRecordings (pathTemplate : String) : ProvisioningConfig where
  templates := { formatMap := formatPlain }
  recording :=
    { enabled := true
      configured := true
      pathTemplate
      nameTemplate := "{connection_name}-{timestamp}.guac" }

/-- A template whose separator is in neither value. -/
theorem roundTrips_at :
    RoundTrips asciiTextLibrary (pairedRecordings "rec/{agent_id}@{username}")
      "vm-7" [("username", .str "anna")] "host" {} "1" := by
  have renders :
      RendersPath asciiTextLibrary
        (pairedRecordings "rec/{agent_id}@{username}") "vm-7"
        [("username", .str "anna")] "host" {} "1"
        (literalItems "rec/".toList ++
          .placeholder "agent_id" ::
            (literalItems "@".toList ++ [.placeholder "username"])) :=
    { formats := formatsPlain_formatPlain
      enabled := rfl
      configured := rfl
      template := by decide
      plain := by decide
      named := by decide
      nonempty := by decide +kernel }
  refine (roundTrips_iff renders ⟨?_, ?_⟩).mpr ⟨?_, ?_⟩
  · decide +kernel
  · decide +kernel
  · decide +kernel
  · decide +kernel

/-- An agent id with the separator in it is read up to the separator. -/
theorem not_roundTrips :
    ¬ RoundTrips asciiTextLibrary (pairedRecordings "{agent_id}-{username}")
        "vm-7" [("username", .str "anna")] "host" {} "1" := by
  rintro ⟨hint, isHint, values, parsed, found⟩
  have isPath :
      (buildRecordingEntryHint asciiTextLibrary
            (pairedRecordings "{agent_id}-{username}") "vm-7"
            [("username", .str "anna")] "host" {} "1").map
          RecordingHint.relativePath =
        some "vm-7-anna/-1.guac" := by
    decide +kernel
  have isRead :
      parseRecordingTemplateMetadata "vm-7-anna/-1.guac"
          (pairedRecordings "{agent_id}-{username}").recording.pathTemplate =
        .ok [("agent_id", "vm"), ("username", "7-anna")] := by
    decide +kernel
  have isAgent :
      recordingValue asciiTextLibrary
          (pairedRecordings "{agent_id}-{username}") "vm-7"
          [("username", .str "anna")] "host" {} "1" "agent_id" =
        "vm-7" := by
    decide +kernel
  rw [isHint, Option.map_some, Option.some_inj] at isPath
  rw [isPath, isRead] at parsed
  obtain rfl := Except.ok.inj parsed
  have isPlaceholder : "agent_id" ∈ pathPlaceholders := by
    decide
  have agentFound := found "agent_id"
  rw [if_pos isPlaceholder, isAgent] at agentFound
  revert agentFound
  decide

end RpaPlatform.Agents
