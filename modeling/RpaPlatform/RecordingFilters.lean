import RpaPlatform.AgentLifecycle
import RpaPlatform.RecordingInventory

namespace RpaPlatform.Agents

/-!
# Filtering the inventory of recordings

A filter ought to select entries of the unfiltered inventory.  Where a path
does not say whose recording it leads to, however, the inventory takes the
filter's word for it.
-/

/-! ### Lists -/

theorem of_countP_eq
    {Item : Type*}
    {stronger weaker : Item → Bool}
    {items : List Item}
    (implies : ∀ item ∈ items, stronger item = true → weaker item = true)
    (same : items.countP stronger = items.countP weaker) :
    ∀ item ∈ items, weaker item = true → stronger item = true := by
  induction items with
  | nil =>
    exact nofun
  | cons first rest inductionHypothesis =>
    have restImplies := fun item isLater =>
      implies item (List.mem_cons_of_mem first isLater)
    have fewer := List.countP_mono_left restImplies
    rw [List.countP_cons, List.countP_cons] at same
    have firstImplies := implies first List.mem_cons_self
    have firstSame : weaker first = true → stronger first = true := by
      intro isWeaker
      by_contra notStronger
      rw [if_neg notStronger, if_pos isWeaker] at same
      omega
    have restSame : rest.countP stronger = rest.countP weaker := by
      by_cases isWeaker : weaker first = true
      · rw [if_pos isWeaker, if_pos (firstSame isWeaker)] at same
        omega
      · rw [if_neg isWeaker,
          if_neg fun isStronger => isWeaker (firstImplies isStronger)]
          at same
        omega
    intro item member isWeaker
    rcases List.mem_cons.mp member with rfl | isLater
    · exact firstSame isWeaker
    · exact inductionHypothesis restImplies restSame item isLater isWeaker

/--
Texts of items that can only change to one value are the same where this value
is as frequent as before.
-/
theorem eq_of_countP_eq
    {Item : Type*}
    {first second : Item → String}
    {value : String}
    {items : List Item}
    (changes : ∀ item, first item = second item ∨ first item = value)
    (same :
      items.countP (fun item => decide (second item = value)) =
        items.countP fun item => decide (first item = value)) :
    ∀ item ∈ items, first item = second item := by
  have implies :
      ∀ item ∈ items,
        decide (second item = value) = true →
          decide (first item = value) = true := by
    intro item _ isValue
    rw [decide_eq_true_eq] at isValue ⊢
    rcases changes item with unchanged | changed
    · exact unchanged.trans isValue
    · exact changed
  intro item member
  rcases changes item with unchanged | changed
  · exact unchanged
  · have isValue :=
      of_countP_eq implies same item member (decide_eq_true changed)
    exact changed.trans (of_decide_eq_true isValue).symm

section Sorting

variable
    {Item : Type*}
    {order : Item → Item → Prop}
    [DecidableRel order]

theorem orderedInsert_first
    {item : Item}
    {items : List Item}
    (isFirst : ∀ other ∈ items, order item other) :
    items.orderedInsert order item = item :: items := by
  cases items with
  | nil =>
    rfl
  | cons other rest =>
    exact
      List.orderedInsert_cons_of_le order rest
        (isFirst other List.mem_cons_self)

variable [IsTrans Item order]

theorem filter_orderedInsert
    (keeps : Item → Bool)
    (item : Item)
    {items : List Item}
    (sorted : items.Pairwise order) :
    (items.orderedInsert order item).filter keeps = if keeps item then
        (items.filter keeps).orderedInsert order item
      else
        items.filter keeps := by
  induction items with
  | nil =>
    rw [List.orderedInsert_nil, List.filter_cons]
    rfl
  | cons first rest inductionHypothesis =>
    obtain ⟨isFirst, restSorted⟩ := List.pairwise_cons.mp sorted
    by_cases isBefore : order item first
    · have beforeAll : ∀ other ∈ first :: rest, order item other := by
        intro other member
        rcases List.mem_cons.mp member with rfl | isLater
        · exact isBefore
        · exact IsTrans.trans _ _ _ isBefore (isFirst other isLater)
      rw [orderedInsert_first beforeAll, List.filter_cons]
      split
      · exact
          (orderedInsert_first fun other isKept =>
            beforeAll other (List.mem_of_mem_filter isKept)).symm
      · rfl
    · rw [List.orderedInsert_of_not_le order rest isBefore,
        List.filter_cons, inductionHypothesis restSorted,
        List.filter_cons]
      by_cases keepsFirst : keeps first = true
      · rw [if_pos keepsFirst, if_pos keepsFirst,
          List.orderedInsert_of_not_le order _ isBefore]
        split
        · rfl
        · rfl
      · rw [if_neg keepsFirst, if_neg keepsFirst]

theorem filter_insertionSort
    [Std.Total order]
    (keeps : Item → Bool)
    (items : List Item) :
    (items.insertionSort order).filter keeps =
      (items.filter keeps).insertionSort order := by
  induction items with
  | nil =>
    rfl
  | cons first rest inductionHypothesis =>
    rw [List.insertionSort_cons, filter_orderedInsert keeps first
        (List.pairwise_insertionSort order rest),
      inductionHypothesis, List.filter_cons]
    split
    · rw [List.insertionSort_cons]
    · rfl

end Sorting

namespace RecordingEntry

instance : IsTrans RecordingEntry precedes where
  trans := by
    rintro first second third (earlier | ⟨same, isBefore⟩)
      (later | ⟨sameLater, isAfter⟩)
    · exact .inl (Int.lt_trans earlier later)
    · exact .inl (sameLater ▸ earlier)
    · exact .inl (same ▸ later)
    · exact .inr ⟨same.trans sameLater, List.le_trans isBefore isAfter⟩

instance : Std.Total precedes where
  total first second := by
    rcases Int.lt_trichotomy (-(first.modifiedAt.getD 0))
        (-(second.modifiedAt.getD 0)) with earlier | same | later
    · exact .inl (.inl earlier)
    · rcases List.le_total first.relativePath.toList
          second.relativePath.toList with isBefore | isAfter
      · exact .inl (.inr ⟨same, isBefore⟩)
      · exact .inr (.inr ⟨same.symm, isAfter⟩)
    · exact .inr (.inl later)

end RecordingEntry

/-! ### Raising -/

theorem mapM_ok
    {Item Result Error : Type}
    {attempt : Item → Except Error Result}
    {result : Item → Result}
    {items : List Item}
    (succeeds : ∀ item ∈ items, attempt item = .ok (result item)) :
    items.mapM attempt = .ok (items.map result) := by
  induction items with
  | nil =>
    rfl
  | cons first rest inductionHypothesis =>
    rw [List.mapM_cons, succeeds first List.mem_cons_self,
      inductionHypothesis fun item isLater =>
        succeeds item (List.mem_cons_of_mem _ isLater)]
    rfl

theorem mapM_error
    {Item Result Error : Type}
    {attempt : Item → Except Error Result}
    {items : List Item}
    {item : Item}
    (member : item ∈ items)
    {error : Error}
    (raises : attempt item = .error error) :
    ∃ error, items.mapM attempt = .error error := by
  induction items with
  | nil =>
    cases member
  | cons first rest inductionHypothesis =>
    rw [List.mapM_cons]
    cases tried : attempt first with
    | error error =>
      exact ⟨error, rfl⟩
    | ok result =>
      have isLater : item ∈ rest := by
        rcases List.mem_cons.mp member with rfl | isLater
        · rw [raises] at tried
          cases tried
        · exact isLater
      obtain ⟨error, restRaises⟩ := inductionHypothesis isLater
      rw [restRaises]
      exact ⟨error, rfl⟩

/-! ### Files and filters -/

section Files

variable (host : InventoryHost)

def passesFilters (filter attribution : Attribution) : Bool :=
  passesFilter host filter.agentId attribution.agentId &&
    passesFilter host filter.username attribution.username

def noFilter : Attribution :=
  { agentId := "", username := "" }

/-- Values without blanks at their ends. -/
structure Attribution.Clean (attribution : Attribution) : Prop where
  agentId : strip attribution.agentId = attribution.agentId
  username : strip attribution.username = attribution.username

def Agrees (filter value : String) : Prop :=
  value = "" ∨ passesFilter host filter value = true

/--
A path gives what is filtered.  If the template reads anything of it, and
nothing that contradicts the filter, it reads each field that is filtered; if
it reads nothing, the filters are segments of the path.
-/
def GivesFiltered
    (filter : Attribution)
    (relativePath : String)
    (values : List (String × String)) : Prop :=
  let parts := pathSegments (sanitizeRecordingPath relativePath)
  (values ≠ [] →
    Agrees host filter.agentId (readValue values "agent_id") →
    Agrees host filter.username (readValue values "username") →
    (filter.agentId ≠ "" → readValue values "agent_id" ≠ "") ∧
      (filter.username ≠ "" → readValue values "username" ≠ "")) ∧
  (values = [] →
    (filter.agentId ≠ "" → parts.head? = some filter.agentId) ∧
      (filter.username ≠ "" → ownerSegment? parts = some filter.username))

variable {host}

@[simp]
theorem passesFilter_empty (value : String) :
    passesFilter host "" value = true := by
  simp [passesFilter]

theorem passesFilter_self {filter : String} (clean : strip filter = filter) :
    passesFilter host filter filter = true := by
  simp [passesFilter, clean]

@[simp]
theorem orText_empty_left (text : String) : orText "" text = text :=
  rfl

@[simp]
theorem orText_empty_right (text : String) : orText text "" = text := by
  unfold orText
  split
  · rfl
  · rename_i isEmpty
    exact (not_not.mp isEmpty).symm

theorem orText_of_ne {text : String} (nonempty : text ≠ "") (other : String) :
    orText text other = text :=
  if_pos nonempty

variable {filter : String}

theorem passesFilter_orText_iff
    (clean : strip filter = filter)
    (value : String) :
    passesFilter host filter (orText value filter) = true ↔
      Agrees host filter value := by
  unfold Agrees
  by_cases isEmpty : value = ""
  · subst isEmpty
    rw [orText_empty_left]
    exact iff_of_true (passesFilter_self clean) (.inl rfl)
  · rw [orText_of_ne isEmpty, or_iff_right isEmpty]

theorem passesFilter_orText
    (clean : strip filter = filter)
    (value : String) :
    passesFilter host filter (orText filter value) = true := by
  by_cases isEmpty : filter = ""
  · rw [isEmpty]
    exact passesFilter_empty _
  · rw [orText_of_ne isEmpty]
    exact passesFilter_self clean

theorem clean_noFilter : noFilter.Clean :=
  ⟨by decide, by decide⟩

theorem attributionOf_values
    {values : List (String × String)}
    (hasValues : values ≠ [])
    {filter : Attribution}
    (clean : filter.Clean)
    (relativePath : String) :
    attributionOf relativePath filter values =
      { agentId := orText (readValue values "agent_id") filter.agentId
        username := orText (readValue values "username") filter.username } := by
  unfold attributionOf
  dsimp only
  rw [if_pos hasValues, clean.agentId, clean.username]

theorem attributionOf_nil
    {filter : Attribution}
    (clean : filter.Clean)
    (relativePath : String) :
    attributionOf relativePath filter [] =
      let parts := pathSegments (sanitizeRecordingPath relativePath)
      { agentId := orText filter.agentId (strip (parts.head?.getD ""))
        username :=
          orText filter.username (strip ((ownerSegment? parts).getD "")) } := by
  unfold attributionOf
  dsimp only
  rw [if_neg (not_not.mpr rfl), clean.agentId, clean.username]

theorem orText_eq_left_iff {value filter : String} :
    orText value filter = value ↔ (filter ≠ "" → value ≠ "") := by
  by_cases isEmpty : value = ""
  · subst isEmpty
    rw [orText_empty_left]
    constructor
    · exact fun noFilter hasFilter => absurd noFilter hasFilter
    · exact fun impossible => by_contra fun hasFilter => impossible hasFilter rfl
  · rw [orText_of_ne isEmpty]
    exact iff_of_true rfl fun _ => isEmpty

theorem strip_segment
    {relativePath segment : String}
    (isSegment : segment ∈ pathSegments (sanitizeRecordingPath relativePath)) :
    strip segment = segment := by
  rw [pathSegments_sanitize] at isSegment
  exact (cleanSegment_of_mem isSegment).unpadded

theorem orText_eq_right_iff
    {segment : Option String}
    (clean : ∀ found ∈ segment, strip found = found) :
    orText filter (strip (segment.getD "")) = strip (segment.getD "") ↔
      (filter ≠ "" → segment = some filter) := by
  by_cases isEmpty : filter = ""
  · subst isEmpty
    exact iff_of_true (orText_empty_left _) (absurd rfl)
  · rw [orText_of_ne isEmpty]
    cases segment with
    | none =>
      refine iff_of_false ?_ fun impossible => nomatch impossible isEmpty
      exact fun same => isEmpty (same.trans (by decide))
    | some found =>
      rw [Option.getD_some, clean found rfl, Option.some_inj]
      exact ⟨fun same _ => same.symm, fun same => (same isEmpty).symm⟩

theorem strip_found
    {relativePath found : String}
    (isFound :
      found ∈ (pathSegments (sanitizeRecordingPath relativePath)).head? ∨
        found ∈
          ownerSegment? (pathSegments (sanitizeRecordingPath relativePath))) :
    strip found = found := by
  refine @strip_segment relativePath found ?_
  rcases isFound with isFirst | isOwner
  · exact List.mem_of_head? isFirst
  · unfold ownerSegment? at isOwner
    split at isOwner
    · exact List.mem_of_mem_dropLast (List.mem_of_getLast? isOwner)
    · cases isOwner

variable {filter : Attribution}

/--
A file that is let through is attributed as if there were no filter exactly if
its path gives what is filtered.
-/
theorem sameAttribution_iff
    (clean : filter.Clean)
    (relativePath : String)
    (values : List (String × String)) :
    (passesFilters host filter
          (attributionOf relativePath filter values) = true →
        attributionOf relativePath filter values =
          attributionOf relativePath noFilter values) ↔
      GivesFiltered host filter relativePath values := by
  unfold GivesFiltered passesFilters
  dsimp only
  cases values with
  | nil =>
    rw [attributionOf_nil clean, attributionOf_nil clean_noFilter]
    dsimp only [noFilter]
    rw [passesFilter_orText clean.agentId,
      passesFilter_orText clean.username, orText_empty_left,
      orText_empty_left, Attribution.mk.injEq,
      orText_eq_right_iff fun _ isFirst => strip_found (.inl isFirst),
      orText_eq_right_iff fun _ isOwner => strip_found (.inr isOwner)]
    simp
  | cons value rest =>
    have hasValues := List.cons_ne_nil value rest
    rw [attributionOf_values hasValues clean,
      attributionOf_values hasValues clean_noFilter]
    dsimp only [noFilter]
    rw [Bool.and_eq_true, passesFilter_orText_iff clean.agentId,
      passesFilter_orText_iff clean.username, orText_empty_right,
      orText_empty_right, Attribution.mk.injEq, orText_eq_left_iff,
      orText_eq_left_iff, and_imp]
    simp

theorem passesFilters_fallback
    (clean : filter.Clean)
    {relativePath : String}
    {values : List (String × String)}
    (passes :
      passesFilters host filter
        (attributionOf relativePath noFilter values) = true) :
    passesFilters host filter
      (attributionOf relativePath filter values) = true := by
  unfold passesFilters at passes ⊢
  cases values with
  | nil =>
    rw [attributionOf_nil clean]
    dsimp only
    rw [passesFilter_orText clean.agentId, passesFilter_orText clean.username]
    rfl
  | cons value rest =>
    have hasValues := List.cons_ne_nil value rest
    rw [attributionOf_values hasValues clean_noFilter,
      Bool.and_eq_true] at passes
    dsimp only [noFilter] at passes
    rw [orText_empty_right, orText_empty_right] at passes
    rw [attributionOf_values hasValues clean, Bool.and_eq_true]
    dsimp only
    rw [passesFilter_orText_iff clean.agentId,
      passesFilter_orText_iff clean.username]
    exact ⟨.inr passes.1, .inr passes.2⟩

theorem orText_cases (first second : String) :
    orText first second = first ∨ orText first second = second := by
  unfold orText
  split
  · exact .inl rfl
  · exact .inr rfl

theorem attribution_changes
    (clean : filter.Clean)
    (relativePath : String)
    (values : List (String × String)) :
    let filtered := attributionOf relativePath filter values
    let plain := attributionOf relativePath noFilter values
    (filtered.agentId = plain.agentId ∨
        filtered.agentId = filter.agentId) ∧
      (filtered.username = plain.username ∨
        filtered.username = filter.username) := by
  dsimp only
  cases values with
  | nil =>
    rw [attributionOf_nil clean, attributionOf_nil clean_noFilter]
    dsimp only [noFilter]
    rw [orText_empty_left, orText_empty_left]
    exact ⟨(orText_cases _ _).symm, (orText_cases _ _).symm⟩
  | cons value rest =>
    have hasValues := List.cons_ne_nil value rest
    rw [attributionOf_values hasValues clean,
      attributionOf_values hasValues clean_noFilter]
    dsimp only [noFilter]
    rw [orText_empty_right, orText_empty_right]
    exact ⟨orText_cases _ _, orText_cases _ _⟩

end Files

/-! ### The inventory -/

section Inventory

variable
    (host : InventoryHost)
    (config : InventoryConfig)
    (publicBaseUrl : String)

/-- The files that a filter lets through, attributed with a fallback. -/
def filesThrough
    (filter fallback : Attribution)
    (values : FoundFile → List (String × String))
    (files : List FoundFile) : List FoundFile :=
  files.filter fun file =>
    passesFilters host filter
      (attributionOf file.relativePath fallback (values file))

/-- The entries of files, attributed with a fallback. -/
def entriesWith
    (fallback : Attribution)
    (values : FoundFile → List (String × String))
    (files : List FoundFile) : List RecordingEntry :=
  files.map fun file =>
    recordingEntry publicBaseUrl file
      (attributionOf file.relativePath fallback (values file))

/-- Whether an entry, as it is reported, matches a filter. -/
def RecordingEntry.matchesFilter
    (filter : Attribution)
    (entry : RecordingEntry) : Bool :=
  passesFilters host filter
    { agentId := entry.agentId, username := entry.username }

variable
    {host publicBaseUrl}
    {filter : Attribution}
    {values : FoundFile → List (String × String)}
    {files : List FoundFile}

theorem filesThrough_noFilter (fallback : Attribution) :
    filesThrough host noFilter fallback values files = files := by
  refine List.filter_eq_self.mpr fun file _ => ?_
  simp [passesFilters, noFilter]

theorem filter_entriesWith (fallback : Attribution) :
    (entriesWith publicBaseUrl fallback values files).filter
        (RecordingEntry.matchesFilter host filter) =
      entriesWith publicBaseUrl fallback values
        (filesThrough host filter fallback values files) :=
  List.filter_map

theorem entriesWith_eq
    (clean : filter.Clean)
    (given :
      ∀ file ∈ files,
        GivesFiltered host filter file.relativePath (values file)) :
    entriesWith publicBaseUrl filter values
        (filesThrough host filter filter values files) =
      entriesWith publicBaseUrl noFilter values
        (filesThrough host filter noFilter values files) := by
  have same :
      ∀ file ∈ files,
        passesFilters host filter
              (attributionOf file.relativePath filter (values file)) =
            true →
          attributionOf file.relativePath filter (values file) =
            attributionOf file.relativePath noFilter (values file) := by
    intro file isFile
    rw [@sameAttribution_iff host filter clean]
    exact given file isFile
  have sameFiles :
      filesThrough host filter filter values files =
        filesThrough host filter noFilter values files := by
    refine List.filter_congr fun file isFile => ?_
    rw [Bool.eq_iff_iff]
    constructor
    · intro passes
      rw [← same file isFile passes]
      exact passes
    · exact passesFilters_fallback clean
  rw [← sameFiles]
  refine List.map_congr_left fun file isThrough => ?_
  obtain ⟨isFile, passes⟩ := List.mem_filter.mp isThrough
  rw [same file isFile passes]

theorem filesThrough_eq
    (clean : filter.Clean)
    (sameCount :
      (filesThrough host filter filter values files).length =
        (filesThrough host filter noFilter values files).length) :
    filesThrough host filter noFilter values files =
      filesThrough host filter filter values files := by
  unfold filesThrough at sameCount ⊢
  rw [← List.countP_eq_length_filter, ← List.countP_eq_length_filter]
    at sameCount
  have passesPlain :=
    of_countP_eq
      (fun file _ passes => passesFilters_fallback clean passes)
      sameCount.symm
  refine List.filter_congr fun file isFile => ?_
  rw [Bool.eq_iff_iff]
  exact ⟨passesFilters_fallback clean, passesPlain file isFile⟩

theorem countP_entriesWith
    {first second : Attribution}
    (isPerm :
      (entriesWith publicBaseUrl first values files).Perm
        (entriesWith publicBaseUrl second values files))
    (holds : Attribution → Bool) :
    files.countP
        (fun file =>
          holds (attributionOf file.relativePath second (values file))) =
      files.countP fun file =>
        holds (attributionOf file.relativePath first (values file)) := by
  have counts :=
    isPerm.countP_eq fun entry =>
      holds { agentId := entry.agentId, username := entry.username }
  unfold entriesWith at counts
  rw [List.countP_map, List.countP_map] at counts
  exact counts.symm

theorem givesFiltered_of_perm
    (clean : filter.Clean)
    (isPerm :
      (entriesWith publicBaseUrl filter values
          (filesThrough host filter filter values files)).Perm
        (entriesWith publicBaseUrl noFilter values
          (filesThrough host filter noFilter values files)))
    {file : FoundFile}
    (isFile : file ∈ files) :
    GivesFiltered host filter file.relativePath (values file) := by
  have sameCount := isPerm.length_eq
  unfold entriesWith at sameCount
  rw [List.length_map, List.length_map] at sameCount
  rw [filesThrough_eq clean sameCount] at isPerm
  rw [← @sameAttribution_iff host filter clean]
  intro passes
  have isThrough : file ∈ filesThrough host filter filter values files :=
    List.mem_filter.mpr ⟨isFile, passes⟩
  have changes := fun file : FoundFile =>
    attribution_changes clean file.relativePath (values file)
  -- As many files have the filter's value with the filter as without it.
  have agents :=
    countP_entriesWith isPerm fun attribution =>
      decide (attribution.agentId = filter.agentId)
  have users :=
    countP_entriesWith isPerm fun attribution =>
      decide (attribution.username = filter.username)
  exact
    Attribution.ext
      (eq_of_countP_eq (fun file => (changes file).1) agents file isThrough)
      (eq_of_countP_eq (fun file => (changes file).2) users file isThrough)

end Inventory

section Listing

variable
    (host : InventoryHost)
    (config : InventoryConfig)
    (publicBaseUrl agentId username : String)

def requestFilter : Attribution :=
  { agentId := strip agentId, username := strip username }

/--
The filtered inventory has exactly the entries of the unfiltered one whose
agent and user, as they are reported there, match the filter.
-/
def FilterSelects : Prop :=
  (listGuacamoleRecordings host config publicBaseUrl agentId
      username).map RecordingInventory.entries =
    (listGuacamoleRecordings host config publicBaseUrl "" "").map
      fun inventory =>
        inventory.entries.filter
          (RecordingEntry.matchesFilter host (requestFilter agentId username))

def templateReads
    (file : FoundFile) : Except PatternError (List (String × String)) :=
  parseRecordingTemplateMetadata file.relativePath (strip config.pathTemplate)

theorem map_entries_listing :
    (listGuacamoleRecordings host config publicBaseUrl agentId
        username).map RecordingInventory.entries =
      ((inventoryFiles host config).mapM
          (entryOfFile host config publicBaseUrl (strip agentId)
            (strip username))).map
        fun found =>
          (found.filterMap id).insertionSort RecordingEntry.precedes := by
  unfold listGuacamoleRecordings
  dsimp only
  cases isEnabled : config.enabled with
  | false =>
    have noFiles : inventoryFiles host config = [] := by
      unfold inventoryFiles
      rw [isEnabled]
      rfl
    rw [noFiles]
    rfl
  | true =>
    by_cases noBase : strip config.browseUrl = ""
    · have noFiles : inventoryFiles host config = [] := by
        unfold inventoryFiles
        rw [noBase]
        simp
      rw [noFiles, if_pos noBase]
      rfl
    · rw [if_neg noBase]
      cases (inventoryFiles host config).mapM
          (entryOfFile host config publicBaseUrl (strip agentId)
            (strip username)) with
      | error error =>
        rfl
      | ok found =>
        rfl

variable {host config publicBaseUrl agentId username}

theorem entryOfFile_ok
    {file : FoundFile}
    {values : List (String × String)}
    (reads : templateReads config file = .ok values) :
    entryOfFile host config publicBaseUrl (strip agentId) (strip username)
        file =
      .ok
        (if passesFilters host (requestFilter agentId username)
            (attributionOf file.relativePath
              (requestFilter agentId username) values) then
          some
            (recordingEntry publicBaseUrl file
              (attributionOf file.relativePath
                (requestFilter agentId username) values))
        else
          none) := by
  unfold templateReads at reads
  unfold entryOfFile extractRecordingMetadata
  rw [reads]
  rfl

theorem filterMap_id_map
    {Item Entry : Type}
    (keeps : Item → Bool)
    (entry : Item → Entry)
    (items : List Item) :
    (items.map fun item =>
        if keeps item then some (entry item) else none).filterMap id =
      (items.filter keeps).map entry := by
  rw [List.filterMap_map, ← List.filterMap_eq_map, List.filterMap_filter]
  refine List.filterMap_congr fun item _ => ?_
  rw [Function.comp_apply, id_eq]
  rfl

theorem map_entries_ok
    {values : FoundFile → List (String × String)}
    (reads :
      ∀ file ∈ inventoryFiles host config,
        templateReads config file = .ok (values file)) :
    (listGuacamoleRecordings host config publicBaseUrl agentId
        username).map RecordingInventory.entries =
      .ok
        ((entriesWith publicBaseUrl (requestFilter agentId username) values
          (filesThrough host (requestFilter agentId username)
            (requestFilter agentId username) values
            (inventoryFiles host config))).insertionSort
            RecordingEntry.precedes) := by
  rw [map_entries_listing,
    mapM_ok fun file isFile => entryOfFile_ok (reads file isFile)]
  exact
    congrArg
      (fun entries =>
        Except.ok (entries.insertionSort RecordingEntry.precedes))
      (filterMap_id_map _ _ _)

theorem requestFilter_empty : requestFilter "" "" = noFilter := by
  decide

theorem map_entries_error
    {file : FoundFile}
    (isFile : file ∈ inventoryFiles host config)
    {error : PatternError}
    (raises : templateReads config file = .error error)
    (agentId username : String) :
    (listGuacamoleRecordings host config publicBaseUrl agentId
        username).map RecordingInventory.entries =
      .error .redefinedGroup := by
  have entryRaises :
      entryOfFile host config publicBaseUrl (strip agentId)
          (strip username) file =
        .error error := by
    unfold templateReads at raises
    unfold entryOfFile extractRecordingMetadata
    rw [raises]
    rfl
  obtain ⟨anyError, allRaise⟩ := mapM_error isFile entryRaises
  rw [map_entries_listing, allRaise]
  cases anyError
  rfl

/--
A filter selects entries exactly if the inventory cannot be read in either
case, or every path gives what is filtered.
-/
theorem filterSelects_iff :
    FilterSelects host config publicBaseUrl agentId username ↔
      (∃ file ∈ inventoryFiles host config,
        ∃ error, templateReads config file = .error error) ∨
      ∀ file ∈ inventoryFiles host config,
        ∀ values,
          templateReads config file = .ok values →
            GivesFiltered host (requestFilter agentId username)
              file.relativePath values := by
  have mapsEntries :
      (listGuacamoleRecordings host config publicBaseUrl "" "").map
          (fun inventory =>
            inventory.entries.filter
              (RecordingEntry.matchesFilter host
                (requestFilter agentId username))) =
        ((listGuacamoleRecordings host config publicBaseUrl "" "").map
          RecordingInventory.entries).map
            (List.filter
              (RecordingEntry.matchesFilter host
                (requestFilter agentId username))) := by
    cases listGuacamoleRecordings host config publicBaseUrl "" "" with
    | error | ok =>
      rfl
  unfold FilterSelects
  rw [mapsEntries]
  by_cases raises :
      ∃ file ∈ inventoryFiles host config,
        ∃ error, templateReads config file = .error error
  · refine iff_of_true ?_ (.inl raises)
    obtain ⟨file, isFile, error, fileRaises⟩ := raises
    rw [map_entries_error isFile fileRaises,
      map_entries_error isFile fileRaises]
    rfl
  · rw [or_iff_right raises]
    -- No path raises, so each is read to some values.
    have reads :
        ∀ file ∈ inventoryFiles host config,
          templateReads config file =
            .ok ((templateReads config file).toOption.getD []) := by
      intro file isFile
      cases read : templateReads config file with
      | error error =>
        exact absurd ⟨file, isFile, error, read⟩ raises
      | ok values =>
        rfl
    have clean : (requestFilter agentId username).Clean :=
      ⟨strip_strip agentId, strip_strip username⟩
    rw [map_entries_ok reads, map_entries_ok reads, requestFilter_empty,
      filesThrough_noFilter]
    change Except.ok _ = Except.ok (List.filter _ (List.insertionSort _ _)) ↔ _
    rw [Except.ok.injEq, filter_insertionSort, filter_entriesWith]
    constructor
    · intro same file isFile values read
      have isPerm :=
        (List.perm_insertionSort _ _).symm.trans
          ((List.Perm.of_eq same).trans (List.perm_insertionSort _ _))
      have gives := givesFiltered_of_perm clean isPerm isFile
      rwa [read] at gives
    · intro given
      rw [entriesWith_eq clean fun file isFile =>
        given file isFile _ (reads file isFile)]

end Listing

/-- A host with one recording, below a directory of an agent. -/
def oneRecordingHost : InventoryHost where
  library := asciiTextLibrary
  parseTime := fun _ => none
  fetch url :=
    if url = "http://files/" then
      .ok (.arr [.obj [("name", .str "vm-1"), ("type", .str "directory")]])
    else if url = "http://files/vm-1/" then
      .ok (.arr [.obj [("name", .str "a.guac"), ("type", .str "file")]])
    else
      .error (.http 404)

def plainInventory : InventoryConfig where
  enabled := true
  browseUrl := "http://files"

/-- The recording of one agent is listed as that of another one. -/
theorem not_filterSelects :
    ¬ FilterSelects oneRecordingHost plainInventory "http://server" "vm-2"
      "" := by
  intro same
  have counts :=
    congrArg (fun entries => (entries.toOption.map List.length)) same
  revert counts
  decide +kernel

end RpaPlatform.Agents
