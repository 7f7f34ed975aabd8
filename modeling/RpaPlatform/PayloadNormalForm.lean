import RpaPlatform.GuacamoleTransfers

namespace RpaPlatform.Agents

open Tasks (Json)

/-!
# Payloads that have been written already

The parameters and attributes of a connection are built from those that it has
already.  Building them once more from what has been built gives the same
texts under the same keys, so that a connection matches its own payload.
-/

/-! ### Dictionaries of texts -/

/-- Every key is there once, and neither blank nor padded. -/
structure CleanKeys (entries : List (String × String)) : Prop where
  distinct : (entries.map Prod.fst).Nodup
  clean : ∀ entry ∈ entries, entry.1 ≠ "" ∧ strip entry.1 = entry.1

/-- No value is blank or padded either. -/
structure Tidy (entries : List (String × String)) : Prop
    extends CleanKeys entries where
  values : ∀ entry ∈ entries, entry.2 ≠ "" ∧ strip entry.2 = entry.2

def keptText (text : String) : Option String :=
  if strip text = "" then none else some (strip text)

theorem keptText_strip (text : String) :
    keptText (strip text) = keptText text := by
  unfold keptText
  rw [strip_strip]

theorem keptText_of_tidy
    {text : String}
    (isTidy : text ≠ "" ∧ strip text = text) :
    keptText text = some text := by
  unfold keptText
  rw [isTidy.2, if_neg isTidy.1]

theorem sameDict_of_lookup
    {first second : List (String × String)}
    (firstDistinct : (first.map Prod.fst).Nodup)
    (secondDistinct : (second.map Prod.fst).Nodup)
    (same : ∀ key, first.lookup key = second.lookup key) :
    sameDict first second = true := by
  unfold sameDict
  rw [Bool.and_eq_true, List.all_eq_true, List.all_eq_true]
  constructor
  · intro entry member
    refine decide_eq_true ?_
    rw [← same]
    exact Dictionary.lookup_of_mem firstDistinct member
  · intro entry member
    refine decide_eq_true ?_
    rw [same]
    exact Dictionary.lookup_of_mem secondDistinct member

section Normalizing

variable (library : TextLibrary)

/-- One entry of a dictionary of texts. -/
def keepText
    (result : List (String × String))
    (field : String × Json) : List (String × String) :=
  let key := strip field.1
  let value := cleanString library field.2
  if key ≠ "" && value ≠ "" then
    Dictionary.set key value result
  else
    result

theorem normalizeStringDict_eq (fields : JsonObject) :
    normalizeStringDict library fields = fields.foldl (keepText library) [] :=
  rfl

theorem strip_cleanString (value : Json) :
    strip (cleanString library value) = cleanString library value := by
  cases value with
  | null =>
    exact show strip "" = "" by decide +kernel
  | _ =>
    exact strip_strip _

variable {entries : List (String × String)}

theorem Tidy.set
    (tidy : Tidy entries)
    {key value : String}
    (cleanKey : key ≠ "" ∧ strip key = key)
    (cleanValue : value ≠ "" ∧ strip value = value) :
    Tidy (Dictionary.set key value entries) where
  distinct := Dictionary.nodup_keys_set key value tidy.distinct
  clean entry member := by
    rcases Dictionary.mem_set member with rfl | earlier
    · exact cleanKey
    · exact tidy.clean entry earlier
  values entry member := by
    rcases Dictionary.mem_set member with rfl | earlier
    · exact cleanValue
    · exact tidy.values entry earlier

theorem tidy_normalizeStringDict (fields : JsonObject) :
    Tidy (normalizeStringDict library fields) := by
  have tidyFrom :
      ∀ result, Tidy result →
        Tidy (fields.foldl (keepText library) result) := by
    induction fields with
    | nil =>
      exact fun _ tidy => tidy
    | cons field rest inductionHypothesis =>
      intro result tidy
      refine inductionHypothesis _ ?_
      unfold keepText
      dsimp only
      split
      · rename_i kept
        have ⟨cleanKey, cleanValue⟩ :
            strip field.1 ≠ "" ∧ cleanString library field.2 ≠ "" := by
          simpa using kept
        exact
          tidy.set ⟨cleanKey, strip_strip _⟩
            ⟨cleanValue, strip_cleanString library _⟩
      · exact tidy
  exact
    tidyFrom []
      { distinct := List.nodup_nil
        clean := fun _ member => absurd member List.not_mem_nil
        values := fun _ member => absurd member List.not_mem_nil }

theorem lookup_normalizeStringDict
    (cleanKeys : CleanKeys entries)
    (key : String) :
    (normalizeStringDict library (textFields entries)).lookup key =
      (entries.lookup key).bind keptText := by
  have lookupFrom :
      ∀ result : List (String × String),
        ((textFields entries).foldl (keepText library) result).lookup key =
          ((entries.lookup key).bind keptText).or (result.lookup key) := by
    induction entries with
    | nil =>
      exact fun _ => rfl
    | cons entry rest inductionHypothesis =>
      intro result
      obtain ⟨absent, distinct⟩ := List.nodup_cons.mp cleanKeys.distinct
      have cleanEntry := cleanKeys.clean entry List.mem_cons_self
      have later :=
        inductionHypothesis
          ⟨distinct, fun other member =>
            cleanKeys.clean other (List.mem_cons_of_mem _ member)⟩
          (keepText library result (entry.1, .str entry.2))
      refine later.trans ?_
      have kept :
          (keepText library result (entry.1, .str entry.2)).lookup key =
            if key = entry.1 then
              (keptText entry.2).or (result.lookup key)
            else
              result.lookup key := by
        unfold keepText keptText cleanString
        dsimp only
        rw [cleanEntry.2]
        by_cases blank : strip entry.2 = ""
        · simp [blank]
        · by_cases same : key = entry.1
          · simp [cleanEntry.1, blank, same]
          · simp [cleanEntry.1, blank, same, Dictionary.lookup_set_other same]
      rw [kept]
      by_cases same : key = entry.1
      · have noLater : rest.lookup key = none := by
          rw [same]
          exact Dictionary.lookup_eq_none_iff.mpr absent
        rw [noLater, if_pos same, List.lookup_cons, same]
        simp
      · have differs : (key == entry.1) = false := by simpa using same
        rw [if_neg same, List.lookup_cons, differs]
  rw [normalizeStringDict_eq, lookupFrom []]
  exact Option.or_none

theorem lookup_normalizeStringDict_of_tidy
    (tidy : Tidy entries)
    (key : String) :
    (normalizeStringDict library (textFields entries)).lookup key =
      entries.lookup key := by
  rw [lookup_normalizeStringDict library tidy.toCleanKeys]
  cases found : entries.lookup key with
  | none =>
    rfl
  | some value =>
    exact keptText_of_tidy (tidy.values _ (Dictionary.mem_of_lookup found))

end Normalizing

/-! ### Clean keys -/

theorem CleanKeys.update
    {entries changes : List (String × String)}
    (cleanKeys : CleanKeys entries)
    (cleanChanges :
      ∀ change ∈ changes, change.1 ≠ "" ∧ strip change.1 = change.1) :
    CleanKeys (Dictionary.update entries changes) where
  distinct := Dictionary.nodup_keys_update cleanKeys.distinct changes
  clean entry member := by
    rcases Dictionary.mem_update member with earlier | isChange
    · exact cleanKeys.clean entry earlier
    · exact cleanChanges entry isChange

variable
    {entries : List (String × String)}
    {key : String}

theorem CleanKeys.erase
    (cleanKeys : CleanKeys entries)
    (key : String) :
    CleanKeys (Dictionary.erase key entries) where
  distinct := cleanKeys.distinct.sublist (List.filter_sublist.map Prod.fst)
  clean entry member := cleanKeys.clean entry (List.mem_of_mem_filter member)

theorem CleanKeys.clearRecording
    (cleanKeys : CleanKeys entries) :
    CleanKeys (clearRecording entries) := by
  unfold Agents.clearRecording
  induction recordingParameterKeys generalizing entries with
  | nil =>
    exact cleanKeys
  | cons key rest inductionHypothesis =>
    exact inductionHypothesis (cleanKeys.erase key)

theorem CleanKeys.setTransfers
    (cleanKeys : CleanKeys entries)
    (upload download : Bool) :
    CleanKeys (setTransfers upload download entries) := by
  unfold Agents.setTransfers
  split
  · refine cleanKeys.update ?_
    simp only [List.forall_mem_cons]
    decide +kernel
  · refine CleanKeys.erase (CleanKeys.erase (cleanKeys.update ?_) _) _
    simp only [List.forall_mem_cons]
    decide +kernel

theorem Tidy.update
    {entries changes : List (String × String)}
    (tidy : Tidy entries)
    (tidyChanges : Tidy changes) :
    Tidy (Dictionary.update entries changes) where
  toCleanKeys := tidy.toCleanKeys.update tidyChanges.clean
  values entry member := by
    rcases Dictionary.mem_update member with earlier | isChange
    · exact tidy.values entry earlier
    · exact tidyChanges.values entry isChange

/-! ### Parameters -/

def transferKeys : List String :=
  ["enable-drive", "create-drive-path", "drive-path", "disable-upload",
    "disable-download"]

def drivePath (found : Option String) : String :=
  orText (strip (found.getD "")) "/drive"

theorem drivePath_clean (found : Option String) :
    drivePath found ≠ "" ∧ strip (drivePath found) = drivePath found := by
  unfold drivePath
  generalize found.getD "" = text
  by_cases blank : strip text = ""
  · have isDefault : orText (strip text) "/drive" = "/drive" :=
      if_neg (not_not.mpr blank)
    rw [isDefault]
    exact ⟨by decide, by decide +kernel⟩
  · have isFound : orText (strip text) "/drive" = strip text :=
      if_pos blank
    rw [isFound]
    exact ⟨blank, strip_strip text⟩

theorem drivePath_drivePath (found : Option String) :
    drivePath (some (drivePath found)) = drivePath found := by
  obtain ⟨nonempty, isClean⟩ := drivePath_clean found
  conv_lhs => rw [drivePath, Option.getD_some, isClean]
  exact if_pos nonempty

theorem lookup_setTransfers_congr
    {upload download : Bool}
    {first second : List (String × String)}
    (same : key ∉ transferKeys → first.lookup key = second.lookup key)
    (sameDrive :
      (upload || download) = true →
      drivePath (first.lookup "drive-path") =
        drivePath (second.lookup "drive-path")) :
    (setTransfers upload download first).lookup key =
      (setTransfers upload download second).lookup key := by
  unfold transferKeys at same
  unfold setTransfers
  split
  · rename_i enabled
    have samePath :
        orText (strip ((first.lookup "drive-path").getD "")) "/drive" =
          orText (strip ((second.lookup "drive-path").getD "")) "/drive" :=
      sameDrive enabled
    dsimp only
    rw [samePath]
    rw [Dictionary.lookup_update_of_distinct (by simp),
      Dictionary.lookup_update_of_distinct (by simp)]
    by_cases isSet : key ∈ transferKeys
    · unfold transferKeys at isSet
      simp only [List.mem_cons, List.not_mem_nil, or_false] at isSet
      rcases isSet with rfl | rfl | rfl | rfl | rfl <;> rfl
    · rw [same isSet]
  · by_cases isPath : key = "drive-path"
    · rw [isPath, Dictionary.lookup_erase_self, Dictionary.lookup_erase_self]
    rw [Dictionary.lookup_erase_other isPath,
      Dictionary.lookup_erase_other isPath]
    by_cases isCreate : key = "create-drive-path"
    · rw [isCreate, Dictionary.lookup_erase_self, Dictionary.lookup_erase_self]
    rw [Dictionary.lookup_erase_other isCreate,
      Dictionary.lookup_erase_other isCreate,
      Dictionary.lookup_update_of_distinct (by decide),
      Dictionary.lookup_update_of_distinct (by decide)]
    by_cases isSet : key ∈ transferKeys
    · unfold transferKeys at isSet
      simp only [List.mem_cons, List.not_mem_nil, or_false] at isSet
      rcases isSet with rfl | rfl | rfl | rfl | rfl
      · rfl
      · exact absurd rfl isCreate
      · exact absurd rfl isPath
      · rfl
      · rfl
    · rw [same isSet]

theorem lookup_setTransfers_other
    (other : key ∉ transferKeys)
    (upload download : Bool)
    (parameters : List (String × String)) :
    (setTransfers upload download parameters).lookup key =
      parameters.lookup key := by
  have ⟨notEnable, notCreate, notPath, notUpload, notDownload⟩ :
      key ≠ "enable-drive" ∧ key ≠ "create-drive-path" ∧
        key ≠ "drive-path" ∧ key ≠ "disable-upload" ∧
          key ≠ "disable-download" := by
    simpa [transferKeys] using other
  unfold setTransfers
  split
  · refine Dictionary.lookup_update_other ?_ parameters
    simp [notEnable, notCreate, notPath, notUpload, notDownload]
  · rw [Dictionary.lookup_erase_other notPath,
      Dictionary.lookup_erase_other notCreate]
    refine Dictionary.lookup_update_other ?_ parameters
    simp [notEnable, notUpload, notDownload]

theorem lookup_drivePath_setTransfers
    (upload download : Bool)
    (parameters : List (String × String)) :
    (setTransfers upload download parameters).lookup "drive-path" =
      if upload || download then
        some (drivePath (parameters.lookup "drive-path"))
      else
        none := by
  unfold setTransfers
  split
  · rw [Dictionary.lookup_update_of_distinct (by simp)]
    rfl
  · exact Dictionary.lookup_erase_self _ _

theorem lookup_clearRecording_of_mem
    (member : key ∈ recordingParameterKeys)
    (parameters : List (String × String)) :
    (clearRecording parameters).lookup key = none := by
  unfold clearRecording
  generalize recordingParameterKeys = keys at member
  have stays :
      ∀ (later : List String) (kept : List (String × String)),
        kept.lookup key = none →
        (later.foldl (fun kept key => Dictionary.erase key kept)
            kept).lookup key =
          none := by
    intro later
    induction later with
    | nil =>
      exact fun _ absent => absent
    | cons next rest inductionHypothesis =>
      intro kept absent
      refine inductionHypothesis _ ?_
      by_cases isNext : key = next
      · rw [isNext]
        exact Dictionary.lookup_erase_self _ _
      · rw [Dictionary.lookup_erase_other isNext]
        exact absent
  induction keys generalizing parameters with
  | nil =>
    cases member
  | cons next rest inductionHypothesis =>
    rcases List.mem_cons.mp member with rfl | inRest
    · exact stays rest _ (Dictionary.lookup_erase_self _ _)
    · exact inductionHypothesis _ inRest

section Payloads

variable
    {library : TextLibrary}
    {config : ProvisioningConfig}
    {mapping : JsonObject}
    {hostname : String}
    {values : List (String × String)}

/-- The user's name and domain are set under two keys. -/
def credentialFields (credentials : String × String) :
    List (String × String) :=
  (if credentials.1 ≠ "" then [("username", credentials.1)] else []) ++
    (if credentials.2 ≠ "" then [("domain", credentials.2)] else [])

theorem nodup_credentialFields (credentials : String × String) :
    ((credentialFields credentials).map Prod.fst).Nodup := by
  unfold credentialFields
  split <;> split <;> simp

theorem lookup_connectionParameters :
    ∃ settings : String → Option String,
      ∀ existing key,
        (connectionParameters library config mapping hostname values
            existing).lookup key =
          (settings key).or
            ((normalizeStringDict library
              (textFields existing.parameters)).lookup key) := by
  refine
    ⟨fun key =>
      ((renderedDict library config values
          config.parameterTemplate).lookup key).or
        (((credentialFields
            (splitGuacamoleCredentials library mapping)).lookup key).or
          ([("hostname",
              orText (cleanField library mapping "target_host")
                (strip hostname)),
            ("port", config.rdpPort), ("resize-method", "display-update"),
            ("ignore-cert", "true")].lookup key)), ?_⟩
  intro existing key
  have tidyTemplate :
      Tidy (renderedDict library config values config.parameterTemplate) :=
    tidy_normalizeStringDict library _
  unfold connectionParameters
  dsimp only
  rw [Dictionary.lookup_update_of_distinct tidyTemplate.distinct,
    Option.or_assoc]
  refine congrArg (Option.or _) ?_
  refine
    (Dictionary.lookup_update_of_distinct
      (nodup_credentialFields (splitGuacamoleCredentials library mapping))
      _ key).trans ?_
  rw [Dictionary.lookup_update_of_distinct (by simp), Option.or_assoc]

theorem cleanKeys_connectionParameters (existing : ExistingConnection) :
    CleanKeys
      (connectionParameters library config mapping hostname values
        existing) := by
  unfold connectionParameters
  dsimp only
  refine CleanKeys.update (CleanKeys.update (CleanKeys.update ?_ ?_) ?_) ?_
  · exact (tidy_normalizeStringDict library _).toCleanKeys
  · simp only [List.forall_mem_cons]
    decide +kernel
  · intro change member
    have named : change.1 = "username" ∨ change.1 = "domain" := by
      rcases List.mem_append.mp member with isName | isDomain
      · split at isName
        · exact .inl (by rw [List.mem_singleton.mp isName])
        · cases isName
      · split at isDomain
        · exact .inr (by rw [List.mem_singleton.mp isDomain])
        · cases isDomain
    rcases named with isKey | isKey <;> rw [isKey] <;> decide +kernel
  · exact (tidy_normalizeStringDict library _).clean

/-- The parameters that are written of a session that is not recorded. -/
def plainParameters
    (library : TextLibrary)
    (config : ProvisioningConfig)
    (mapping : JsonObject)
    (hostname : String)
    (values : List (String × String))
    (existing : ExistingConnection) : List (String × String) :=
  let policy := mappingPolicy library mapping
  clearRecording
    (setTransfers (policy .upload).enabled (policy .download).enabled
      (connectionParameters library config mapping hostname values existing))

theorem cleanKeys_plainParameters (existing : ExistingConnection) :
    CleanKeys
      (plainParameters library config mapping hostname values existing) :=
  ((cleanKeys_connectionParameters existing).setTransfers _ _).clearRecording

/-- Parameters that have been written are written the same way again. -/
theorem lookup_plainParameters_again
    {existing written : ExistingConnection}
    (isWritten :
      ∀ key,
        (normalizeStringDict library
            (textFields written.parameters)).lookup key =
          ((plainParameters library config mapping hostname values
            existing).lookup key).bind keptText)
    (key : String) :
    (plainParameters library config mapping hostname values
        written).lookup key =
      (plainParameters library config mapping hostname values
        existing).lookup key := by
  obtain ⟨settings, lookups⟩ :=
    @lookup_connectionParameters library config mapping hostname values
  by_cases isRecording : key ∈ recordingParameterKeys
  · unfold plainParameters
    rw [lookup_clearRecording_of_mem isRecording,
      lookup_clearRecording_of_mem isRecording]
  -- What is set is set again, and what was kept is kept again.
  have again :
      ∀ other value,
        (plainParameters library config mapping hostname values
            existing).lookup other =
          some value →
        (connectionParameters library config mapping hostname values
            written).lookup other =
          (settings other).or (keptText value) := by
    intro other value found
    rw [lookups, isWritten, found]
    rfl
  unfold plainParameters at isWritten again ⊢
  dsimp only at isWritten again ⊢
  rw [lookup_clearRecording isRecording, lookup_clearRecording isRecording]
  refine lookup_setTransfers_congr ?_ ?_
  · intro isOther
    rw [lookups, isWritten, lookup_clearRecording isRecording,
      lookup_setTransfers_other isOther, lookups]
    cases settings key with
    | some value =>
      rfl
    | none =>
      rw [Option.none_or, Option.none_or]
      cases found :
          (normalizeStringDict library
            (textFields existing.parameters)).lookup key with
      | none =>
        rfl
      | some value =>
        exact
          keptText_of_tidy
            ((tidy_normalizeStringDict library _).values _
              (Dictionary.mem_of_lookup found))
  · intro enabled
    have found :=
      lookup_drivePath_setTransfers
        (mappingPolicy library mapping .upload).enabled
        (mappingPolicy library mapping .download).enabled
        (connectionParameters library config mapping hostname values existing)
    rw [if_pos enabled] at found
    rw [again "drive-path" _
      ((lookup_clearRecording (by decide) _).trans found),
      keptText_of_tidy (drivePath_clean _)]
    have original := lookups existing "drive-path"
    cases isSet : settings "drive-path" with
    | some value =>
      rw [isSet] at original
      rw [original]
      rfl
    | none =>
      exact drivePath_drivePath _

end Payloads

end RpaPlatform.Agents
