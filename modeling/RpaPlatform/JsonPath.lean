import RpaPlatform.AgentRegistry

namespace RpaPlatform.Agents

open Tasks (Json)

/-!
# Paths into metadata

Metadata is merged recursively, so what a merge leaves at a path depends on
how far the incoming object follows the path: where it leaves the path before
the end, the value there is kept; otherwise the merge determines it.
-/

/-- The object under a key, or an empty one. -/
def objectAt (fields : JsonObject) (key : String) : JsonObject :=
  match fields.lookup key with
  | some (.obj inner) => inner
  | _ => []

/-- The value at a path. -/
def valueAt? (fields : JsonObject) : List String → Option Json
  | [] =>
    none
  | [key] =>
    fields.lookup key
  | key :: next :: rest =>
    valueAt? (objectAt fields key) (next :: rest)

/-- Put a value at a path. -/
def setAt (value : Json) : List String → JsonObject → JsonObject
  | [], fields =>
    fields
  | [key], fields =>
    Dictionary.set key value fields
  | key :: next :: rest, fields =>
    Dictionary.set key
      (.obj (setAt value (next :: rest) (objectAt fields key))) fields

/-- Whether merging an object determines what is at a path. -/
def determines (incoming : JsonObject) : List String → Bool
  | [] =>
    false
  | [key] =>
    (incoming.lookup key).isSome
  | key :: next :: rest =>
    match incoming.lookup key with
    | none => false
    | some (.obj inner) => determines inner (next :: rest)
    | some _ => true

/-! ### Distinct keys -/

mutual

/-- No object in a value has the same key twice. -/
def Distinct : Json → Prop
  | .obj fields => (fields.map Prod.fst).Nodup ∧ DistinctFields fields
  | .arr items => DistinctItems items
  | _ => True

def DistinctFields : JsonObject → Prop
  | [] => True
  | (_, value) :: rest => Distinct value ∧ DistinctFields rest

def DistinctItems : List Json → Prop
  | [] => True
  | value :: rest => Distinct value ∧ DistinctItems rest

end

def ParsedFields (fields : JsonObject) : Prop :=
  Distinct (.obj fields)

theorem distinctFields_iff
    {fields : JsonObject} :
    DistinctFields fields ↔ ∀ entry ∈ fields, Distinct entry.2 := by
  induction fields with
  | nil =>
    simp [DistinctFields]
  | cons entry rest inductionHypothesis =>
    obtain ⟨key, value⟩ := entry
    simp [DistinctFields, inductionHypothesis]

variable
    {fields : JsonObject}
    {key : String}
    {value : Json}
    {incoming : JsonObject}
    {first second : JsonObject}
    {path : List String}

theorem distinct_of_member
    (distinct : DistinctFields fields)
    {entry : String × Json}
    (member : entry ∈ fields) : Distinct entry.2 :=
  distinctFields_iff.mp distinct entry member

theorem ParsedFields.lookup
    (parsed : ParsedFields fields)
    (found : fields.lookup key = some value) : Distinct value :=
  distinct_of_member parsed.2 (Dictionary.mem_of_lookup found)

theorem ParsedFields.nil : ParsedFields [] :=
  ⟨List.nodup_nil, trivial⟩

theorem ParsedFields.set
    (parsed : ParsedFields fields)
    (key : String)
    (distinct : Distinct value) :
    ParsedFields (Dictionary.set key value fields) := by
  refine ⟨Dictionary.nodup_keys_set key value parsed.1, ?_⟩
  refine distinctFields_iff.mpr fun entry member => ?_
  rcases Dictionary.mem_set member with rfl | earlier
  · exact distinct
  · exact distinct_of_member parsed.2 earlier

mutual

theorem distinct_mergeValue
    {existing : Option Json}
    (stored : ∀ value ∈ existing, Distinct value)
    (value : Json)
    (distinct : Distinct value) :
    Distinct (mergeValue existing value) := by
  cases value with
  | obj incoming =>
    unfold mergeValue
    split
    · rename_i fields
      exact
        parsedFields_mergeMetadata (stored (.obj fields) rfl) incoming distinct
    · exact distinct
  | _ =>
    rw [mergeValue]
    · exact distinct
    · exact nofun
termination_by sizeOf value

theorem parsedFields_mergeMetadata
    {existing : JsonObject}
    (stored : ParsedFields existing)
    (incoming : JsonObject)
    (parsed : ParsedFields incoming) :
    ParsedFields (mergeMetadata existing incoming) := by
  match incoming with
  | [] =>
    rw [mergeMetadata]
    exact stored
  | (key, value) :: rest =>
    rw [mergeMetadata]
    have restParsed : ParsedFields rest :=
      ⟨(List.nodup_cons.mp parsed.1).2, parsed.2.2⟩
    refine parsedFields_mergeMetadata ?_ rest restParsed
    refine stored.set key (distinct_mergeValue ?_ value parsed.2.1)
    exact fun value found => stored.lookup found
termination_by sizeOf incoming

end

/-! ### Merging -/

theorem mergeValue_of_notObject
    {existing : Option Json}
    (notObject : ∀ fields, existing ≠ some (.obj fields))
    (value : Json) :
    mergeValue existing value = value := by
  cases value with
  | obj incoming =>
    rw [mergeValue]
    exact notObject
  | _ =>
    rw [mergeValue]
    exact nofun

theorem lookup_mergeMetadata
    (distinct : (incoming.map Prod.fst).Nodup)
    (existing : JsonObject)
    (key : String) :
    (mergeMetadata existing incoming).lookup key =
      match incoming.lookup key with
      | none => existing.lookup key
      | some value => some (mergeValue (existing.lookup key) value) := by
  induction incoming generalizing existing with
  | nil =>
    rw [mergeMetadata]
    rfl
  | cons entry rest inductionHypothesis =>
    obtain ⟨first, value⟩ := entry
    obtain ⟨fresh, distinct⟩ := List.nodup_cons.mp distinct
    rw [mergeMetadata, inductionHypothesis distinct]
    by_cases same : key = first
    · subst first
      rw [Dictionary.lookup_eq_none_iff.mpr fresh, List.lookup_cons_self]
      exact Dictionary.lookup_set_self _ _ _
    · have different : (key == first) = false := by
        simpa using same
      rw [List.lookup_cons, different]
      dsimp only
      rw [Dictionary.lookup_set_other same]

theorem objectAt_mergeMetadata_absent
    (absent : incoming.lookup key = none)
    (existing : JsonObject) :
    objectAt (mergeMetadata existing incoming) key = objectAt existing key := by
  unfold objectAt
  rw [lookup_mergeMetadata_absent absent]

theorem lookup_objectAt_mergeMetadata
    {incoming inner : JsonObject}
    (parsed : ParsedFields incoming)
    (found : incoming.lookup key = some (.obj inner))
    (existing : JsonObject)
    (wanted : String) :
    (objectAt (mergeMetadata existing incoming) key).lookup wanted =
      (mergeMetadata (objectAt existing key) inner).lookup wanted := by
  have innerParsed : ParsedFields inner := parsed.lookup found
  have merged := lookup_mergeMetadata parsed.1 existing key
  rw [found] at merged
  dsimp only at merged
  by_cases isObject : ∃ fields, existing.lookup key = some (.obj fields)
  · obtain ⟨fields, stored⟩ := isObject
    unfold objectAt
    rw [merged, stored, mergeValue]
  · have notObject : ∀ fields, existing.lookup key ≠ some (.obj fields) :=
      fun fields stored => isObject ⟨fields, stored⟩
    have nothing : objectAt existing key = [] := by
      unfold objectAt
      split
      · rename_i fields stored
        exact absurd stored (notObject fields)
      · rfl
    rw [mergeValue_of_notObject notObject] at merged
    rw [nothing, lookup_mergeMetadata innerParsed.1, objectAt, merged]
    dsimp only
    cases inner.lookup wanted with
    | none =>
      rfl
    | some value =>
      have nowhere :
          ∀ fields, ([] : JsonObject).lookup wanted ≠ some (.obj fields) :=
        by simp
      exact congrArg some (mergeValue_of_notObject nowhere value).symm

theorem objectAt_mergeMetadata_replaced
    (parsed : ParsedFields incoming)
    (found : incoming.lookup key = some value)
    (notObject : ∀ fields, value ≠ .obj fields)
    (existing : JsonObject) :
    objectAt (mergeMetadata existing incoming) key = [] := by
  have merged := lookup_mergeMetadata parsed.1 existing key
  rw [found] at merged
  unfold objectAt
  rw [merged]
  cases value with
  | obj fields =>
    exact absurd rfl (notObject fields)
  | _ =>
    dsimp only
    rw [mergeValue]
    exact notObject

theorem valueAt?_congr
    (same : ∀ key, first.lookup key = second.lookup key)
    (path : List String) :
    valueAt? first path = valueAt? second path := by
  match path with
  | [] =>
    rfl
  | [key] =>
    exact same key
  | key :: next :: rest =>
    unfold valueAt? objectAt
    rw [same key]

theorem valueAt?_head_congr
    (same : first.lookup key = second.lookup key)
    (rest : List String) :
    valueAt? first (key :: rest) = valueAt? second (key :: rest) := by
  cases rest with
  | nil =>
    exact same
  | cons next rest =>
    rw [valueAt?, valueAt?, objectAt, objectAt, same]

theorem valueAt?_mergeMetadata_congr
    (firstDistinct : (first.map Prod.fst).Nodup)
    (secondDistinct : (second.map Prod.fst).Nodup)
    (same : first.lookup key = second.lookup key)
    (existing : JsonObject)
    (rest : List String) :
    valueAt? (mergeMetadata existing first) (key :: rest) =
      valueAt? (mergeMetadata existing second) (key :: rest) := by
  apply valueAt?_head_congr
  rw [lookup_mergeMetadata firstDistinct,
    lookup_mergeMetadata secondDistinct, same]

theorem valueAt?_mergeMetadata_inner
    {incoming inner : JsonObject}
    (parsed : ParsedFields incoming)
    (found : incoming.lookup key = some (.obj inner))
    (existing : JsonObject)
    (next : String)
    (rest : List String) :
    valueAt? (mergeMetadata existing incoming) (key :: next :: rest) =
      valueAt? (mergeMetadata (objectAt existing key) inner)
        (next :: rest) := by
  rw [valueAt?]
  exact valueAt?_congr
    (lookup_objectAt_mergeMetadata parsed found existing) (next :: rest)

theorem valueAt?_mergeMetadata_kept
    (parsed : ParsedFields incoming)
    (undetermined : determines incoming path = false)
    (existing : JsonObject) :
    valueAt? (mergeMetadata existing incoming) path =
      valueAt? existing path := by
  induction path generalizing incoming existing with
  | nil =>
    rfl
  | cons key rest inductionHypothesis =>
    cases rest with
    | nil =>
      apply lookup_mergeMetadata_absent
      simpa [determines] using undetermined
    | cons next rest =>
      rw [determines] at undetermined
      split at undetermined
      · rename_i absent
        rw [valueAt?, objectAt_mergeMetadata_absent absent]
        rfl
      · rename_i inner found
        rw [valueAt?_mergeMetadata_inner parsed found,
          inductionHypothesis (parsed.lookup found) undetermined]
        rfl
      · cases undetermined

theorem valueAt?_mergeMetadata_determined
    (parsed : ParsedFields incoming)
    (determined : determines incoming path = true)
    (firstLeaf : ∀ fields, valueAt? first path ≠ some (.obj fields))
    (secondLeaf : ∀ fields, valueAt? second path ≠ some (.obj fields)) :
    valueAt? (mergeMetadata first incoming) path =
      valueAt? (mergeMetadata second incoming) path := by
  induction path generalizing incoming first second with
  | nil =>
    cases determined
  | cons key rest inductionHypothesis =>
    cases rest with
    | nil =>
      obtain ⟨value, found⟩ := Option.isSome_iff_exists.mp determined
      unfold valueAt?
      rw [lookup_mergeMetadata parsed.1, lookup_mergeMetadata parsed.1, found]
      dsimp only
      exact congrArg some
        ((mergeValue_of_notObject firstLeaf value).trans
          (mergeValue_of_notObject secondLeaf value).symm)
    | cons next rest =>
      rw [determines] at determined
      split at determined
      · cases determined
      · rename_i inner found
        rw [valueAt?_mergeMetadata_inner parsed found,
          valueAt?_mergeMetadata_inner parsed found]
        exact inductionHypothesis (parsed.lookup found) determined
          firstLeaf secondLeaf
      · rename_i value notObject found
        have replaced :=
          objectAt_mergeMetadata_replaced parsed found notObject
        rw [valueAt?, valueAt?, replaced, replaced]

theorem valueAt?_setAt
    (value : Json)
    (nonempty : path ≠ [])
    (fields : JsonObject) :
    valueAt? (setAt value path fields) path = some value := by
  induction path generalizing fields with
  | nil =>
    exact absurd rfl nonempty
  | cons key rest inductionHypothesis =>
    cases rest with
    | nil =>
      exact Dictionary.lookup_set_self _ _ _
    | cons next rest =>
      rw [setAt, valueAt?, objectAt, Dictionary.lookup_set_self]
      exact inductionHypothesis (by simp) _

theorem valueAt?_set_other
    {key first : String}
    (different : first ≠ key)
    (value : Json)
    (fields : JsonObject)
    (rest : List String) :
    valueAt? (Dictionary.set key value fields) (first :: rest) =
      valueAt? fields (first :: rest) :=
  valueAt?_head_congr (Dictionary.lookup_set_other different value fields) rest

theorem valueAt?_setAt_other
    (value : Json)
    {path other : List String}
    (notBelow : ¬ path <+: other)
    (notAbove : ¬ other <+: path)
    (fields : JsonObject) :
    valueAt? (setAt value path fields) other = valueAt? fields other := by
  induction path generalizing other fields with
  | nil =>
    exact absurd List.nil_prefix notBelow
  | cons key rest inductionHypothesis =>
    cases other with
    | nil =>
      exact absurd List.nil_prefix notAbove
    | cons first others =>
      by_cases same : first = key
      · subst first
        rw [List.cons_prefix_cons] at notBelow notAbove
        have notBelow : ¬ rest <+: others :=
          fun below => notBelow ⟨rfl, below⟩
        have notAbove : ¬ others <+: rest :=
          fun above => notAbove ⟨rfl, above⟩
        cases rest with
        | nil =>
          exact absurd List.nil_prefix notBelow
        | cons next rest =>
          cases others with
          | nil =>
            exact absurd List.nil_prefix notAbove
          | cons next others =>
            rw [setAt, valueAt?, objectAt, Dictionary.lookup_set_self]
            exact inductionHypothesis notBelow notAbove _
      · cases rest with
        | nil =>
          exact valueAt?_set_other same _ _ _
        | cons next rest =>
          exact valueAt?_set_other same _ _ _

end RpaPlatform.Agents
