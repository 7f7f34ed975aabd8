import RpaPlatform.AgentUpserts

namespace RpaPlatform.Agents

open Tasks (Json)

/-!
# What a merge leaves at every path

The registry and the settings service merge objects with two recursions of
their own.  Both leave, at each path, what comes in there, or the merge of two
objects, or what was there; a value that is no object leaves nothing below it.
-/

/-! ### The merge of the settings service -/

mutual

/-- A value of `_deep_merge`, merged into the value there was. -/
def deepMergeValue (current : Option Json) : Json → Json
  | .obj patch =>
    match current with
    | some (.obj fields) => .obj (deepMerge fields patch)
    | _ => .obj patch
  | value =>
    value

def deepMerge (current : JsonObject) : JsonObject → JsonObject
  | [] =>
    current
  | (key, value) :: patch =>
    deepMerge
      (Dictionary.set key (deepMergeValue (current.lookup key) value) current)
      patch

end

mutual

theorem deepMergeValue_eq
    (current : Option Json)
    (value : Json) :
    deepMergeValue current value = mergeValue current value := by
  cases value with
  | obj patch =>
    have objects (fields : JsonObject) :
        deepMerge fields patch = mergeMetadata fields patch :=
      deepMerge_eq_mergeMetadata fields patch
    rcases current with _ | current
    · simp [deepMergeValue, mergeValue]
    · cases current <;> simp [deepMergeValue, mergeValue, objects]
  | _ =>
    simp [deepMergeValue, mergeValue]
termination_by sizeOf value

theorem deepMerge_eq_mergeMetadata
    (current patch : JsonObject) :
    deepMerge current patch = mergeMetadata current patch := by
  match patch with
  | [] =>
    simp [deepMerge, mergeMetadata]
  | (key, value) :: rest =>
    rw [deepMerge, mergeMetadata, deepMergeValue_eq,
      deepMerge_eq_mergeMetadata _ rest]
termination_by sizeOf patch

end

/-! ### Merging the same object again -/

theorem mergeMetadata_absorbed
    {fields incoming : JsonObject}
    (absorbed :
      ∀ entry ∈ incoming, ∃ merged,
        fields.lookup entry.1 = some merged ∧
          mergeValue (some merged) entry.2 = merged) :
    mergeMetadata fields incoming = fields := by
  induction incoming with
  | nil =>
    rw [mergeMetadata]
  | cons entry rest inductionHypothesis =>
    obtain ⟨merged, found, again⟩ :=
      absorbed entry List.mem_cons_self
    have unchanged :
        Dictionary.set entry.1
          (mergeValue (fields.lookup entry.1) entry.2) fields = fields := by
      rw [found, again]
      exact Dictionary.set_of_lookup found
    rw [mergeMetadata, unchanged]
    exact inductionHypothesis fun other member =>
      absorbed other (List.mem_cons_of_mem _ member)

theorem mergeMetadata_again_of_entries
    {incoming : JsonObject}
    (distinct : (incoming.map Prod.fst).Nodup)
    (again :
      ∀ entry ∈ incoming, ∀ existing,
        mergeValue (some (mergeValue existing entry.2)) entry.2 =
          mergeValue existing entry.2)
    (existing : JsonObject) :
    mergeMetadata (mergeMetadata existing incoming) incoming =
      mergeMetadata existing incoming := by
  apply mergeMetadata_absorbed
  intro entry member
  refine ⟨mergeValue (existing.lookup entry.1) entry.2, ?_,
    again entry member _⟩
  simp [lookup_mergeMetadata distinct, Dictionary.lookup_of_mem distinct member]

mutual

theorem mergeValue_again
    (value : Json)
    (distinct : Distinct value)
    (existing : Option Json) :
    mergeValue (some (mergeValue existing value)) value =
      mergeValue existing value := by
  cases value with
  | obj incoming =>
    have again := mergeValue_entries_again incoming distinct.2
    by_cases isObject : ∃ fields, existing = some (.obj fields)
    · obtain ⟨fields, rfl⟩ := isObject
      simp [mergeValue, mergeMetadata_again_of_entries distinct.1 again fields]
    · have notObject : ∀ fields, existing ≠ some (.obj fields) :=
        fun fields found => isObject ⟨fields, found⟩
      rw [mergeValue_of_notObject notObject, mergeValue]
      apply congrArg Json.obj
      apply mergeMetadata_absorbed
      intro entry member
      refine ⟨entry.2, Dictionary.lookup_of_mem distinct.1 member, ?_⟩
      have nothing : mergeValue none entry.2 = entry.2 :=
        mergeValue_of_notObject (by simp) entry.2
      simpa only [nothing] using again entry member none
  | _ =>
    simp [mergeValue]
termination_by sizeOf value

theorem mergeValue_entries_again
    (incoming : JsonObject)
    (distinct : DistinctFields incoming) :
    ∀ entry ∈ incoming, ∀ existing,
      mergeValue (some (mergeValue existing entry.2)) entry.2 =
        mergeValue existing entry.2 := by
  match incoming with
  | [] =>
    simp
  | (key, value) :: rest =>
    intro entry member
    rcases List.mem_cons.mp member with rfl | later
    · exact mergeValue_again value distinct.1
    · exact mergeValue_entries_again rest distinct.2 entry later
termination_by sizeOf incoming

end

theorem mergeMetadata_again
    {incoming : JsonObject}
    (parsed : ParsedFields incoming)
    (existing : JsonObject) :
    mergeMetadata (mergeMetadata existing incoming) incoming =
      mergeMetadata existing incoming :=
  mergeMetadata_again_of_entries parsed.1
    (mergeValue_entries_again incoming parsed.2) existing

/-! ### Paths -/

/-- Something other than an object comes in above the end of a path. -/
def cutsOff (incoming : JsonObject) : List String → Bool
  | [] | [_] =>
    false
  | key :: next :: rest =>
    match incoming.lookup key with
    | none => false
    | some (.obj inner) => cutsOff inner (next :: rest)
    | some _ => true

theorem lookup_of_valueAt?
    {fields : JsonObject}
    {key next : String}
    {rest : List String}
    {value : Json}
    (found : valueAt? fields (key :: next :: rest) = some value) :
    ∃ inner, fields.lookup key = some (.obj inner) ∧
      valueAt? inner (next :: rest) = some value := by
  rw [valueAt?, objectAt] at found
  split at found
  · rename_i inner isObject
    exact ⟨inner, isObject, found⟩
  · rw [valueAt?_nil] at found
    cases found

section Paths

variable
    {incoming : JsonObject}
    {path : List String}
    (parsed : ParsedFields incoming)
    (existing : JsonObject)

include parsed

/--
A value that comes in is left as it is where one of the two values is not an
object.
-/
theorem valueAt?_mergeMetadata_replaced
    {value : Json}
    (found : valueAt? incoming path = some value)
    (apart :
      (∀ fields, value ≠ .obj fields) ∨
        ∀ fields, valueAt? existing path ≠ some (.obj fields)) :
    valueAt? (mergeMetadata existing incoming) path = some value := by
  induction path generalizing incoming existing with
  | nil =>
    cases found
  | cons key rest inductionHypothesis =>
    cases rest with
    | nil =>
      have comes : incoming.lookup key = some value := found
      have kept : mergeValue (existing.lookup key) value = value := by
        rcases apart with isLeaf | notObject
        · cases value <;> simp_all [mergeValue]
        · exact mergeValue_of_notObject notObject value
      simp [valueAt?, lookup_mergeMetadata parsed.1, comes, kept]
    | cons next rest =>
      obtain ⟨inner, comes, found⟩ := lookup_of_valueAt? found
      rw [valueAt?_mergeMetadata_inner parsed comes]
      exact inductionHypothesis (parsed.lookup comes) _ found apart

theorem valueAt?_mergeMetadata_objects
    {fields inner : JsonObject}
    (comes : valueAt? incoming path = some (.obj inner))
    (stored : valueAt? existing path = some (.obj fields)) :
    valueAt? (mergeMetadata existing incoming) path =
      some (.obj (mergeMetadata fields inner)) := by
  induction path generalizing incoming existing with
  | nil =>
    cases comes
  | cons key rest inductionHypothesis =>
    cases rest with
    | nil =>
      have comes : incoming.lookup key = some (.obj inner) := comes
      have stored : existing.lookup key = some (.obj fields) := stored
      simp [valueAt?, lookup_mergeMetadata parsed.1, comes, stored, mergeValue]
    | cons next rest =>
      obtain ⟨outer, found, comes⟩ := lookup_of_valueAt? comes
      rw [valueAt?_mergeMetadata_inner parsed found]
      exact inductionHypothesis (parsed.lookup found) _ comes stored

theorem valueAt?_mergeMetadata_cut
    (cut : cutsOff incoming path = true) :
    valueAt? (mergeMetadata existing incoming) path = none := by
  induction path generalizing incoming existing with
  | nil =>
    cases cut
  | cons key rest inductionHypothesis =>
    cases rest with
    | nil =>
      cases cut
    | cons next rest =>
      rw [cutsOff] at cut
      split at cut
      · cases cut
      · rename_i inner found
        rw [valueAt?_mergeMetadata_inner parsed found]
        exact inductionHypothesis (parsed.lookup found) _ cut
      · rename_i value notObject found
        rw [valueAt?,
          objectAt_mergeMetadata_replaced parsed found notObject,
          valueAt?_nil]

omit parsed in
theorem determines_eq_false
    (nothing : valueAt? incoming path = none)
    (uncut : cutsOff incoming path = false) :
    determines incoming path = false := by
  induction path generalizing incoming with
  | nil =>
    rfl
  | cons key rest inductionHypothesis =>
    cases rest with
    | nil =>
      simpa [determines, valueAt?] using nothing
    | cons next rest =>
      rw [cutsOff] at uncut
      rw [valueAt?, objectAt] at nothing
      rw [determines]
      cases found : List.lookup key incoming with
      | none =>
        rfl
      | some value =>
        rw [found] at nothing uncut
        cases value with
        | obj inner =>
          exact inductionHypothesis nothing uncut
        | _ =>
          cases uncut

end Paths

/-! ### The merge as it is and as it is described -/

/-- What a merge of two objects leaves at a path. -/
structure MergedAt
    (merged existing incoming : JsonObject)
    (path : List String) : Prop where
  replaced :
    ∀ value, valueAt? incoming path = some value →
      (∀ fields, value ≠ .obj fields) ∨
        (∀ fields, valueAt? existing path ≠ some (.obj fields)) →
      valueAt? merged path = some value
  recursive :
    ∀ inner fields, valueAt? incoming path = some (.obj inner) →
      valueAt? existing path = some (.obj fields) →
      valueAt? merged path = some (.obj (mergeMetadata fields inner))
  kept :
    valueAt? incoming path = none → cutsOff incoming path = false →
      valueAt? merged path = valueAt? existing path
  dropped : cutsOff incoming path = true → valueAt? merged path = none

/--
What is at a path after a merge; the merge is idempotent, and it is the merge
of the settings service.
-/
theorem mergeMetadata_mergedAt
    {existing incoming : JsonObject}
    (parsed : ParsedFields incoming) :
    (∀ path,
        MergedAt (mergeMetadata existing incoming) existing incoming path) ∧
      mergeMetadata (mergeMetadata existing incoming) incoming =
          mergeMetadata existing incoming ∧
        deepMerge existing incoming = mergeMetadata existing incoming := by
  refine ⟨fun path => ?_, mergeMetadata_again parsed existing,
    deepMerge_eq_mergeMetadata existing incoming⟩
  refine
    { replaced := fun value found apart => ?_
      recursive := fun inner fields comes stored => ?_
      kept := fun nothing uncut => ?_
      dropped := fun cut => ?_ }
  · exact valueAt?_mergeMetadata_replaced parsed existing found apart
  · exact valueAt?_mergeMetadata_objects parsed existing comes stored
  · exact
      valueAt?_mergeMetadata_kept parsed (determines_eq_false nothing uncut)
        existing
  · exact valueAt?_mergeMetadata_cut parsed existing cut

/-- An object with an object in it, and one with a number in its place. -/
theorem mergeMetadata_mergedAt_leaf :
    (∀ path,
        MergedAt
          (mergeMetadata [("os", .obj [("name", .str "Windows")])]
            [("os", .num 11)])
          [("os", .obj [("name", .str "Windows")])] [("os", .num 11)]
          path) ∧
      mergeMetadata
          (mergeMetadata [("os", .obj [("name", .str "Windows")])]
            [("os", .num 11)])
          [("os", .num 11)] =
          mergeMetadata [("os", .obj [("name", .str "Windows")])]
            [("os", .num 11)] ∧
        deepMerge [("os", .obj [("name", .str "Windows")])]
            [("os", .num 11)] =
          mergeMetadata [("os", .obj [("name", .str "Windows")])]
            [("os", .num 11)] :=
  mergeMetadata_mergedAt (by simp [ParsedFields, Distinct, DistinctFields])

/--
A merge leaves what comes in where that is no object or meets none, the merge
of two objects, and what was there wherever nothing comes in.
-/
def MergesPathwise : Prop :=
  ∀ {existing incoming : JsonObject},
    ParsedFields existing →
    ParsedFields incoming →
    let merged := mergeMetadata existing incoming
    (∀ path,
        (∀ value, valueAt? incoming path = some value →
          (∀ fields, value ≠ .obj fields) ∨
            (∀ fields, valueAt? existing path ≠ some (.obj fields)) →
          valueAt? merged path = some value) ∧
        (∀ inner fields, valueAt? incoming path = some (.obj inner) →
          valueAt? existing path = some (.obj fields) →
          valueAt? merged path = some (.obj (mergeMetadata fields inner))) ∧
        (valueAt? incoming path = none →
          valueAt? merged path = valueAt? existing path)) ∧
      mergeMetadata merged incoming = merged ∧
        deepMerge existing incoming = merged

/-- What was below a value that is replaced is gone, though nothing came. -/
theorem not_mergesPathwise : ¬ MergesPathwise := by
  intro merges
  let existing : JsonObject := [("os", .obj [("name", .str "Windows")])]
  let incoming : JsonObject := [("os", .num 11)]
  have kept :=
    ((@merges existing incoming
          (by simp [existing, ParsedFields, Distinct, DistinctFields])
          (by simp [incoming, ParsedFields, Distinct, DistinctFields])).1
        ["os", "name"]).2.2 rfl
  cases kept

end RpaPlatform.Agents
