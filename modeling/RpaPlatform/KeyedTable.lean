import Mathlib.Data.List.Basic
import Mathlib.Data.List.Nodup

namespace RpaPlatform

/-!
# Tables with a primary key

The rows of a relational table, in insertion order, together with the fact
that no two of them share a key.  `insert?` is an `INSERT` that fails on a
duplicate key and `modify` is an `UPDATE … WHERE key = …` of columns outside
the key; the uniqueness of the key is carried by the type.
-/

universe rowLevel keyLevel

/-- Rows in insertion order, no two of which share a key. -/
structure KeyedTable
    (Row : Type rowLevel)
    {Key : Type keyLevel}
    (key : Row → Key) where
  /-- The stored rows. -/
  rows : List Row
  /-- The key column is unique. -/
  distinct : (rows.map key).Nodup

namespace KeyedTable

variable {Row : Type rowLevel} {Key : Type keyLevel} {key : Row → Key}

/-- The table without rows. -/
def empty : KeyedTable Row key where
  rows :=
    []
  distinct :=
    List.nodup_nil

@[simp]
theorem empty_rows :
    (empty : KeyedTable Row key).rows = [] :=
  rfl

theorem eq_of_key
    (table : KeyedTable Row key)
    {first second : Row}
    (firstMember : first ∈ table.rows)
    (secondMember : second ∈ table.rows)
    (sameKey : key first = key second) :
    first = second :=
  List.inj_on_of_nodup_map table.distinct firstMember secondMember sameKey

theorem eq_of_rows
    {first second : KeyedTable Row key}
    (same : first.rows = second.rows) :
    first = second := by
  obtain ⟨rows, distinct⟩ := first
  obtain ⟨otherRows, otherDistinct⟩ := second
  cases same
  rfl

variable [DecidableEq Key]

/-- `SELECT * … WHERE key = wanted`. -/
def find?
    (table : KeyedTable Row key)
    (wanted : Key) : Option Row :=
  table.rows.find? fun row => decide (key row = wanted)

/-- `INSERT`, which fails when the key is taken. -/
def insert?
    (table : KeyedTable Row key)
    (row : Row) : Option (KeyedTable Row key) :=
  if fresh : key row ∈ table.rows.map key then
    none
  else
    some {
      rows :=
        table.rows ++ [row]
      distinct := by
        rw [List.map_append]
        exact List.nodup_append.mpr
          ⟨table.distinct, List.nodup_singleton _, by
            rintro taken takenMember _ rowMember rfl
            simp only [List.map_cons, List.map_nil,
              List.mem_singleton] at rowMember
            exact fresh (rowMember ▸ takenMember)⟩
    }

/-- `UPDATE … WHERE key = wanted` by a change that keeps the key. -/
def modify
    (table : KeyedTable Row key)
    (wanted : Key)
    (change : Row → Row)
    (keepsKey : ∀ row, key (change row) = key row) :
    KeyedTable Row key where
  rows :=
    table.rows.map fun row =>
      if key row = wanted then change row else row
  distinct := by
    have sameKeys :
        (table.rows.map fun row =>
            if key row = wanted then change row else row).map key =
          table.rows.map key := by
      rw [List.map_map]
      apply List.map_congr_left
      intro row _
      by_cases named : key row = wanted
      · simp [named, keepsKey]
      · simp [named]
    rw [sameKeys]
    exact table.distinct

/-- `DELETE … WHERE key = wanted`. -/
def delete
    (table : KeyedTable Row key)
    (wanted : Key) : KeyedTable Row key where
  rows :=
    table.rows.filter fun row => decide (key row ≠ wanted)
  distinct :=
    table.distinct.sublist (List.filter_sublist.map key)

/-- `DELETE … WHERE`, by a condition on other columns. -/
def deleteWhere
    (table : KeyedTable Row key)
    (condition : Row → Bool) : KeyedTable Row key where
  rows :=
    table.rows.filter fun row => !condition row
  distinct :=
    table.distinct.sublist (List.filter_sublist.map key)

/-- `INSERT OR REPLACE`. -/
def replace
    (table : KeyedTable Row key)
    (row : Row) : KeyedTable Row key where
  rows :=
    (table.delete (key row)).rows ++ [row]
  distinct := by
    rw [List.map_append, List.nodup_append]
    refine ⟨(table.delete (key row)).distinct, List.nodup_singleton _, ?_⟩
    rintro _ taken _ added rfl
    obtain ⟨other, member, same⟩ := List.mem_map.mp taken
    have different := (List.mem_filter.mp member).2
    rw [List.map_singleton, List.mem_singleton] at added
    exact of_decide_eq_true different (same.trans added)

/-- `INSERT OR REPLACE` of several rows. -/
def replaceAll
    (table : KeyedTable Row key)
    (rows : List Row) : KeyedTable Row key :=
  rows.foldl replace table

/-- `INSERT … ON CONFLICT (key) DO UPDATE`. -/
def upsert
    (table : KeyedTable Row key)
    (row : Row)
    (change : Row → Row)
    (keepsKey : ∀ row, key (change row) = key row) :
    KeyedTable Row key :=
  match table.insert? row with
  | some extended => extended
  | none => table.modify (key row) change keepsKey

variable
    {wanted : Key}
    {table : KeyedTable Row key}
    {row : Row}
    {extended : KeyedTable Row key}
    {change : Row → Row}

theorem find?_eq_some_iff
    (table : KeyedTable Row key)
    {row : Row} :
    table.find? wanted = some row ↔ row ∈ table.rows ∧ key row = wanted := by
  constructor
  · intro found
    refine ⟨List.mem_of_find?_eq_some found, ?_⟩
    simpa using List.find?_some found
  · rintro ⟨member, named⟩
    cases found : table.find? wanted with
    | none =>
      have absent := List.find?_eq_none.mp found row member
      simp [named] at absent
    | some other =>
      have otherNamed : key other = wanted := by
        simpa using List.find?_some found
      rw [table.eq_of_key (List.mem_of_find?_eq_some found) member
        (otherNamed.trans named.symm)]

theorem find?_eq_none_iff
    (table : KeyedTable Row key)
    {wanted : Key} :
    table.find? wanted = none ↔ ∀ row ∈ table.rows, key row ≠ wanted := by
  simp [find?, List.find?_eq_none]

theorem key_of_find?
    (found : table.find? wanted = some row) :
    key row = wanted :=
  (table.find?_eq_some_iff.mp found).2

theorem insert?_eq_some
    (inserted : table.insert? row = some extended) :
    key row ∉ table.rows.map key ∧ extended.rows = table.rows ++ [row] := by
  unfold insert? at inserted
  split at inserted
  · cases inserted
  · rename_i fresh
    cases inserted
    exact ⟨fresh, rfl⟩

theorem find?_eq_none_of_insert?
    (inserted : table.insert? row = some extended) :
    table.find? (key row) = none := by
  rw [find?_eq_none_iff]
  intro other member same
  exact (insert?_eq_some inserted).1 (List.mem_map.mpr ⟨other, member, same⟩)

theorem insert?_isSome
    (table : KeyedTable Row key)
    (fresh : key row ∉ table.rows.map key) :
    (table.insert? row).isSome = true := by
  simp [insert?, fresh]

theorem find?_insert?
    (inserted : table.insert? row = some extended)
    (wanted : Key) :
    extended.find? wanted =
      if key row = wanted then some row else table.find? wanted := by
  obtain ⟨fresh, rows⟩ := insert?_eq_some inserted
  by_cases named : key row = wanted
  · rw [if_pos named]
    exact extended.find?_eq_some_iff.mpr ⟨by simp [rows], named⟩
  · rw [if_neg named]
    simp [find?, rows, List.find?_append, named]

theorem find?_modify
    (table : KeyedTable Row key)
    (updated : Key)
    (change : Row → Row)
    (keepsKey : ∀ row, key (change row) = key row)
    (wanted : Key) :
    (table.modify updated change keepsKey).find? wanted =
      if updated = wanted then
        (table.find? wanted).map change
      else
        table.find? wanted := by
  unfold find? modify
  rw [List.find?_map]
  have sameTest :
      ((fun row => decide (key row = wanted)) ∘ fun row =>
          if key row = updated then change row else row) =
        fun row => decide (key row = wanted) := by
    funext row
    by_cases named : key row = updated
    · simp [named, keepsKey]
    · simp [named]
  rw [sameTest]
  by_cases same : updated = wanted
  · subst updated
    rw [if_pos rfl]
    cases found : table.rows.find? fun row => decide (key row = wanted) with
    | none =>
      rfl
    | some row =>
      have named : key row = wanted := by
        simpa using List.find?_some found
      simp [named]
  · rw [if_neg same]
    cases found : table.rows.find? fun row => decide (key row = wanted) with
    | none =>
      rfl
    | some row =>
      have named : key row = wanted := by
        simpa using List.find?_some found
      have different : ¬ wanted = updated :=
        fun equal => same equal.symm
      simp [named, different]

theorem find?_delete
    (table : KeyedTable Row key)
    {deleted wanted : Key}
    (other : wanted ≠ deleted) :
    (table.delete deleted).find? wanted = table.find? wanted := by
  unfold find? delete
  rw [List.find?_filter]
  congr 1
  funext row
  by_cases named : key row = wanted
  · simp [named, other]
  · simp [named]

theorem find?_delete_self
    (table : KeyedTable Row key)
    (deleted : Key) :
    (table.delete deleted).find? deleted = none := by
  rw [find?_eq_none_iff]
  intro row member
  simpa using (List.mem_filter.mp member).2

theorem find?_deleteWhere
    (table : KeyedTable Row key)
    (condition : Row → Bool)
    (wanted : Key) :
    (table.deleteWhere condition).find? wanted =
      (table.find? wanted).filter (!condition ·) := by
  apply Option.ext
  intro row
  rw [find?_eq_some_iff, Option.filter_eq_some_iff, find?_eq_some_iff]
  unfold deleteWhere
  rw [List.mem_filter, and_right_comm]

theorem find?_replace
    (table : KeyedTable Row key)
    (row : Row)
    (wanted : Key) :
    (table.replace row).find? wanted =
      if key row = wanted then some row else table.find? wanted := by
  unfold replace
  split
  · rename_i named
    refine (find?_eq_some_iff _).mpr ⟨?_, named⟩
    exact List.mem_append_right _ (List.mem_singleton_self row)
  · rename_i other
    rw [← table.find?_delete (Ne.symm other)]
    unfold find?
    rw [List.find?_append, List.find?_singleton, decide_eq_false other]
    exact Option.or_none

theorem find?_replaceAll
    (table : KeyedTable Row key)
    {rows : List Row}
    (different : (rows.map key).Nodup)
    (wanted : Key) :
    (table.replaceAll rows).find? wanted =
      (rows.find? fun row => decide (key row = wanted)).or
        (table.find? wanted) := by
  unfold replaceAll
  induction rows generalizing table with
  | nil =>
    rfl
  | cons row rest inductionHypothesis =>
    obtain ⟨fresh, differentRest⟩ := List.nodup_cons.mp different
    rw [List.foldl_cons, inductionHypothesis _ differentRest,
      find?_replace, List.find?_cons]
    by_cases named : key row = wanted
    · have absent :
          rest.find? (fun other => decide (key other = wanted)) = none := by
        rw [List.find?_eq_none]
        intro other member same
        have sameKey := (of_decide_eq_true same).trans named.symm
        exact fresh (List.mem_map.mpr ⟨other, member, sameKey⟩)
      rw [absent, if_pos named, decide_eq_true named]
      rfl
    · rw [if_neg named, decide_eq_false named]

theorem mem_replaceAll
    (table : KeyedTable Row key)
    {rows : List Row}
    (different : (rows.map key).Nodup)
    {row : Row} :
    row ∈ (table.replaceAll rows).rows ↔
      row ∈ rows ∨ row ∈ table.rows ∧ key row ∉ rows.map key := by
  have found :
      ∀ (stored : KeyedTable Row key),
        row ∈ stored.rows ↔ stored.find? (key row) = some row := by
    intro stored
    rw [find?_eq_some_iff]
    exact ⟨fun member => ⟨member, rfl⟩, And.left⟩
  rw [found, find?_replaceAll table different]
  cases replaced : rows.find? fun other => decide (key other = key row) with
  | some other =>
    have member := List.mem_of_find?_eq_some replaced
    have sameKey : key other = key row := by
      simpa using List.find?_some replaced
    have taken : key row ∈ rows.map key :=
      List.mem_map.mpr ⟨other, member, sameKey⟩
    constructor
    · intro same
      exact .inl (Option.some.inj same ▸ member)
    · rintro (isNew | ⟨_, fresh⟩)
      · rw [List.inj_on_of_nodup_map different member isNew sameKey]
        rfl
      · exact (fresh taken).elim
  | none =>
    have fresh : key row ∉ rows.map key := by
      intro taken
      obtain ⟨other, member, sameKey⟩ := List.mem_map.mp taken
      have differs := List.find?_eq_none.mp replaced other member
      exact differs (decide_eq_true sameKey)
    rw [Option.none_or, ← found]
    constructor
    · exact fun member => .inr ⟨member, fresh⟩
    · rintro (isNew | ⟨member, _⟩)
      · exact (fresh (List.mem_map.mpr ⟨row, isNew, rfl⟩)).elim
      · exact member

/-- The table of what a view shows of the rows. -/
def map
    {View : Type*}
    {viewKey : View → Key}
    (table : KeyedTable Row key)
    (view : Row → View)
    (keepsKey : ∀ row, viewKey (view row) = key row) :
    KeyedTable View viewKey where
  rows :=
    table.rows.map view
  distinct := by
    have sameKeys : viewKey ∘ view = key := funext keepsKey
    rw [List.map_map, sameKeys]
    exact table.distinct

theorem map_replaceAll
    {View : Type*}
    {viewKey : View → Key}
    (table : KeyedTable Row key)
    (rows : List Row)
    (view : Row → View)
    (keepsKey : ∀ row, viewKey (view row) = key row) :
    (table.replaceAll rows).map view keepsKey =
      (table.map view keepsKey).replaceAll (rows.map view) := by
  unfold replaceAll
  induction rows generalizing table with
  | nil =>
    rfl
  | cons row rest inductionHypothesis =>
    rw [List.foldl_cons, inductionHypothesis, List.map_cons, List.foldl_cons]
    congr 1
    apply eq_of_rows
    simp only [map, replace, delete, List.map_append, List.map_cons,
      List.map_nil, List.filter_map, Function.comp_def, keepsKey]

theorem find?_upsert
    (table : KeyedTable Row key)
    (row : Row)
    (change : Row → Row)
    (keepsKey : ∀ row, key (change row) = key row)
    (wanted : Key) :
    (table.upsert row change keepsKey).find? wanted = if key row = wanted then
        some (((table.find? wanted).map change).getD row)
      else
        table.find? wanted := by
  unfold upsert
  split
  · rename_i extended inserted
    rw [find?_insert? inserted]
    by_cases named : key row = wanted
    · have fresh := find?_eq_none_of_insert? inserted
      rw [named] at fresh
      rw [if_pos named, if_pos named, fresh]
      rfl
    · rw [if_neg named, if_neg named]
  · rename_i taken
    rw [find?_modify]
    by_cases named : key row = wanted
    · have stored : (table.find? wanted).isSome = true := by
        by_contra absent
        have fresh : key row ∉ table.rows.map key := by
          rw [named]
          intro member
          obtain ⟨other, otherMember, otherNamed⟩ :=
            List.mem_map.mp member
          rw [Bool.not_eq_true, Option.isSome_eq_false_iff,
            Option.isNone_iff_eq_none, find?_eq_none_iff] at absent
          exact absent other otherMember otherNamed
        have inserts := table.insert?_isSome fresh
        rw [taken] at inserts
        cases inserts
      obtain ⟨found, isFound⟩ := Option.isSome_iff_exists.mp stored
      rw [if_pos named, if_pos named, isFound]
      rfl
    · rw [if_neg named, if_neg named]

theorem modify_eq_self_iff
    (table : KeyedTable Row key)
    (found : table.find? wanted = some row)
    (change : Row → Row)
    (keepsKey : ∀ row, key (change row) = key row) :
    table.modify wanted change keepsKey = table ↔ change row = row := by
  constructor
  · intro same
    have after := table.find?_modify wanted change keepsKey wanted
    rw [same, if_pos rfl, found] at after
    exact (Option.some.inj after).symm
  · intro same
    have stored := (table.find?_eq_some_iff).mp found
    apply eq_of_rows
    refine (List.map_congr_left ?_).trans (List.map_id _)
    intro other member
    by_cases named : key other = wanted
    · have isRow : other = row :=
        table.eq_of_key member stored.1 (named.trans stored.2.symm)
      rw [if_pos named, isRow]
      exact same
    · rw [if_neg named]
      rfl

theorem upsert_eq_self_iff
    (table : KeyedTable Row key)
    (row : Row)
    (change : Row → Row)
    (keepsKey : ∀ row, key (change row) = key row) :
    table.upsert row change keepsKey = table ↔
      ∃ stored,
        table.find? (key row) = some stored ∧ change stored = stored := by
  constructor
  · intro same
    have after := table.find?_upsert row change keepsKey (key row)
    rw [same, if_pos rfl] at after
    cases found : table.find? (key row) with
    | none =>
      rw [found] at after
      cases after
    | some stored =>
      rw [found] at after
      exact ⟨stored, rfl, (Option.some.inj after).symm⟩
  · rintro ⟨stored, found, same⟩
    have taken : table.insert? row = none := by
      cases inserted : table.insert? row with
      | none =>
        rfl
      | some extended =>
        rw [find?_eq_none_of_insert? inserted] at found
        cases found
    unfold upsert
    rw [taken]
    exact (table.modify_eq_self_iff found change keepsKey).mpr same

theorem map_modify
    {View : Type*}
    (view : Row → View)
    (table : KeyedTable Row key)
    (updated : Key)
    (change : Row → Row)
    (keepsKey : ∀ row, key (change row) = key row)
    (keepsView : ∀ row, view (change row) = view row) :
    (table.modify updated change keepsKey).rows.map view =
      table.rows.map view := by
  unfold modify
  rw [List.map_map]
  apply List.map_congr_left
  intro row _
  by_cases named : key row = updated
  · simp [named, keepsView]
  · simp [named]

theorem mem_rows_modify
    {updated : Key}
    {keepsKey : ∀ row, key (change row) = key row}
    {found : Row}
    (member : found ∈ (table.modify updated change keepsKey).rows) :
    found ∈ table.rows ∨
      ∃ stored ∈ table.rows, key stored = updated ∧ found = change stored := by
  obtain ⟨stored, isStored, same⟩ := List.mem_map.mp member
  split at same
  · rename_i named
    exact .inr ⟨stored, isStored, named, same.symm⟩
  · exact .inl (same ▸ isStored)

theorem mem_rows_upsert
    {row found : Row}
    {keepsKey : ∀ row, key (change row) = key row}
    (member : found ∈ (table.upsert row change keepsKey).rows) :
    found ∈ table.rows ∨ found = row ∨
      ∃ stored ∈ table.rows, key stored = key row ∧ found = change stored := by
  unfold upsert at member
  split at member
  · rename_i extended inserted
    rw [(insert?_eq_some inserted).2] at member
    rcases List.mem_append.mp member with old | isNew
    · exact .inl old
    · exact .inr (.inl (List.mem_singleton.mp isNew))
  · rcases mem_rows_modify member with old | changed
    · exact .inl old
    · exact .inr (.inr changed)

theorem mem_keys_upsert
    {keepsKey : ∀ row, key (change row) = key row}
    {wanted : Key} :
    wanted ∈ (table.upsert row change keepsKey).rows.map key ↔
      wanted = key row ∨ wanted ∈ table.rows.map key := by
  unfold upsert
  split
  · rename_i extended inserted
    rw [(insert?_eq_some inserted).2, List.map_append, List.mem_append,
      List.map_singleton, List.mem_singleton]
    exact or_comm
  · rename_i taken
    have stored : key row ∈ table.rows.map key := by
      by_contra fresh
      have inserts := table.insert?_isSome fresh
      rw [taken] at inserts
      cases inserts
    rw [map_modify key table (key row) change keepsKey keepsKey]
    constructor
    · exact Or.inr
    · rintro (rfl | member)
      · exact stored
      · exact member

end KeyedTable

end RpaPlatform
