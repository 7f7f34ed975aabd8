import Mathlib.Data.List.Basic
import Mathlib.Data.List.Nodup

namespace RpaPlatform.Dictionary

/-!
# Dictionaries in insertion order

A dictionary is the list of its entries in the order in which their keys were
first set.  Setting a key that is present changes its value in place.
-/

universe keyLevel valueLevel

variable
    {Key : Type keyLevel}
    {Value : Type valueLevel}
    [BEq Key]

/-- `dictionary[key] = value`. -/
def set (key : Key) (value : Value) :
    List (Key × Value) → List (Key × Value)
  | [] =>
    [(key, value)]
  | (found, old) :: rest =>
    if found == key then
      (key, value) :: rest
    else
      (found, old) :: set key value rest

/-- `dictionary.pop(key, None)`. -/
def erase (key : Key) (entries : List (Key × Value)) :
    List (Key × Value) :=
  entries.filter fun entry => !(entry.1 == key)

/-- `dictionary.update(changes)`. -/
def update
    (entries changes : List (Key × Value)) : List (Key × Value) :=
  changes.foldl (fun entries change => set change.1 change.2 entries) entries

/-- `{**entries, **changes}`. -/
def unpack
    (entries changes : List (Key × Value)) : List (Key × Value) :=
  (entries.map fun entry =>
      (entry.1, (changes.lookup entry.1).getD entry.2)) ++
    changes.filter fun change => (entries.lookup change.1).isNone

variable [LawfulBEq Key]

@[simp]
theorem lookup_set_self
    (key : Key)
    (value : Value)
    (entries : List (Key × Value)) :
    (set key value entries).lookup key = some value := by
  induction entries with
  | nil =>
    simp [set]
  | cons entry rest inductionHypothesis =>
    obtain ⟨found, old⟩ := entry
    by_cases same : found = key
    · simp [set, same]
    · have different : (key == found) = false := by
        simpa using fun equal : key = found => same equal.symm
      simp [set, same, List.lookup_cons, different, inductionHypothesis]

variable
    {key : Key}
    {value : Value}
    {entries : List (Key × Value)}
    {changes : List (Key × Value)}

theorem mem_of_lookup
    (found : entries.lookup key = some value) :
    (key, value) ∈ entries := by
  obtain ⟨earlier, later, rfl, _⟩ := List.lookup_eq_some_iff.mp found
  simp

theorem lookup_of_mem
    (distinct : (entries.map Prod.fst).Nodup)
    (member : (key, value) ∈ entries) :
    entries.lookup key = some value := by
  induction entries with
  | nil =>
    cases member
  | cons entry rest inductionHypothesis =>
    obtain ⟨fresh, distinctRest⟩ := List.nodup_cons.mp distinct
    rcases List.mem_cons.mp member with rfl | later
    · exact List.lookup_cons_self
    · have different : (key == entry.1) = false := by
        rw [beq_eq_false_iff_ne]
        rintro rfl
        exact fresh (List.mem_map.mpr ⟨_, later, rfl⟩)
      rw [List.lookup_cons, different]
      exact inductionHypothesis distinctRest later

theorem lookup_set_other
    {key other : Key}
    (different : other ≠ key)
    (value : Value)
    (entries : List (Key × Value)) :
    (set key value entries).lookup other = entries.lookup other := by
  have otherKey : (other == key) = false := by
    simpa using different
  induction entries with
  | nil =>
    simp [set, List.lookup_cons, otherKey]
  | cons entry rest inductionHypothesis =>
    obtain ⟨found, old⟩ := entry
    by_cases same : found = key
    · subst found
      simp [set, List.lookup_cons, otherKey]
    · simp [set, same, List.lookup_cons, inductionHypothesis]

theorem lookup_filter
    {kept : Key × Value → Bool}
    (keeps : ∀ value, kept (key, value) = true)
    (entries : List (Key × Value)) :
    (entries.filter kept).lookup key = entries.lookup key := by
  induction entries with
  | nil =>
    rfl
  | cons entry rest inductionHypothesis =>
    obtain ⟨found, value⟩ := entry
    by_cases same : key = found
    · subst found
      rw [List.filter_cons_of_pos (keeps value), List.lookup_cons_self,
        List.lookup_cons_self]
    · have different : (key == found) = false := by
        simpa using same
      rw [List.lookup_cons, different, ← inductionHypothesis, List.filter_cons]
      split
      · rw [List.lookup_cons, different]
      · rfl

theorem lookup_eq_none_iff
    {entries : List (Key × Value)} :
    entries.lookup key = none ↔ key ∉ entries.map Prod.fst := by
  rw [List.lookup_eq_none_iff, List.mem_map]
  constructor
  · rintro others ⟨entry, member, rfl⟩
    have other := others entry member
    simp at other
  · intro absent entry member
    rw [bne_iff_ne]
    rintro rfl
    exact absent ⟨entry, member, rfl⟩

theorem lookup_filter_distinct
    (distinct : (entries.map Prod.fst).Nodup)
    (kept : Key × Value → Bool)
    (key : Key) :
    (entries.filter kept).lookup key =
      (entries.lookup key).filter fun value => kept (key, value) := by
  induction entries with
  | nil =>
    rfl
  | cons entry rest inductionHypothesis =>
    obtain ⟨found, value⟩ := entry
    obtain ⟨fresh, distinctRest⟩ := List.nodup_cons.mp distinct
    have later := inductionHypothesis distinctRest
    by_cases same : key = found
    · subst found
      rw [lookup_eq_none_iff.mpr fresh] at later
      by_cases keeps : kept (key, value) = true
      · simp [keeps, Option.filter]
      · simp [keeps, later, Option.filter]
    · have different : (key == found) = false := by
        simpa using same
      by_cases keeps : kept (found, value) = true
      · simp [keeps, List.lookup_cons, different, later]
      · simp [keeps, List.lookup_cons, different, later]

@[simp]
theorem lookup_erase_self
    (key : Key)
    (entries : List (Key × Value)) :
    (erase key entries).lookup key = none := by
  refine List.lookup_eq_none_iff.mpr ?_
  intro entry member
  have others := (List.mem_filter.mp member).2
  rw [bne_iff_ne]
  rintro rfl
  simp at others

theorem lookup_erase_other
    {key other : Key}
    (different : other ≠ key)
    (entries : List (Key × Value)) :
    (erase key entries).lookup other = entries.lookup other := by
  induction entries with
  | nil =>
    rfl
  | cons entry rest inductionHypothesis =>
    obtain ⟨found, old⟩ := entry
    by_cases same : found = key
    · subst found
      have otherKey : (other == key) = false := by
        simpa using different
      simpa [erase, List.lookup_cons, otherKey] using inductionHypothesis
    · by_cases wanted : other = found
      · subst found
        simp [erase, same]
      · have otherKey : (other == found) = false := by
          simpa using wanted
        simpa [erase, same, List.lookup_cons, otherKey] using
          inductionHypothesis

theorem nodup_keys_set
    (key : Key)
    (value : Value)
    (distinct : (entries.map Prod.fst).Nodup) :
    ((set key value entries).map Prod.fst).Nodup := by
  have keys :
      ∀ earlier : List (Key × Value),
        (set key value earlier).map Prod.fst =
          if key ∈ earlier.map Prod.fst then earlier.map Prod.fst
          else earlier.map Prod.fst ++ [key] := by
    intro earlier
    induction earlier with
    | nil =>
      rfl
    | cons entry rest inductionHypothesis =>
      obtain ⟨found, old⟩ := entry
      by_cases same : found = key
      · subst found
        simp [set]
      · have other : ¬ key = found := fun equal => same equal.symm
        by_cases later : key ∈ rest.map Prod.fst
        · simp only [later, if_true] at inductionHypothesis
          simp [set, same, inductionHypothesis, later]
        · simp only [later, if_false] at inductionHypothesis
          simp [set, same, inductionHypothesis, later, other]
  rw [keys]
  split
  · exact distinct
  · rename_i fresh
    exact List.nodup_append.mpr ⟨distinct, List.nodup_singleton _, by
        rintro taken takenMember _ keyMember rfl
        exact fresh (List.mem_singleton.mp keyMember ▸ takenMember)⟩

theorem mem_set
    {entry : Key × Value}
    (member : entry ∈ set key value entries) :
    entry = (key, value) ∨ entry ∈ entries := by
  induction entries with
  | nil =>
    exact .inl (List.mem_singleton.mp member)
  | cons first rest inductionHypothesis =>
    obtain ⟨found, old⟩ := first
    by_cases same : found = key
    · subst found
      rw [set, if_pos (beq_self_eq_true key)] at member
      rcases List.mem_cons.mp member with rfl | later
      · exact .inl rfl
      · exact .inr (List.mem_cons_of_mem _ later)
    · rw [set, if_neg (by simpa using same)] at member
      rcases List.mem_cons.mp member with rfl | later
      · exact .inr List.mem_cons_self
      · exact (inductionHypothesis later).imp_right (List.mem_cons_of_mem _)

theorem nodup_keys_update
    {entries : List (Key × Value)}
    (distinct : (entries.map Prod.fst).Nodup)
    (changes : List (Key × Value)) :
    ((update entries changes).map Prod.fst).Nodup := by
  induction changes generalizing entries with
  | nil =>
    exact distinct
  | cons change rest inductionHypothesis =>
    exact inductionHypothesis (nodup_keys_set _ _ distinct)

theorem lookup_update_other
    (absent : key ∉ changes.map Prod.fst)
    (entries : List (Key × Value)) :
    (update entries changes).lookup key = entries.lookup key := by
  induction changes generalizing entries with
  | nil =>
    rfl
  | cons change rest inductionHypothesis =>
    rw [List.map_cons, List.mem_cons, not_or] at absent
    have changed :
        (set change.1 change.2 entries).lookup key = entries.lookup key :=
      lookup_set_other absent.1 change.2 entries
    exact (inductionHypothesis absent.2 _).trans changed

theorem mem_update
    {entries changes : List (Key × Value)}
    {entry : Key × Value}
    (member : entry ∈ update entries changes) :
    entry ∈ entries ∨ entry ∈ changes := by
  induction changes generalizing entries with
  | nil =>
    exact .inl member
  | cons change rest inductionHypothesis =>
    rcases inductionHypothesis member with earlier | later
    · rcases mem_set earlier with rfl | before
      · exact .inr List.mem_cons_self
      · exact .inl before
    · exact .inr (List.mem_cons_of_mem _ later)

theorem lookup_update_of_mem
    (named : key ∈ changes.map Prod.fst)
    (entries : List (Key × Value)) :
    ∃ value,
      (update entries changes).lookup key = some value ∧
        (key, value) ∈ changes := by
  induction changes generalizing entries with
  | nil =>
    cases named
  | cons change rest inductionHypothesis =>
    by_cases later : key ∈ rest.map Prod.fst
    · obtain ⟨value, found, member⟩ :=
        inductionHypothesis later (set change.1 change.2 entries)
      exact ⟨value, found, List.mem_cons_of_mem _ member⟩
    · obtain rfl : key = change.1 :=
        (List.mem_cons.mp named).resolve_right later
      refine ⟨change.2, ?_, List.mem_cons_self⟩
      exact (lookup_update_other later _).trans (lookup_set_self _ _ entries)

theorem lookup_update_of_distinct
    (distinct : (changes.map Prod.fst).Nodup)
    (entries : List (Key × Value))
    (key : Key) :
    (update entries changes).lookup key =
      (changes.lookup key).or (entries.lookup key) := by
  by_cases named : key ∈ changes.map Prod.fst
  · obtain ⟨value, found, member⟩ := lookup_update_of_mem named entries
    rw [found, lookup_of_mem distinct member]
    rfl
  · rw [lookup_update_other named, lookup_eq_none_iff.mpr named]
    rfl

theorem set_of_lookup
    (found : entries.lookup key = some value) :
    set key value entries = entries := by
  induction entries with
  | nil =>
    cases found
  | cons first rest inductionHypothesis =>
    obtain ⟨other, old⟩ := first
    by_cases same : other = key
    · subst same
      rw [List.lookup_cons_self, Option.some.injEq] at found
      simp [set, found]
    · have different : (key == other) = false := by
        simpa using fun equal : key = other => same equal.symm
      rw [List.lookup_cons, different] at found
      simp [set, same, inductionHypothesis found]

theorem set_of_absent
    (value : Value)
    (absent : key ∉ entries.map Prod.fst) :
    set key value entries = entries ++ [(key, value)] := by
  induction entries with
  | nil =>
    rfl
  | cons first rest inductionHypothesis =>
    obtain ⟨found, old⟩ := first
    rw [List.map_cons, List.mem_cons, not_or] at absent
    have different : ¬((found == key) = true) := by
      simpa using Ne.symm absent.1
    rw [set, if_neg different, inductionHypothesis absent.2]
    rfl

theorem set_of_distinct
    (value : Value)
    (distinct : (entries.map Prod.fst).Nodup)
    (present : key ∈ entries.map Prod.fst) :
    set key value entries =
      entries.map fun entry =>
        if entry.1 == key then (entry.1, value) else entry := by
  induction entries with
  | nil =>
    cases present
  | cons first rest inductionHypothesis =>
    obtain ⟨found, old⟩ := first
    obtain ⟨isNew, distinctRest⟩ := List.nodup_cons.mp distinct
    by_cases same : found = key
    · subst same
      have others :
          ∀ entry ∈ rest,
            (if entry.1 == found then (entry.1, value) else entry) = entry := by
        intro entry member
        refine if_neg fun sameKey => isNew ?_
        exact List.mem_map.mpr ⟨entry, member, eq_of_beq sameKey⟩
      have kept := (List.map_congr_left others).trans (List.map_id' rest)
      simp [set, kept]
    · have later : key ∈ rest.map Prod.fst :=
        (List.mem_cons.mp present).resolve_left (Ne.symm same)
      simp [set, same, inductionHypothesis distinctRest later]

theorem update_of_distinct
    {entries changes : List (Key × Value)}
    (distinct : ((entries ++ changes).map Prod.fst).Nodup) :
    update entries changes = entries ++ changes := by
  induction changes generalizing entries with
  | nil =>
    exact (List.append_nil entries).symm
  | cons change rest inductionHypothesis =>
    have absent : change.1 ∉ entries.map Prod.fst := by
      intro member
      rw [List.map_append, List.nodup_append'] at distinct
      exact distinct.2.2 member List.mem_cons_self
    rw [List.append_cons] at distinct ⊢
    rw [← inductionHypothesis distinct, ← set_of_absent change.2 absent]
    rfl

/-- Later entries win where dictionaries are unpacked together. -/
theorem lookup_unpack
    (entries changes : List (Key × Value))
    (key : Key) :
    (unpack entries changes).lookup key =
      (changes.lookup key).or (entries.lookup key) := by
  have inFirst :
      ∀ earlier : List (Key × Value),
        (earlier.map fun entry =>
            (entry.1, (changes.lookup entry.1).getD entry.2)).lookup key =
          (earlier.lookup key).map fun value =>
            (changes.lookup key).getD value := by
    intro earlier
    induction earlier with
    | nil =>
      rfl
    | cons entry rest inductionHypothesis =>
      obtain ⟨found, old⟩ := entry
      by_cases same : key = found
      · subst found
        simp
      · have different : (key == found) = false := by
          simpa using same
        simp [List.lookup_cons, different, inductionHypothesis]
  have inSecond :
      ∀ later : List (Key × Value),
        entries.lookup key = none →
        (later.filter fun change =>
            (entries.lookup change.1).isNone).lookup key =
          later.lookup key := by
    intro later absent
    induction later with
    | nil =>
      rfl
    | cons change rest inductionHypothesis =>
      obtain ⟨found, value⟩ := change
      by_cases same : key = found
      · subst found
        simp [absent]
      · have different : (key == found) = false := by
          simpa using same
        by_cases kept : (entries.lookup found).isNone = true
        · simp [kept, List.lookup_cons, different, inductionHypothesis]
        · simp [kept, List.lookup_cons, different, inductionHypothesis]
  unfold unpack
  rw [List.lookup_append, inFirst]
  cases stored : entries.lookup key with
  | none =>
    rw [inSecond changes stored]
    simp
  | some value =>
    cases changes.lookup key with
    | none =>
      rfl
    | some changed =>
      rfl

end RpaPlatform.Dictionary
