import Mathlib.Data.List.Basic

namespace RpaPlatform.Segments

/-!
# Texts in segments

A text is split at each occurrence of a separator, and segments are joined by
one.  The two are inverse to each other where no segment has a separator and
there is at least one segment.
-/

/-- `text.split(separator)`. -/
def split (separator : Char) (text : String) : List String :=
  (text.toList.splitOn separator).map String.ofList

/-- `separator.join(segments)`. -/
def join (separator : Char) (segments : List String) : String :=
  String.ofList ([separator].intercalate (segments.map String.toList))

example : split '/' "/a//b" = ["", "a", "", "b"] := by
  decide

example : join '/' ["a", "", "b"] = "a//b" := by
  decide

variable {separator : Char}

theorem join_split (text : String) :
    join separator (split separator text) = text := by
  have sameLists :
      (split separator text).map String.toList =
        text.toList.splitOn separator := by
    unfold split
    rw [List.map_map]
    exact List.map_id'' (fun _ => String.toList_ofList) _
  rw [join, sameLists, List.intercalate_splitOn, String.ofList_toList]

theorem split_join
    {segments : List String}
    (nonempty : segments ≠ [])
    (separate : ∀ segment ∈ segments, separator ∉ segment.toList) :
    split separator (join separator segments) = segments := by
  have separateLists :
      ∀ characters ∈ segments.map String.toList, separator ∉ characters := by
    intro characters isSegment
    obtain ⟨segment, member, rfl⟩ := List.mem_map.mp isSegment
    exact separate segment member
  rw [split, join, String.toList_ofList,
    List.splitOn_intercalate separator separateLists
      (List.map_eq_nil_iff.not.mpr nonempty),
    List.map_map]
  exact List.map_id'' (fun _ => String.ofList_toList) _

theorem toList_join_cons (segment next : String) (rest : List String) :
    (join separator (segment :: next :: rest)).toList =
      segment.toList ++
        separator :: (join separator (next :: rest)).toList := by
  unfold join
  rw [String.toList_ofList, String.toList_ofList]
  simp [List.intercalate]

@[simp]
theorem join_singleton (segment : String) :
    join separator [segment] = segment := by
  simp [join, List.intercalate]

theorem mem_join
    {segments : List String}
    {character : Char}
    (member : character ∈ (join separator segments).toList) :
    character = separator ∨
      ∃ segment ∈ segments, character ∈ segment.toList := by
  induction segments with
  | nil =>
    cases member
  | cons segment rest inductionHypothesis =>
    cases rest with
    | nil =>
      rw [join_singleton] at member
      exact .inr ⟨segment, List.mem_cons_self, member⟩
    | cons next rest =>
      rw [toList_join_cons, List.mem_append, List.mem_cons] at member
      rcases member with inFirst | isSeparator | inRest
      · exact .inr ⟨segment, List.mem_cons_self, inFirst⟩
      · exact .inl isSeparator
      · rcases inductionHypothesis inRest with
          isSeparator | ⟨later, isLater, inLater⟩
        · exact .inl isSeparator
        · exact .inr ⟨later, List.mem_cons_of_mem _ isLater, inLater⟩

theorem notMem_splitOn
    {characters part : List Char}
    (isPart : part ∈ characters.splitOn separator) :
    separator ∉ part := by
  induction characters generalizing part with
  | nil =>
    rw [List.splitOn_nil, List.mem_singleton] at isPart
    rw [isPart]
    exact List.not_mem_nil
  | cons character rest inductionHypothesis =>
    rw [List.splitOn_cons_eq_if_modifyHead] at isPart
    split at isPart
    · rcases List.mem_cons.mp isPart with rfl | inRest
      · exact List.not_mem_nil
      · exact inductionHypothesis inRest
    · rename_i isOther
      cases parts : rest.splitOn separator with
      | nil =>
        exact absurd parts (List.splitOn_ne_nil _ _)
      | cons first later =>
        rw [parts, List.modifyHead_cons] at isPart
        rw [parts] at inductionHypothesis
        rcases List.mem_cons.mp isPart with rfl | inLater
        · intro member
          rcases List.mem_cons.mp member with same | inFirst
          · exact isOther (beq_iff_eq.mpr same.symm)
          · exact inductionHypothesis List.mem_cons_self inFirst
        · exact inductionHypothesis (List.mem_cons_of_mem _ inLater)

theorem notMem_split
    {text segment : String}
    (isSegment : segment ∈ split separator text) :
    separator ∉ segment.toList := by
  obtain ⟨part, isPart, rfl⟩ := List.mem_map.mp isSegment
  rw [String.toList_ofList]
  exact notMem_splitOn isPart

theorem mem_join_of_mem
    {segments : List String}
    {segment : String}
    {character : Char}
    (isSegment : segment ∈ segments)
    (member : character ∈ segment.toList) :
    character ∈ (join separator segments).toList := by
  induction segments with
  | nil =>
    cases isSegment
  | cons first rest inductionHypothesis =>
    cases rest with
    | nil =>
      rw [List.mem_singleton] at isSegment
      rwa [join_singleton, ← isSegment]
    | cons next rest =>
      rw [toList_join_cons, List.mem_append, List.mem_cons]
      rcases List.mem_cons.mp isSegment with rfl | inRest
      · exact .inl member
      · exact .inr (.inr (inductionHypothesis inRest))

theorem ends_join
    {segments : List String}
    (nonempty : ∀ segment ∈ segments, segment ≠ "") :
    (∀ character ∈ (join separator segments).toList.head?,
        ∃ segment ∈ segments, character ∈ segment.toList.head?) ∧
      ∀ character ∈ (join separator segments).toList.getLast?,
        ∃ segment ∈ segments, character ∈ segment.toList.getLast? := by
  induction segments with
  | nil =>
    exact ⟨nofun, nofun⟩
  | cons segment rest inductionHypothesis =>
    have isSegment := nonempty segment List.mem_cons_self
    have characters : segment.toList ≠ [] :=
      fun isEmpty => isSegment (String.toList_eq_nil_iff.mp isEmpty)
    cases rest with
    | nil =>
      rw [join_singleton]
      exact
        ⟨fun character isFirst =>
            ⟨segment, List.mem_cons_self, isFirst⟩,
          fun character isLast =>
            ⟨segment, List.mem_cons_self, isLast⟩⟩
    | cons next rest =>
      have later :=
        (inductionHypothesis fun other isLater =>
          nonempty other (List.mem_cons_of_mem _ isLater)).2
      rw [toList_join_cons]
      constructor
      · intro character isFirst
        rw [List.head?_append_of_ne_nil _ characters] at isFirst
        exact ⟨segment, List.mem_cons_self, isFirst⟩
      · intro character isLast
        obtain ⟨inNext, isMember⟩ :=
          List.exists_mem_of_ne_nil next.toList fun isEmpty =>
            nonempty next
              (List.mem_cons_of_mem _ List.mem_cons_self)
              (String.toList_eq_nil_iff.mp isEmpty)
        have restCharacters : (join separator (next :: rest)).toList ≠ [] :=
          List.ne_nil_of_mem (mem_join_of_mem List.mem_cons_self isMember)
        rw [List.getLast?_append_of_ne_nil _ (List.cons_ne_nil _ _),
          ← List.singleton_append,
          List.getLast?_append_of_ne_nil _ restCharacters] at isLast
        obtain ⟨found, isLater, inFound⟩ := later character isLast
        exact ⟨found, List.mem_cons_of_mem _ isLater, inFound⟩

theorem mem_of_mem_split
    {text segment : String}
    {character : Char}
    (isSegment : segment ∈ split separator text)
    (member : character ∈ segment.toList) :
    character ∈ text.toList := by
  have inJoined := @mem_join_of_mem separator _ _ _ isSegment member
  rwa [join_split] at inJoined

theorem getLast?_splitOn
    {characters : List Char}
    {last : Char}
    (isLast : characters.getLast? = some last)
    (isOther : last ≠ separator) :
    ∃ part,
      (characters.splitOn separator).getLast? = some part ∧
        part.getLast? = some last := by
  induction characters with
  | nil =>
    cases isLast
  | cons character rest inductionHypothesis =>
    rw [List.splitOn_cons_eq_if_modifyHead]
    cases rest with
    | nil =>
      obtain rfl : character = last := by simpa using isLast
      refine ⟨[character], ?_, rfl⟩
      simp [isOther]
    | cons next later =>
      rw [List.getLast?_cons_cons] at isLast
      obtain ⟨part, found, same⟩ := inductionHypothesis isLast
      cases parts : (next :: later).splitOn separator with
      | nil =>
        exact absurd parts (List.splitOn_ne_nil _ _)
      | cons first others =>
        rw [parts] at found
        split
        · exact ⟨part, by rwa [List.getLast?_cons_cons], same⟩
        · rw [List.modifyHead_cons]
          cases others with
          | nil =>
            obtain rfl : first = part := by simpa using found
            refine ⟨character :: first, rfl, ?_⟩
            cases first with
            | nil => cases same
            | cons head tail => rwa [List.getLast?_cons_cons]
          | cons second others =>
            rw [List.getLast?_cons_cons] at found
            exact ⟨part, by rwa [List.getLast?_cons_cons], same⟩

theorem getLast?_split
    {text : String}
    {last : Char}
    (isLast : text.toList.getLast? = some last)
    (isOther : last ≠ separator) :
    ∃ segment,
      (split separator text).getLast? = some segment ∧
        segment.toList.getLast? = some last := by
  obtain ⟨part, found, same⟩ := getLast?_splitOn isLast isOther
  refine ⟨String.ofList part, ?_, by rwa [String.toList_ofList]⟩
  rw [split, List.getLast?_map, found]
  rfl

end RpaPlatform.Segments
