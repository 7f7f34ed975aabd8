import RpaPlatform.RecordingTemplates

namespace RpaPlatform.Agents

/-!
# Filling templates

A template is written with its placeholders in braces, and rendered with values
in their place.  Both are ways of filling the placeholders with texts that stay
within a segment, and a filled template is cleaned to its own segments, filled.
-/

/-! ### Filling -/

/-- A text that begins and ends within a segment and is never dropped. -/
structure InSegment (value : List Char) : Prop where
  nonempty : value ≠ []
  first : ∀ character ∈ value.head?, isSpace character = false
  last : ∀ character ∈ value.getLast?, isSpace character = false
  noSlash : '/' ∉ value
  noBackslash : '\\' ∉ value
  visible : ∃ character ∈ value, character ≠ '.'

theorem InSegment.starts {value : List Char} (inSegment : InSegment value) :
    ∃ first rest, value = first :: rest ∧ isSpace first = false := by
  obtain ⟨first, rest, rfl⟩ := List.exists_cons_of_ne_nil inSegment.nonempty
  exact ⟨first, rest, rfl, inSegment.first first rfl⟩

theorem InSegment.ends {value : List Char} (inSegment : InSegment value) :
    ∃ rest last, value = rest ++ [last] ∧ isSpace last = false := by
  have isLast := List.getLast?_eq_some_getLast inSegment.nonempty
  exact
    ⟨value.dropLast, _, (List.dropLast_concat_getLast _).symm,
      inSegment.last _ isLast⟩

namespace TemplateItem

def text (fill : String → List Char) : TemplateItem → List Char
  | .literal character => [character]
  | .placeholder name => fill name

def isBlank : TemplateItem → Bool
  | .literal character => isSpace character
  | .placeholder _ => false

/-- A backslash of a template is a slash as well. -/
def unbackslash : TemplateItem → TemplateItem
  | .literal character =>
    .literal (if character = '\\' then '/' else character)
  | .placeholder name => .placeholder name

end TemplateItem

/-- A template with texts in the place of its placeholders. -/
def fillItems
    (fill : String → List Char)
    (items : List TemplateItem) : List Char :=
  items.flatMap (TemplateItem.text fill)

def stripItems (items : List TemplateItem) : List TemplateItem :=
  (items.dropWhile TemplateItem.isBlank).rdropWhile TemplateItem.isBlank

def keepsItems (segment : List TemplateItem) : Bool :=
  decide (segment ∉ [[], [.literal '.'], [.literal '.', .literal '.']])

/-- The segments of a template, cleaned. -/
def templateSegments (items : List TemplateItem) :
    List (List TemplateItem) :=
  let parts :=
    ((stripItems items).map TemplateItem.unbackslash).splitOn (.literal '/')
  (parts.map stripItems).filter keepsItems

/-- Texts for the placeholders of a template that stay within a segment. -/
def FillsSegments
    (fill : String → List Char)
    (items : List TemplateItem) : Prop :=
  ∀ name, .placeholder name ∈ items → InSegment (fill name)

section Filling

variable
    {fill : String → List Char}
    {items : List TemplateItem}

theorem FillsSegments.mono
    {part : List TemplateItem}
    (fills : FillsSegments fill items)
    (isPart : ∀ item ∈ part, item ∈ items) :
    FillsSegments fill part :=
  fun name member => fills name (isPart _ member)

theorem dropWhile_fillItems
    (starts :
      ∀ name, .placeholder name ∈ items →
        ∃ first rest, fill name = first :: rest ∧ isSpace first = false) :
    (fillItems fill items).dropWhile isSpace =
      fillItems fill (items.dropWhile TemplateItem.isBlank) := by
  induction items with
  | nil =>
    rfl
  | cons item rest inductionHypothesis =>
    have restStarts := fun name member =>
      starts name (List.mem_cons_of_mem item member)
    cases item with
    | literal character =>
      change (character :: fillItems fill rest).dropWhile isSpace = _
      rw [List.dropWhile_cons, List.dropWhile_cons]
      change
        (if isSpace character = true then _ else _) =
          fillItems fill (if isSpace character = true then _ else _)
      by_cases isBlank : isSpace character = true
      · rw [if_pos isBlank, if_pos isBlank, inductionHypothesis restStarts]
      · rw [if_neg isBlank, if_neg isBlank]
        rfl
    | placeholder name =>
      obtain ⟨first, later, isValue, notBlank⟩ :=
        starts name List.mem_cons_self
      have sameText :
          fillItems fill (.placeholder name :: rest) =
            first :: (later ++ fillItems fill rest) := by
        change fill name ++ fillItems fill rest = _
        rw [isValue, List.cons_append]
      have kept :
          (TemplateItem.placeholder name :: rest).dropWhile
              TemplateItem.isBlank =
            .placeholder name :: rest :=
        rfl
      rw [kept, sameText, List.dropWhile_cons, notBlank]
      rfl

theorem reverse_fillItems :
    (fillItems fill items).reverse =
      fillItems (fun name => (fill name).reverse) items.reverse := by
  unfold fillItems
  rw [List.reverse_flatMap]
  refine List.flatMap_congr fun item _ => ?_
  cases item with
  | literal | placeholder =>
    rfl

theorem rdropWhile_fillItems
    (ends :
      ∀ name, .placeholder name ∈ items →
        ∃ rest last, fill name = rest ++ [last] ∧ isSpace last = false) :
    (fillItems fill items).rdropWhile isSpace =
      fillItems fill (items.rdropWhile TemplateItem.isBlank) := by
  have starts :
      ∀ name, .placeholder name ∈ items.reverse →
        ∃ first rest,
          (fill name).reverse = first :: rest ∧ isSpace first = false := by
    intro name member
    obtain ⟨rest, last, isValue, notBlank⟩ :=
      ends name (List.mem_reverse.mp member)
    exact ⟨last, rest.reverse, by simp [isValue], notBlank⟩
  have sameFill : (fun name => ((fill name).reverse).reverse) = fill :=
    funext fun name => List.reverse_reverse _
  unfold List.rdropWhile
  rw [reverse_fillItems, dropWhile_fillItems starts, reverse_fillItems,
    sameFill]

theorem strip_fillItems (fills : FillsSegments fill items) :
    strip (String.ofList (fillItems fill items)) =
      String.ofList (fillItems fill (stripItems items)) := by
  have leading := dropWhile_fillItems fun name member =>
    (fills name member).starts
  have later : FillsSegments fill (items.dropWhile TemplateItem.isBlank) :=
    fills.mono fun _ member => (List.dropWhile_sublist _).subset member
  rw [strip, String.toList_ofList, leading,
    rdropWhile_fillItems fun name member => (later name member).ends]
  rfl

theorem replaceChar_fillItems (fills : FillsSegments fill items) :
    replaceChar '\\' '/' (String.ofList (fillItems fill items)) =
      String.ofList (fillItems fill (items.map TemplateItem.unbackslash)) := by
  rw [replaceChar, String.toList_ofList]
  refine congrArg String.ofList ?_
  unfold fillItems
  rw [List.map_flatMap, List.flatMap_map]
  refine List.flatMap_congr fun item isItem => ?_
  cases item with
  | literal character =>
    rfl
  | placeholder name =>
    refine (List.map_congr_left fun character member => ?_).trans
      (List.map_id _)
    refine if_neg ?_
    rintro rfl
    exact (fills name isItem).noBackslash member

theorem splitOn_append_of_notMem
    {separator : Char}
    {leading : List Char}
    (absent : separator ∉ leading)
    (characters : List Char) :
    (leading ++ characters).splitOn separator =
      (characters.splitOn separator).modifyHead (leading ++ ·) := by
  induction leading with
  | nil =>
    exact (congrFun List.modifyHead_id _).symm
  | cons character rest inductionHypothesis =>
    rw [List.mem_cons, not_or] at absent
    rw [List.cons_append, List.splitOn_cons_eq_if_modifyHead,
      if_neg (by rw [beq_iff_eq]; exact fun same => absent.1 same.symm),
      inductionHypothesis absent.2, List.modifyHead_modifyHead]
    rfl

theorem splitOn_fillItems (fills : FillsSegments fill items) :
    (fillItems fill items).splitOn '/' =
      (items.splitOn (.literal '/')).map (fillItems fill) := by
  induction items with
  | nil =>
    rfl
  | cons item rest inductionHypothesis =>
    have restSplits :=
      inductionHypothesis (fills.mono fun _ => List.mem_cons_of_mem item)
    have sameText :
        fillItems fill (item :: rest) = item.text fill ++ fillItems fill rest :=
      List.flatMap_cons
    rw [sameText, List.splitOn_cons_eq_if_modifyHead]
    by_cases isSlash : item = .literal '/'
    · subst isSlash
      rw [if_pos (beq_self_eq_true _)]
      change ('/' :: fillItems fill rest).splitOn '/' = _
      rw [List.splitOn_cons_eq_if_modifyHead,
        if_pos (beq_self_eq_true _), restSplits]
      rfl
    · have noSlash : '/' ∉ item.text fill := by
        cases item with
        | literal character =>
          intro member
          exact isSlash (congrArg _ (List.mem_singleton.mp member).symm)
        | placeholder name =>
          exact (fills name List.mem_cons_self).noSlash
      rw [if_neg (by rw [beq_iff_eq]; exact isSlash),
        splitOn_append_of_notMem noSlash, restSplits]
      cases rest.splitOn (.literal '/') with
      | nil =>
        rfl
      | cons part parts =>
        rfl

theorem keepsSegment_ofList (characters : List Char) :
    keepsSegment (String.ofList characters) =
      decide (characters ∉ [[], ['.'], ['.', '.']]) := by
  have same :
      ∀ text : String,
        String.ofList characters = text ↔ characters = text.toList := by
    intro text
    rw [← String.toList_inj, String.toList_ofList]
  unfold keepsSegment
  rw [Bool.eq_iff_iff, Bool.and_eq_true, decide_eq_true_iff,
    decide_eq_true_iff, decide_eq_true_iff]
  simp only [ne_eq, List.mem_cons, List.not_mem_nil, or_false, same, not_or]
  exact Iff.rfl

theorem exists_literals
    (noPlaceholder : ∀ name, .placeholder name ∉ items) :
    ∃ characters : List Char, items = characters.map .literal := by
  induction items with
  | nil =>
    exact ⟨[], rfl⟩
  | cons item rest inductionHypothesis =>
    obtain ⟨characters, rfl⟩ :=
      inductionHypothesis fun name member =>
        noPlaceholder name (List.mem_cons_of_mem _ member)
    cases item with
    | literal character =>
      exact ⟨character :: characters, rfl⟩
    | placeholder name =>
      exact absurd List.mem_cons_self (noPlaceholder name)

@[simp]
theorem fillItems_literals (characters : List Char) :
    fillItems fill (characters.map .literal) = characters := by
  unfold fillItems
  rw [List.flatMap_map]
  exact List.flatMap_singleton' characters

theorem keepsSegment_fillItems (fills : FillsSegments fill items) :
    keepsSegment (String.ofList (fillItems fill items)) = keepsItems items := by
  rw [keepsSegment_ofList]
  unfold keepsItems
  by_cases hasPlaceholder : ∃ name, .placeholder name ∈ items
  · obtain ⟨name, member⟩ := hasPlaceholder
    obtain ⟨character, inValue, notDot⟩ := (fills name member).visible
    have inText : character ∈ fillItems fill items :=
      List.mem_flatMap.mpr ⟨_, member, inValue⟩
    have textKept : fillItems fill items ∉ [[], ['.'], ['.', '.']] := by
      intro isDropped
      rcases List.mem_cons.mp isDropped with same | isDropped
      · rw [same] at inText
        cases inText
      · simp only [List.mem_cons, List.not_mem_nil, or_false] at isDropped
        rcases isDropped with same | same
        · simp [same, notDot] at inText
        · simp [same, notDot] at inText
    have itemsKept :
        items ∉ [[], [.literal '.'], [.literal '.', .literal '.']] := by
      intro isDropped
      simp only [List.mem_cons, List.not_mem_nil, or_false] at isDropped
      rcases isDropped with rfl | rfl | rfl
      · cases member
      · simp at member
      · simp at member
    rw [decide_eq_true textKept, decide_eq_true itemsKept]
  · obtain ⟨characters, rfl⟩ :=
      exists_literals fun name member => hasPlaceholder ⟨name, member⟩
    rw [fillItems_literals]
    have same :
        ∀ dropped : List Char,
          characters.map TemplateItem.literal =
              dropped.map TemplateItem.literal ↔
            characters = dropped :=
      fun dropped =>
        (List.map_injective_iff.mpr fun _ _ same =>
          TemplateItem.literal.inj same).eq_iff
    have dot := same ['.']
    have dots := same ['.', '.']
    have nothing := same []
    simp only [List.map_cons, List.map_nil] at dot dots nothing
    simp only [List.mem_cons, List.not_mem_nil, or_false, dot, dots, nothing]

theorem mem_of_mem_splitOn
    {Item : Type}
    [DecidableEq Item]
    {separator item : Item}
    {items part : List Item}
    (isPart : part ∈ items.splitOn separator)
    (member : item ∈ part) :
    item ∈ items := by
  induction items generalizing part with
  | nil =>
    rw [List.splitOn_nil, List.mem_singleton] at isPart
    rwa [isPart] at member
  | cons first rest inductionHypothesis =>
    rw [List.splitOn_cons_eq_if_modifyHead] at isPart
    split at isPart
    · rcases List.mem_cons.mp isPart with rfl | isLater
      · cases member
      · exact List.mem_cons_of_mem _ (inductionHypothesis isLater member)
    · cases parts : rest.splitOn separator with
      | nil =>
        rw [parts] at isPart
        cases isPart
      | cons head later =>
        rw [parts, List.modifyHead_cons] at isPart
        rw [parts] at inductionHypothesis
        rcases List.mem_cons.mp isPart with rfl | isLater
        · rcases List.mem_cons.mp member with rfl | inHead
          · exact List.mem_cons_self
          · exact
              List.mem_cons_of_mem _
                (inductionHypothesis List.mem_cons_self inHead)
        · exact
            List.mem_cons_of_mem _
              (inductionHypothesis (List.mem_cons_of_mem _ isLater) member)

theorem mem_of_mem_stripItems
    {item : TemplateItem}
    (member : item ∈ stripItems items) :
    item ∈ items :=
  (List.dropWhile_sublist _).subset ((List.rdropWhile_prefix _ _).subset member)

theorem placeholder_of_mem_splitOn
    {part : List TemplateItem}
    (isPart :
      part ∈
        ((stripItems items).map TemplateItem.unbackslash).splitOn
          (.literal '/'))
    {name : String}
    (member : .placeholder name ∈ part) :
    .placeholder name ∈ items := by
  obtain ⟨item, isItem, same⟩ :=
    List.mem_map.mp (mem_of_mem_splitOn isPart member)
  cases item with
  | literal character =>
    cases same
  | placeholder other =>
    rw [← same]
    exact mem_of_mem_stripItems isItem

theorem recordingSegments_fillItems (fills : FillsSegments fill items) :
    recordingSegments (String.ofList (fillItems fill items)) =
      (templateSegments items).map fun segment =>
        String.ofList (fillItems fill segment) := by
  have fillsStripped : FillsSegments fill (stripItems items) :=
    fills.mono fun _ => mem_of_mem_stripItems
  have fillsParts :
      ∀ part ∈
          ((stripItems items).map TemplateItem.unbackslash).splitOn
            (.literal '/'),
        FillsSegments fill part :=
    fun part isPart name member =>
      fills name (placeholder_of_mem_splitOn isPart member)
  have fillsSlashed :
      FillsSegments fill ((stripItems items).map TemplateItem.unbackslash) := by
    intro name member
    obtain ⟨item, isItem, same⟩ := List.mem_map.mp member
    cases item with
    | literal character =>
      cases same
    | placeholder other =>
      rw [TemplateItem.unbackslash, TemplateItem.placeholder.injEq] at same
      exact fillsStripped name (same ▸ isItem)
  unfold recordingSegments templateSegments Segments.split
  dsimp only
  rw [strip_fillItems fills, replaceChar_fillItems fillsStripped,
    String.toList_ofList, splitOn_fillItems fillsSlashed, List.map_map,
    List.map_map, List.filter_map, List.filter_map, List.map_map]
  have sameKept :
      ∀ part ∈
          ((stripItems items).map TemplateItem.unbackslash).splitOn
            (.literal '/'),
        (keepsSegment ∘ (strip ∘ String.ofList) ∘ fillItems fill) part =
          (keepsItems ∘ stripItems) part := by
    intro part isPart
    have fillsPart := fillsParts part isPart
    simp only [Function.comp_apply]
    rw [strip_fillItems fillsPart]
    exact keepsSegment_fillItems (fillsPart.mono fun _ => mem_of_mem_stripItems)
  rw [List.filter_congr sameKept]
  refine List.map_congr_left fun part isKept => ?_
  simp only [Function.comp_apply]
  rw [strip_fillItems (fillsParts part (List.mem_of_mem_filter isKept))]

end Filling

end RpaPlatform.Agents
