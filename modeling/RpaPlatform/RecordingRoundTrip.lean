import RpaPlatform.TemplateFilling

namespace RpaPlatform.Agents

open Tasks (Json)

/-!
# Rendering a path template and reading it back

The path of a recording is rendered from the path template with sanitised
values.  Reading it back by the same template finds the values again exactly if
no segment has a placeholder twice, and the last segment with a placeholder
splits where its values were put together.
-/

/-! ### Sanitised values -/

variable
    {characters : List Char}
    {character : Char}
    {segment : List TemplateItem}

theorem mem_joinWords
    {due : Option Bool}
    (member : character ∈ joinWords due characters) :
    character = ' ' ∨ character ∈ characters ∧ isSpace character = false := by
  induction characters generalizing due with
  | nil =>
    cases member
  | cons first rest inductionHypothesis =>
    have later :
        ∀ due : Option Bool,
          character ∈ joinWords due rest →
            character = ' ' ∨
              character ∈ first :: rest ∧ isSpace character = false := by
      intro due inRest
      rcases inductionHypothesis inRest with isBlank | ⟨inLater, isWord⟩
      · exact .inl isBlank
      · exact .inr ⟨List.mem_cons_of_mem _ inLater, isWord⟩
    unfold joinWords at member
    by_cases isBlank : isSpace first = true
    · rw [if_pos isBlank] at member
      exact later _ member
    · rw [if_neg isBlank] at member
      rw [Bool.not_eq_true] at isBlank
      have isFirst :
          character = first →
            character = ' ' ∨
              character ∈ first :: rest ∧ isSpace character = false := by
        rintro rfl
        exact .inr ⟨List.mem_cons_self, isBlank⟩
      split at member
      · rcases List.mem_cons.mp member with isSeparator | member
        · exact .inl isSeparator
        · rcases List.mem_cons.mp member with same | inRest
          · exact isFirst same
          · exact later _ inRest
      · rcases List.mem_cons.mp member with same | inRest
        · exact isFirst same
        · exact later _ inRest

theorem slash_notMem_hyphenate
    {inRun : Bool}
    (member : character ∈ hyphenateSlashes inRun characters) :
    character ≠ '/' ∧ character ≠ '\\' := by
  induction characters generalizing inRun with
  | nil =>
    cases member
  | cons first rest inductionHypothesis =>
    unfold hyphenateSlashes at member
    split at member
    · split at member
      · exact inductionHypothesis member
      · rcases List.mem_cons.mp member with rfl | inRest
        · decide
        · exact inductionHypothesis inRest
    · rename_i isOther
      rcases List.mem_cons.mp member with rfl | inRest
      · simp only [Bool.or_eq_true, decide_eq_true_eq, not_or] at isOther
        exact isOther.symm
      · exact inductionHypothesis inRest

theorem mem_sanitizeRecordingValue
    {text : String}
    (member : character ∈ (sanitizeRecordingValue text).toList) :
    character = ' ' ∨
      isSpace character = false ∧ character ≠ '/' ∧ character ≠ '\\' := by
  unfold sanitizeRecordingValue at member
  dsimp only at member
  rw [String.toList_ofList] at member
  have inWords :=
    (List.dropWhile_sublist _).subset
      ((List.rdropWhile_prefix _ _).subset member)
  rcases mem_joinWords inWords with isBlank | ⟨inMarked, isWord⟩
  · exact .inl isBlank
  · refine .inr ⟨isWord, ?_⟩
    obtain ⟨original, inText, isMarked⟩ := List.mem_map.mp inMarked
    have noSlash := slash_notMem_hyphenate inText
    split at isMarked
    · rw [← isMarked]
      decide
    · rw [← isMarked]
      exact noSlash

theorem ends_sanitizeRecordingValue (text : String) :
    (∀ character ∈ (sanitizeRecordingValue text).toList.head?,
        (character = ' ' || character = '.') = false) ∧
      ∀ character ∈ (sanitizeRecordingValue text).toList.getLast?,
        (character = ' ' || character = '.') = false := by
  unfold sanitizeRecordingValue
  dsimp only
  rw [String.toList_ofList]
  exact
    (dropEnds_eq_self_iff
      (fun character : Char => character = ' ' || character = '.') _).mp
      (dropEnds_dropEnds _ _)

/-- A value that a path template may be filled with. -/
structure PathValue (value : List Char) : Prop where
  inSegment : InSegment value
  inLine : '\n' ∉ value

theorem pathValue_sanitize
    {text : String}
    (nonempty : sanitizeRecordingValue text ≠ "") :
    PathValue (sanitizeRecordingValue text).toList := by
  have ends := ends_sanitizeRecordingValue text
  have isWord :
      ∀ character ∈ (sanitizeRecordingValue text).toList,
        (character = ' ' || character = '.') = false →
          isSpace character = false := by
    intro character member notEdge
    rcases mem_sanitizeRecordingValue member with rfl | ⟨isWord, -⟩
    · cases notEdge
    · exact isWord
  have hasCharacters : (sanitizeRecordingValue text).toList ≠ [] :=
    fun isEmpty => nonempty (String.toList_eq_nil_iff.mp isEmpty)
  have isHead := List.head?_eq_some_head hasCharacters
  have excludes :
      ∀ character ∈ (sanitizeRecordingValue text).toList,
        character ≠ '/' ∧ character ≠ '\\' ∧ character ≠ '\n' := by
    intro character member
    rcases mem_sanitizeRecordingValue member with
      rfl | ⟨isWord, noSlash, noBackslash⟩
    · decide
    · refine ⟨noSlash, noBackslash, ?_⟩
      rintro rfl
      revert isWord
      decide
  exact
    { inSegment :=
        { nonempty := hasCharacters
          first := fun character isFirst =>
            isWord character (List.mem_of_head? isFirst)
              (ends.1 character isFirst)
          last := fun character isLast =>
            isWord character (List.mem_of_getLast? isLast)
              (ends.2 character isLast)
          noSlash := fun member => (excludes _ member).1 rfl
          noBackslash := fun member => (excludes _ member).2.1 rfl
          visible := by
            refine ⟨_, List.head_mem hasCharacters, ?_⟩
            intro isDot
            have notEdge := ends.1 _ isHead
            rw [isDot] at notEdge
            cases notEdge }
      inLine := fun member => (excludes _ member).2.2 rfl }

/-! ### Templates as they are written -/

def pathPlaceholders : List String :=
  ["agent_id", "username"]

/-- A template of literals, which are not braces, and of placeholders. -/
def PlainTemplate (items : List TemplateItem) : Prop :=
  ∀ item ∈ items,
    match item with
    | .literal character => character ≠ '{' ∧ character ≠ '}'
    | .placeholder name => name ∈ pathPlaceholders

instance (items : List TemplateItem) : Decidable (PlainTemplate items) :=
  @List.decidableBAll _ _
    (fun item =>
      match item with
      | .literal character =>
        inferInstanceAs (Decidable (character ≠ '{' ∧ character ≠ '}'))
      | .placeholder name =>
        inferInstanceAs (Decidable (name ∈ pathPlaceholders)))
    items

def braced (name : String) : List Char :=
  '{' :: (name.toList ++ ['}'])

theorem placeholderName?_append
    {name : String}
    (isPlaceholder : name ∈ pathPlaceholders)
    (rest : List Char) :
    placeholderName? (name.toList ++ '}' :: rest) = some name.toList := by
  have isName :
      (name.toList.all fun character =>
          isNameStart character || character.isDigit) = true ∧
        name.toList.head?.any isNameStart = true := by
    simp only [pathPlaceholders, List.mem_cons, List.not_mem_nil, or_false]
      at isPlaceholder
    rcases isPlaceholder with rfl | rfl
    · decide
    · decide
  have taken :
      (name.toList ++ '}' :: rest).takeWhile
          (fun character =>
            isNameStart character || character.isDigit) =
        name.toList := by
    rw [List.takeWhile_append_of_pos (List.all_eq_true.mp isName.1),
      List.takeWhile_cons_of_neg (by decide), List.append_nil]
  unfold placeholderName?
  dsimp only
  rw [taken, isName.2, List.drop_left]
  rfl

theorem scanTemplate_append
    (passed rest : List Char) :
    scanTemplate passed.length (passed ++ rest) = scanTemplate 0 rest := by
  induction passed with
  | nil =>
    rfl
  | cons character passed inductionHypothesis =>
    exact inductionHypothesis

theorem scanTemplate_braced
    {items : List TemplateItem}
    (plain : PlainTemplate items) :
    scanTemplate 0 (fillItems braced items) = items := by
  induction items with
  | nil =>
    rfl
  | cons item rest inductionHypothesis =>
    have restScanned :=
      inductionHypothesis fun item isLater =>
        plain item (List.mem_cons_of_mem _ isLater)
    have isPlain := plain item List.mem_cons_self
    cases item with
    | literal character =>
      change scanTemplate 0 (character :: fillItems braced rest) = _
      unfold scanTemplate
      rw [if_neg isPlain.1]
      exact congrArg _ restScanned
    | placeholder name =>
      have written :
          fillItems braced (.placeholder name :: rest) =
            '{' :: (name.toList ++ '}' :: fillItems braced rest) := by
        change braced name ++ fillItems braced rest = _
        unfold braced
        rw [List.cons_append, List.append_assoc]
        rfl
      have passed :=
        scanTemplate_append (name.toList ++ ['}']) (fillItems braced rest)
      rw [List.length_append, List.append_assoc] at passed
      rw [written, scanTemplate, if_pos rfl, placeholderName?_append isPlain]
      dsimp only
      rw [String.ofList_toList]
      exact congrArg _ (passed.trans restScanned)

theorem inSegment_braced
    {name : String}
    (isPlaceholder : name ∈ pathPlaceholders) :
    InSegment (braced name) := by
  simp only [pathPlaceholders, List.mem_cons, List.not_mem_nil, or_false]
    at isPlaceholder
  rcases isPlaceholder with rfl | rfl
  · exact
      ⟨by decide, by rintro _ ⟨⟩; decide, by rintro _ ⟨⟩; decide,
        by decide, by decide, '{', by decide, by decide⟩
  · exact
      ⟨by decide, by rintro _ ⟨⟩; decide, by rintro _ ⟨⟩; decide,
        by decide, by decide, '{', by decide, by decide⟩

/-! ### Reading one segment -/

def countVisible (characters : List Char) : Nat :=
  characters.countP fun character => !isSpace character

theorem countVisible_dropWhile (characters : List Char) :
    countVisible (characters.dropWhile isSpace) = countVisible characters := by
  unfold countVisible
  induction characters with
  | nil =>
    rfl
  | cons character rest inductionHypothesis =>
    rw [List.dropWhile_cons]
    split
    · rename_i isBlank
      rw [inductionHypothesis, List.countP_cons_of_neg (by simp [isBlank])]
    · rfl

theorem countVisible_strip (text : String) :
    countVisible (strip text).toList = countVisible text.toList := by
  have counts := countVisible_dropWhile
  unfold strip List.rdropWhile
  rw [String.toList_ofList]
  unfold countVisible at counts ⊢
  rw [List.countP_reverse, counts, List.countP_reverse, counts]

theorem countVisible_pos
    (member : character ∈ characters)
    (notBlank : isSpace character = false) :
    0 < countVisible characters := by
  unfold countVisible
  exact List.countP_pos_iff.mpr ⟨character, member, by simp [notBlank]⟩

theorem countVisible_append (first second : List Char) :
    countVisible (first ++ second) = countVisible first + countVisible second :=
  List.countP_append

theorem countVisible_of_strip
    {characters value : List Char}
    (same : strip (String.ofList characters) = String.ofList value) :
    countVisible characters = countVisible value := by
  have counts := countVisible_strip (String.ofList characters)
  rw [same, String.toList_ofList, String.toList_ofList] at counts
  exact counts.symm

theorem countVisible_ne
    {first between second value rest : List Char}
    (isFirst : InSegment first)
    (isSecond : InSegment second)
    (sameText : first ++ between ++ second = value ++ between ++ rest)
    (wrong :
      (∃ tail, tail ≠ [] ∧ first = value ++ tail) ∨
        ∃ more, more ≠ [] ∧ value = first ++ more ∧ more <+: second) :
    countVisible value ≠ countVisible first ∧
      countVisible rest ≠ countVisible second := by
  have counts := congrArg countVisible sameText
  simp only [countVisible_append] at counts
  suffices differs : countVisible value ≠ countVisible first by
    exact ⟨differs, by omega⟩
  rcases wrong with ⟨tail, nonempty, rfl⟩ | ⟨more, nonempty, rfl, isPrefix⟩
  · -- The last character of the first value is missing.
    have isLast := List.getLast?_eq_some_getLast nonempty
    have visible :=
      countVisible_pos (List.getLast_mem nonempty)
        (isFirst.last _
          ((List.getLast?_append_of_ne_nil value nonempty).trans isLast))
    rw [countVisible_append]
    omega
  · -- The first character of the second value is taken as well.
    have isHead := List.head?_eq_some_head nonempty
    obtain ⟨later, rfl⟩ := isPrefix
    have visible :=
      countVisible_pos (List.head_mem nonempty)
        (isSecond.first _
          ((List.head?_append_of_ne_nil more nonempty).trans isHead))
    rw [countVisible_append]
    omega

def literalItems (characters : List Char) : List TemplateItem :=
  characters.map TemplateItem.literal

/-- A segment of two placeholders. -/
def pairSegment
    (before : List Char)
    (first : String)
    (between : List Char)
    (second : String)
    (after : List Char) : List TemplateItem :=
  literalItems before ++
    .placeholder first ::
      (literalItems between ++ .placeholder second :: literalItems after)

def TemplateItem.character? : TemplateItem → Option Char
  | .literal character => some character
  | .placeholder _ => none

/-- Two placeholders of a segment, and the characters between them. -/
structure PlaceholderPair where
  first : String
  between : List Char
  second : String

/-- The first two placeholders of a segment. -/
def placeholderPair? (segment : List TemplateItem) :
    Option PlaceholderPair :=
  let isLiteral := fun item : TemplateItem => item.character?.isSome
  match segment.dropWhile isLiteral with
  | .placeholder first :: later =>
    let between := later.takeWhile isLiteral
    match later.dropWhile isLiteral with
    | .placeholder second :: _ =>
      some
        { first
          between := between.filterMap TemplateItem.character?
          second }
    | _ => none
  | _ => none

def placeholderNames (segment : List TemplateItem) : List String :=
  segment.filterMap TemplateItem.name?

/-- A segment whose values are read where they have been written. -/
def ReadsRight
    (values : String → List Char)
    (segment : List TemplateItem) : Prop :=
  ∀ pair ∈ placeholderPair? segment,
    Captures.SplitsRight (values pair.first) pair.between (values pair.second)

instance (values : String → List Char) (segment : List TemplateItem) :
    Decidable (ReadsRight values segment) :=
  inferInstanceAs (Decidable (∀ pair ∈ placeholderPair? segment, _))

theorem literals_or_placeholder (items : List TemplateItem) :
    (∃ characters, items = literalItems characters) ∨
      ∃ characters name rest,
        items = literalItems characters ++ .placeholder name :: rest := by
  induction items with
  | nil =>
    exact .inl ⟨[], rfl⟩
  | cons item rest inductionHypothesis =>
    cases item with
    | placeholder name =>
      exact .inr ⟨[], name, rest, rfl⟩
    | literal character =>
      rcases inductionHypothesis with
        ⟨characters, rfl⟩ | ⟨characters, name, later, rfl⟩
      · exact .inl ⟨character :: characters, rfl⟩
      · exact .inr ⟨character :: characters, name, later, rfl⟩

@[simp]
theorem placeholderNames_literals
    (characters : List Char)
    (rest : List TemplateItem) :
    placeholderNames (literalItems characters ++ rest) =
      placeholderNames rest := by
  have noNames :
      (literalItems characters).filterMap TemplateItem.name? = [] := by
    unfold literalItems
    rw [List.filterMap_map]
    exact List.filterMap_eq_nil_iff.mpr fun _ _ => rfl
  unfold placeholderNames
  rw [List.filterMap_append, noNames, List.nil_append]

@[simp]
theorem placeholderNames_placeholder
    (name : String)
    (rest : List TemplateItem) :
    placeholderNames (.placeholder name :: rest) =
      name :: placeholderNames rest :=
  rfl

theorem placeholderNames_single (before after : List Char) (name : String) :
    placeholderNames
        (literalItems before ++ .placeholder name :: literalItems after) =
      [name] := by
  have noNames := placeholderNames_literals after []
  rw [List.append_nil] at noNames
  rw [placeholderNames_literals, placeholderNames_placeholder, noNames]
  rfl

theorem placeholderNames_pair
    (before between after : List Char)
    (first second : String) :
    placeholderNames (pairSegment before first between second after) =
      [first, second] := by
  unfold pairSegment
  rw [placeholderNames_literals, placeholderNames_placeholder]
  exact congrArg _ (placeholderNames_single between after second)

theorem mem_placeholderNames
    {name : String} :
    name ∈ placeholderNames segment ↔ .placeholder name ∈ segment := by
  unfold placeholderNames
  rw [List.mem_filterMap]
  constructor
  · rintro ⟨item, isItem, isName⟩
    cases item with
    | literal character =>
      cases isName
    | placeholder other =>
      rw [TemplateItem.name?, Option.some_inj] at isName
      rwa [← isName]
  · intro member
    exact ⟨_, member, rfl⟩

theorem segment_cases
    (plain : PlainTemplate segment)
    (unrepeated : (placeholderNames segment).Nodup) :
    (∃ before, segment = literalItems before) ∨
      (∃ before name after,
        segment =
          literalItems before ++ .placeholder name :: literalItems after) ∨
      ∃ before first between second after,
        first ≠ second ∧
          segment = pairSegment before first between second after := by
  rcases literals_or_placeholder segment with
    isLiterals | ⟨before, first, rest, rfl⟩
  · exact .inl isLiterals
  · rcases literals_or_placeholder rest with
      ⟨after, rfl⟩ | ⟨between, second, later, rfl⟩
    · exact .inr (.inl ⟨before, first, after, rfl⟩)
    · rcases literals_or_placeholder later with
        ⟨after, rfl⟩ | ⟨characters, third, last, rfl⟩
      · refine .inr (.inr ⟨before, first, between, second, after, ?_, rfl⟩)
        simp only [placeholderNames_literals, placeholderNames_placeholder,
          List.nodup_cons, List.mem_cons, not_or] at unrepeated
        exact unrepeated.1.1
      · -- There are but two names.
        exfalso
        have isFirst := plain (.placeholder first) (by simp)
        have isSecond := plain (.placeholder second) (by simp)
        have isThird := plain (.placeholder third) (by simp)
        simp only [placeholderNames_literals, placeholderNames_placeholder,
          List.nodup_cons, List.mem_cons, not_or] at unrepeated
        simp only [pathPlaceholders, List.mem_cons, List.not_mem_nil,
          or_false] at isFirst isSecond isThird
        grind

theorem dropWhile_literals
    (characters : List Char)
    (name : String)
    (rest : List TemplateItem) :
    (literalItems characters ++ .placeholder name :: rest).dropWhile
        (fun item => item.character?.isSome) =
      .placeholder name :: rest := by
  induction characters with
  | nil =>
    rfl
  | cons character characters inductionHypothesis =>
    exact inductionHypothesis

theorem takeWhile_literals
    (characters : List Char)
    (name : String)
    (rest : List TemplateItem) :
    (literalItems characters ++ .placeholder name :: rest).takeWhile
        (fun item => item.character?.isSome) =
      literalItems characters := by
  induction characters with
  | nil =>
    rfl
  | cons character characters inductionHypothesis =>
    exact congrArg _ inductionHypothesis

theorem dropWhile_allLiterals (characters : List Char) :
    (literalItems characters).dropWhile
        (fun item => item.character?.isSome) =
      [] := by
  induction characters with
  | nil =>
    rfl
  | cons character characters inductionHypothesis =>
    exact inductionHypothesis

theorem filterMap_literals (characters : List Char) :
    (literalItems characters).filterMap TemplateItem.character? =
      characters := by
  unfold literalItems
  rw [List.filterMap_map]
  exact List.filterMap_some

theorem readsRight_pair
    (values : String → List Char)
    (before between after : List Char)
    (first second : String) :
    ReadsRight values (pairSegment before first between second after) ↔
      Captures.SplitsRight (values first) between (values second) := by
  unfold ReadsRight placeholderPair? pairSegment
  dsimp only
  rw [dropWhile_literals]
  dsimp only
  rw [dropWhile_literals, takeWhile_literals, filterMap_literals]
  simp

theorem placeholderPair?_single
    (before after : List Char)
    (name : String) :
    placeholderPair?
        (literalItems before ++ .placeholder name :: literalItems after) =
      none := by
  unfold placeholderPair?
  dsimp only
  rw [dropWhile_literals]
  dsimp only
  rw [dropWhile_allLiterals]

theorem pattern_literals
    (characters : List Char)
    (rest : List TemplateItem) :
    TemplateItem.pattern (literalItems characters ++ rest) =
      Captures.literals characters ++ TemplateItem.pattern rest := by
  induction characters with
  | nil =>
    rfl
  | cons character characters inductionHypothesis =>
    exact congrArg _ inductionHypothesis

theorem pattern_allLiterals (characters : List Char) :
    TemplateItem.pattern (literalItems characters) =
      Captures.literals characters := by
  have whole := pattern_literals characters []
  rw [List.append_nil] at whole
  exact whole.trans (List.append_nil _)

theorem startsLiteral_literals
    (characters : List Char)
    (name : String)
    (rest : List TemplateItem) :
    TemplateItem.startsLiteral
        (literalItems characters ++ .placeholder name :: rest) =
      !characters.isEmpty := by
  cases characters with
  | nil | cons =>
    rfl

theorem fillItems_append
    {fill : String → List Char}
    (characters : List Char)
    (rest : List TemplateItem) :
    fillItems fill (literalItems characters ++ rest) =
      characters ++ fillItems fill rest := by
  have literalText := @fillItems_literals fill characters
  unfold fillItems at literalText ⊢
  unfold literalItems
  rw [List.flatMap_append, literalText]

theorem fillItems_placeholder
    {fill : String → List Char}
    (name : String)
    (rest : List TemplateItem) :
    fillItems fill (.placeholder name :: rest) =
      fill name ++ fillItems fill rest :=
  List.flatMap_cons

theorem fullMatch_pairSegment
    {values : String → List Char}
    {before between after : List Char}
    {first second : String}
    {captured : List (String × List Char)}
    (matched :
      Captures.fullMatch
          (.capture first (!between.isEmpty) ::
            (Captures.literals between ++
              .capture second
                  (TemplateItem.startsLiteral (literalItems after)) ::
                Captures.literals after))
          (Captures.pairText (values first) between (values second) after) =
        some captured) :
    Captures.fullMatch
        (TemplateItem.pattern (pairSegment before first between second after))
        (fillItems values (pairSegment before first between second after)) =
      some captured := by
  unfold pairSegment
  rw [pattern_literals, Captures.fullMatch_literals_iff]
  refine ⟨Captures.pairText (values first) between (values second) after,
    ?_, ?_⟩
  · rw [fillItems_append, fillItems_placeholder, fillItems_append,
      fillItems_placeholder]
    unfold literalItems Captures.pairText
    rw [fillItems_literals, List.append_assoc, List.append_assoc]
  · rw [TemplateItem.pattern, startsLiteral_literals, pattern_literals,
      TemplateItem.pattern, pattern_allLiterals]
    exact matched

/-- The values that have been captured, cleaned. -/
def cleanCaptured
    (captured : List (String × List Char)) : List (String × String) :=
  (captured.map fun value =>
    (value.1, strip (String.ofList value.2))).filter fun value =>
      value.2 ≠ ""

theorem readSegment_braced
    (plain : PlainTemplate segment)
    (unrepeated : (placeholderNames segment).Nodup)
    (hasNames : placeholderNames segment ≠ [])
    (candidate : List Char) :
    readSegment (String.ofList (fillItems braced segment))
        (String.ofList candidate) =
      .ok
        ((Captures.fullMatch (TemplateItem.pattern segment)
          candidate).map cleanCaptured) := by
  unfold placeholderNames at unrepeated hasNames
  unfold readSegment
  dsimp only
  rw [String.toList_ofList, scanTemplate_braced plain, if_neg hasNames,
    if_neg (not_not.mpr unrepeated), String.toList_ofList]
  rfl

theorem strip_value {value : List Char} (inSegment : InSegment value) :
    strip (String.ofList value) = String.ofList value := by
  rw [strip_eq_self_iff, String.toList_ofList]
  exact ⟨inSegment.first, inSegment.last⟩

theorem strip_ne_empty
    (visible : 0 < countVisible characters) :
    strip (String.ofList characters) ≠ "" := by
  intro isEmpty
  have counts := countVisible_strip (String.ofList characters)
  rw [isEmpty, String.toList_ofList, String.toList_ofList] at counts
  rw [← counts] at visible
  exact absurd visible (by decide)

/--
What a segment reads of its own rendering.  It reads each of its placeholders,
and reads them right if they are split right.
-/
structure SegmentReads
    (values : String → List Char)
    (segment : List TemplateItem)
    (found : List (String × String)) : Prop where
  reads :
    readSegment (String.ofList (fillItems braced segment))
        (String.ofList (fillItems values segment)) =
      .ok (some found)
  distinct : (found.map Prod.fst).Nodup
  names :
    ∀ name, (found.lookup name).isSome = true ↔ name ∈ placeholderNames segment
  right :
    ∀ name ∈ placeholderNames segment,
      found.lookup name = some (String.ofList (values name)) ↔
        ReadsRight values segment

section Segment

variable {values : String → List Char}

theorem segmentReads_literals
    {before : List Char}
    (plain : PlainTemplate (literalItems before)) :
    SegmentReads values (literalItems before) [] := by
  have noNames : placeholderNames (literalItems before) = [] := by
    have whole := placeholderNames_literals before []
    rwa [List.append_nil] at whole
  have sameText :
      fillItems braced (literalItems before) =
        fillItems values (literalItems before) := by
    unfold literalItems
    rw [fillItems_literals, fillItems_literals]
  refine ⟨?_, List.nodup_nil, ?_, ?_⟩
  · have noItems := noNames
    unfold placeholderNames at noItems
    unfold readSegment
    dsimp only
    rw [String.toList_ofList, scanTemplate_braced plain, if_pos noItems,
      sameText, if_pos rfl]
  · intro name
    rw [noNames]
    exact iff_of_false nofun List.not_mem_nil
  · intro name isName
    rw [noNames] at isName
    cases isName

/-- A segment with one placeholder reads its value. -/
theorem segmentReads_single
    {before after : List Char}
    {name : String}
    (plain :
      PlainTemplate
        (literalItems before ++ .placeholder name :: literalItems after))
    (isValue : PathValue (values name)) :
    SegmentReads values
      (literalItems before ++ .placeholder name :: literalItems after)
      [(name, String.ofList (values name))] := by
  have names := placeholderNames_single before after name
  refine ⟨?_, List.nodup_singleton _, ?_, ?_⟩
  · have matched :
        Captures.fullMatch
            (TemplateItem.pattern
              (literalItems before ++ .placeholder name :: literalItems after))
            (fillItems values
              (literalItems before ++
                .placeholder name :: literalItems after)) =
          some [(name, values name)] := by
      rw [pattern_literals, Captures.fullMatch_literals_iff]
      refine ⟨values name ++ after, ?_, ?_⟩
      · rw [fillItems_append, fillItems_placeholder]
        unfold literalItems
        rw [fillItems_literals]
      · rw [TemplateItem.pattern, pattern_allLiterals]
        exact
          Captures.fullMatch_single_iff.mpr
            ⟨values name, rfl, isValue.inSegment.nonempty, isValue.inLine, rfl⟩
    rw [readSegment_braced plain (by rw [names]; exact List.nodup_singleton _)
      (by rw [names]; exact List.cons_ne_nil _ _), matched]
    have kept : String.ofList (values name) ≠ "" := by
      intro isEmpty
      exact
        isValue.inSegment.nonempty
          (String.toList_ofList.symm.trans
            (String.toList_eq_nil_iff.mpr isEmpty))
    simp [cleanCaptured, strip_value isValue.inSegment, kept]
  · intro other
    rw [names, List.mem_singleton, List.lookup_cons]
    by_cases same : other = name
    · simp [same]
    · rw [beq_eq_false_iff_ne.mpr same]
      exact iff_of_false nofun same
  · intro other isName
    rw [names, List.mem_singleton] at isName
    subst isName
    refine iff_of_true List.lookup_cons_self ?_
    intro pair isPair
    rw [placeholderPair?_single] at isPair
    cases isPair

/-- What two values are captured as has characters that are no blanks. -/
theorem countVisible_captured
    {first between second value rest : List Char}
    (isFirst : InSegment first)
    (isSecond : InSegment second)
    (nonempty : value ≠ [])
    (restNonempty : rest ≠ [])
    (sameText : first ++ between ++ second = value ++ between ++ rest) :
    0 < countVisible value ∧ 0 < countVisible rest := by
  constructor
  · have sameHead := congrArg List.head? sameText
    rw [List.append_assoc, List.append_assoc,
      List.head?_append_of_ne_nil _ isFirst.nonempty,
      List.head?_append_of_ne_nil _ nonempty] at sameHead
    have isHead := List.head?_eq_some_head nonempty
    exact
      countVisible_pos (List.head_mem nonempty)
        (isFirst.first _ (sameHead.trans isHead))
  · have sameLast := congrArg List.getLast? sameText
    rw [List.getLast?_append_of_ne_nil _ isSecond.nonempty,
      List.getLast?_append_of_ne_nil _ restNonempty] at sameLast
    have isLast := List.getLast?_eq_some_getLast restNonempty
    exact
      countVisible_pos (List.getLast_mem restNonempty)
        (isSecond.last _ (sameLast.trans isLast))

/-- A segment with two placeholders reads their values if they split right. -/
theorem segmentReads_pair
    {before between after : List Char}
    {first second : String}
    (differ : first ≠ second)
    (plain : PlainTemplate (pairSegment before first between second after))
    (isFirst : PathValue (values first))
    (isSecond : PathValue (values second)) :
    ∃ found,
      SegmentReads values (pairSegment before first between second after)
        found := by
  have names := placeholderNames_pair before between after first second
  obtain
    ⟨value, rest, matched, nonempty, restNonempty, sameText, right, wrong⟩ :=
    @Captures.fullMatch_pair first second
      (TemplateItem.startsLiteral (literalItems after)) (values first)
      between (values second) after isFirst.inSegment.nonempty
      isSecond.inSegment.nonempty isFirst.inLine isSecond.inLine
  obtain ⟨valueVisible, restVisible⟩ :=
    countVisible_captured isFirst.inSegment isSecond.inSegment nonempty
      restNonempty sameText
  refine
    ⟨[(first, strip (String.ofList value)),
        (second, strip (String.ofList rest))],
      ?_, by simp [differ], ?_, ?_⟩
  · rw [readSegment_braced plain (by rw [names]; simp [differ])
      (by rw [names]; exact List.cons_ne_nil _ _),
      fullMatch_pairSegment matched]
    simp [cleanCaptured, strip_ne_empty valueVisible,
      strip_ne_empty restVisible]
  · intro name
    rw [names, List.lookup_cons, List.lookup_cons]
    by_cases sameFirst : name = first
    · simp [sameFirst]
    · rw [beq_eq_false_iff_ne.mpr sameFirst]
      by_cases sameSecond : name = second
      · simp [sameSecond]
      · rw [beq_eq_false_iff_ne.mpr sameSecond]
        exact iff_of_false nofun (by simp [sameFirst, sameSecond])
  · intro name isName
    rw [names] at isName
    have firstFound :
        [(first, strip (String.ofList value)),
            (second, strip (String.ofList rest))].lookup first =
          some (strip (String.ofList value)) :=
      List.lookup_cons_self
    have secondFound :
        [(first, strip (String.ofList value)),
            (second, strip (String.ofList rest))].lookup second =
          some (strip (String.ofList rest)) := by
      rw [List.lookup_cons, beq_eq_false_iff_ne.mpr differ.symm]
      exact List.lookup_cons_self
    rw [readsRight_pair]
    by_cases splitsRight :
        Captures.SplitsRight (values first) between (values second)
    · refine iff_of_true ?_ splitsRight
      have sameValue := right splitsRight
      rw [sameValue, List.append_cancel_left_eq] at sameText
      simp only [List.mem_cons, List.not_mem_nil, or_false] at isName
      rcases isName with rfl | rfl
      · rw [firstFound, sameValue, strip_value isFirst.inSegment]
      · rw [secondFound, ← sameText, strip_value isSecond.inSegment]
    · refine iff_of_false ?_ splitsRight
      obtain ⟨valueDiffers, restDiffers⟩ :=
        countVisible_ne isFirst.inSegment isSecond.inSegment sameText
          (wrong splitsRight)
      intro found
      simp only [List.mem_cons, List.not_mem_nil, or_false] at isName
      rcases isName with rfl | rfl
      · rw [firstFound, Option.some_inj] at found
        exact valueDiffers (countVisible_of_strip found)
      · rw [secondFound, Option.some_inj] at found
        exact restDiffers (countVisible_of_strip found)

theorem exists_segmentReads
    {segment : List TemplateItem}
    (plain : PlainTemplate segment)
    (unrepeated : (placeholderNames segment).Nodup)
    (areValues : ∀ name ∈ pathPlaceholders, PathValue (values name)) :
    ∃ found, SegmentReads values segment found := by
  rcases segment_cases plain unrepeated with
    ⟨before, rfl⟩ | ⟨before, name, after, rfl⟩ |
    ⟨before, first, between, second, after, differ, rfl⟩
  · exact ⟨[], segmentReads_literals plain⟩
  · have isPlaceholder := plain (.placeholder name) (by simp)
    exact ⟨_, segmentReads_single plain (areValues name isPlaceholder)⟩
  · have isFirst := plain (.placeholder first) (by simp [pairSegment])
    have isSecond := plain (.placeholder second) (by simp [pairSegment])
    exact
      segmentReads_pair differ plain (areValues first isFirst)
        (areValues second isSecond)

theorem readSegment_repeated
    {segment : List TemplateItem}
    (plain : PlainTemplate segment)
    (repeated : ¬ (placeholderNames segment).Nodup)
    (candidate : String) :
    readSegment (String.ofList (fillItems braced segment)) candidate =
      .error .redefinedGroup := by
  have hasNames : placeholderNames segment ≠ [] := by
    intro noNames
    rw [noNames] at repeated
    exact repeated List.nodup_nil
  unfold placeholderNames at repeated hasNames
  unfold readSegment
  dsimp only
  rw [String.toList_ofList, scanTemplate_braced plain, if_neg hasNames,
    if_pos repeated]

/-! ### Reading a path -/

/-- The last segment with a placeholder. -/
def lastWith
    (name : String)
    (segments : List (List TemplateItem)) : Option (List TemplateItem) :=
  (segments.filter fun segment =>
    decide (name ∈ placeholderNames segment)).getLast?

/-- What has been read of a placeholder once some segments have been read. -/
def ReadsLast
    (values : String → List Char)
    (segments : List (List TemplateItem))
    (before after : List (String × String))
    (name : String) : Prop :=
  match lastWith name segments with
  | none =>
    after.lookup name = before.lookup name
  | some segment =>
    (after.lookup name).isSome = true ∧
      (after.lookup name = some (String.ofList (values name)) ↔
        ReadsRight values segment)

/-- Segments as they are written, with their renderings. -/
def renderedPairs
    (values : String → List Char)
    (segments : List (List TemplateItem)) : List (String × String) :=
  segments.map fun segment =>
    (String.ofList (fillItems braced segment),
      String.ofList (fillItems values segment))

theorem lastWith_cons
    (name : String)
    (segment : List TemplateItem)
    (rest : List (List TemplateItem)) :
    lastWith name (segment :: rest) =
      (lastWith name rest).or
        (if name ∈ placeholderNames segment then some segment
        else none) := by
  unfold lastWith
  rw [List.filter_cons]
  by_cases isName : name ∈ placeholderNames segment
  · rw [if_pos (decide_eq_true isName), if_pos isName, List.getLast?_cons]
    cases (rest.filter fun segment =>
        decide (name ∈ placeholderNames segment)).getLast? with
    | none | some =>
      rfl
  · rw [if_neg (by simp [isName]), if_neg isName, Option.or_none]

/-- Segments that repeat no placeholder are read one after the other. -/
theorem readSegments_rendered
    {segments : List (List TemplateItem)}
    (plain : ∀ segment ∈ segments, PlainTemplate segment)
    (unrepeated : ∀ segment ∈ segments, (placeholderNames segment).Nodup)
    (areValues : ∀ name ∈ pathPlaceholders, PathValue (values name))
    (before : List (String × String)) :
    ∃ after,
      readSegments before (renderedPairs values segments) = .ok after ∧
        ∀ name, ReadsLast values segments before after name := by
  induction segments generalizing before with
  | nil =>
    exact ⟨before, rfl, fun name => rfl⟩
  | cons segment rest inductionHypothesis =>
    obtain ⟨found, reads⟩ :=
      exists_segmentReads (plain segment List.mem_cons_self)
        (unrepeated segment List.mem_cons_self) areValues
    obtain ⟨after, restRead, readsLast⟩ :=
      inductionHypothesis
        (fun other isLater => plain other (List.mem_cons_of_mem _ isLater))
        (fun other isLater =>
          unrepeated other (List.mem_cons_of_mem _ isLater))
        (Dictionary.update before found)
    refine ⟨after, ?_, ?_⟩
    · exact (readSegments_cons reads.reads before _).trans restRead
    · intro name
      have restLast := readsLast name
      have updated :=
        Dictionary.lookup_update_of_distinct reads.distinct before name
      have names := reads.names name
      unfold ReadsLast at restLast ⊢
      rw [lastWith_cons]
      cases isLast : lastWith name rest with
      | some last =>
        rw [isLast] at restLast
        exact restLast
      | none =>
        rw [isLast] at restLast
        dsimp only at restLast
        rw [restLast, updated]
        by_cases isName : name ∈ placeholderNames segment
        · rw [if_pos isName]
          obtain ⟨value, isValue⟩ :=
            Option.isSome_iff_exists.mp (names.mpr isName)
          have right := reads.right name isName
          rw [isValue] at right ⊢
          exact ⟨rfl, right⟩
        · rw [if_neg isName]
          have notFound : found.lookup name = none := by
            rw [← Option.not_isSome_iff_eq_none, names]
            exact isName
          rw [notFound]
          rfl

theorem readSegments_repeated
    {segments : List (List TemplateItem)}
    (plain : ∀ segment ∈ segments, PlainTemplate segment)
    (repeated : ∃ segment ∈ segments, ¬ (placeholderNames segment).Nodup)
    (areValues : ∀ name ∈ pathPlaceholders, PathValue (values name))
    (before : List (String × String)) :
    readSegments before (renderedPairs values segments) =
      .error .redefinedGroup := by
  induction segments generalizing before with
  | nil =>
    obtain ⟨segment, isSegment, -⟩ := repeated
    cases isSegment
  | cons segment rest inductionHypothesis =>
    have isPlain := plain segment List.mem_cons_self
    by_cases isUnrepeated : (placeholderNames segment).Nodup
    · obtain ⟨found, reads⟩ :=
        exists_segmentReads isPlain isUnrepeated areValues
      obtain ⟨other, isOther, isRepeated⟩ := repeated
      refine
        (readSegments_cons reads.reads before _).trans
          (inductionHypothesis
            (fun later isLater =>
              plain later (List.mem_cons_of_mem _ isLater))
            ⟨other, ?_, isRepeated⟩ _)
      rcases List.mem_cons.mp isOther with rfl | isLater
      · exact absurd isUnrepeated isRepeated
      · exact isLater
    · exact
        readSegments_error
          (readSegment_repeated isPlain isUnrepeated _) before _

end Segment

end RpaPlatform.Agents
