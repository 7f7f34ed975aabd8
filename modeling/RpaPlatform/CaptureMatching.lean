import Mathlib.Data.List.TakeWhile

namespace RpaPlatform.Captures

/-!
# Matching with captures

A pattern is a row of characters and of captures.  A capture takes one or more
characters of a line: a lazy one takes as few as the rest of the pattern allows,
a greedy one as many.  The first way of matching a whole text is the one that
is found.
-/

/-- One item of a pattern. -/
inductive Item where
  | literal (character : Char)
  | capture (name : String) (isLazy : Bool)
  deriving DecidableEq

/-- The numbers of characters that a capture may take, in order. -/
def lengths (isLazy : Bool) (text : List Char) : List Nat :=
  let shortestFirst :=
    List.range' 1 (text.takeWhile (· ≠ '\n')).length
  if isLazy then shortestFirst else shortestFirst.reverse

/-- What is captured where a pattern matches a whole text. -/
def fullMatch : List Item → List Char → Option (List (String × List Char))
  | [], [] =>
    some []
  | [], _ :: _ =>
    none
  | .literal _ :: _, [] =>
    none
  | .literal character :: items, next :: text =>
    if character = next then fullMatch items text else none
  | .capture name isLazy :: items, text =>
    (lengths isLazy text).findSome? fun length =>
      (fullMatch items (text.drop length)).map fun captured =>
        (name, text.take length) :: captured

example :
    fullMatch
        [.capture "first" true, .literal '-', .capture "second" false]
        "a-b-c".toList =
      some [("first", "a".toList), ("second", "b-c".toList)] := by
  decide

example :
    fullMatch [.capture "first" false, .capture "second" false]
        "abc".toList =
      some [("first", "ab".toList), ("second", "c".toList)] := by
  decide

/-! ### Literals -/

def literals (characters : List Char) : List Item :=
  characters.map Item.literal

variable
    {items : List Item}
    {text : List Char}
    {length : Nat}
    {name : String}

variable {captured : List (String × List Char)}

theorem fullMatch_literals_iff
    {characters : List Char} :
    fullMatch (literals characters ++ items) text = some captured ↔
      ∃ rest,
        text = characters ++ rest ∧ fullMatch items rest = some captured := by
  induction characters generalizing text with
  | nil =>
    exact
      ⟨fun matched => ⟨text, rfl, matched⟩,
        fun ⟨_, same, matched⟩ => same ▸ matched⟩
  | cons character characters inductionHypothesis =>
    cases text with
    | nil =>
      exact iff_of_false nofun fun ⟨_, same, _⟩ => nomatch same
    | cons next text =>
      change (if character = next then
            fullMatch (literals characters ++ items) text
          else none) = some captured ↔ _
      by_cases same : character = next
      · subst same
        rw [if_pos rfl, inductionHypothesis]
        simp only [List.cons_append, List.cons.injEq, true_and]
      · rw [if_neg same]
        refine iff_of_false nofun fun ⟨_, sameText, _⟩ => ?_
        exact same (List.cons.inj sameText).1.symm

theorem fullMatch_literals
    {characters text : List Char} :
    fullMatch (literals characters) text = some captured ↔
      text = characters ∧ captured = [] := by
  rw [← List.append_nil (literals characters), fullMatch_literals_iff]
  constructor
  · rintro ⟨rest, rfl, matched⟩
    cases rest with
    | nil =>
      exact ⟨List.append_nil _, (Option.some.inj matched).symm⟩
    | cons character rest =>
      cases matched
  · rintro ⟨rfl, rfl⟩
    exact ⟨[], (List.append_nil _).symm, rfl⟩

/-! ### Captures -/

def most (text : List Char) : Nat :=
  (text.takeWhile (· ≠ '\n')).length

theorem mem_lengths
    {isLazy : Bool}
    {length : Nat} :
    length ∈ lengths isLazy text ↔ 1 ≤ length ∧ length ≤ most text := by
  have inRange :
      length ∈ List.range' 1 (most text) ↔ 1 ≤ length ∧ length ≤ most text := by
    rw [List.mem_range'_1]
    omega
  unfold lengths
  cases isLazy with
  | true =>
    exact inRange
  | false =>
    exact List.mem_reverse.trans inRange

theorem length_le_most
    {value : List Char}
    (inLine : '\n' ∉ value)
    (rest : List Char) :
    value.length ≤ most (value ++ rest) := by
  have isTaken : ∀ character ∈ value, decide (character ≠ '\n') = true := by
    intro character member
    refine decide_eq_true ?_
    rintro rfl
    exact inLine member
  unfold most
  rw [List.takeWhile_append_of_pos isTaken, List.length_append]
  exact Nat.le_add_right _ _

theorem newline_notMem_take
    (fits : length ≤ most text) :
    '\n' ∉ text.take length := by
  intro member
  have inLine : text.take length <+: text.takeWhile (· ≠ '\n') := by
    refine List.prefix_of_prefix_length_le (List.take_prefix _ _)
      (List.takeWhile_prefix _) ?_
    exact Nat.le_trans (List.length_take_le _ _) fits
  have isOther := List.mem_takeWhile_imp (inLine.subset member)
  exact of_decide_eq_true isOther rfl

/-- What a capture comes to when it takes some characters. -/
def attempt
    (name : String)
    (items : List Item)
    (text : List Char)
    (length : Nat) : Option (List (String × List Char)) :=
  (fullMatch items (text.drop length)).map fun captured =>
    (name, text.take length) :: captured

theorem findSome?_first
    {Candidate Result : Type*}
    {order : Candidate → Candidate → Prop}
    {find : Candidate → Option Result}
    {candidates : List Candidate}
    (sorted : candidates.Pairwise order)
    {candidate : Candidate}
    (member : candidate ∈ candidates)
    (found : (find candidate).isSome = true) :
    ∃ first ∈ candidates,
      candidates.findSome? find = find first ∧
        (find first).isSome = true ∧
        (first = candidate ∨ order first candidate) := by
  induction candidates with
  | nil =>
    cases member
  | cons head rest inductionHypothesis =>
    obtain ⟨isBefore, restSorted⟩ := List.pairwise_cons.mp sorted
    by_cases isFirst : (find head).isSome = true
    · refine
        ⟨head, List.mem_cons_self,
          List.findSome?_cons_of_isSome isFirst, isFirst, ?_⟩
      rcases List.mem_cons.mp member with rfl | isLater
      · exact .inl rfl
      · exact .inr (isBefore candidate isLater)
    · have isLater : candidate ∈ rest := by
        rcases List.mem_cons.mp member with rfl | isLater
        · exact absurd found isFirst
        · exact isLater
      obtain ⟨first, isMember, same, isSome, isOrdered⟩ :=
        inductionHypothesis restSorted isLater
      rw [Bool.not_eq_true, Option.isSome_eq_false_iff] at isFirst
      exact
        ⟨first, List.mem_cons_of_mem _ isMember,
          (List.findSome?_cons_of_isNone isFirst).trans same, isSome,
          isOrdered⟩

theorem fullMatch_lazy
    (positive : 1 ≤ length)
    (fits : length ≤ most text)
    (matched : (attempt name items text length).isSome = true) :
    ∃ least ≤ length,
      1 ≤ least ∧
        fullMatch (.capture name true :: items) text =
            attempt name items text least ∧
        (attempt name items text least).isSome = true := by
  have sorted : (lengths true text).Pairwise (· < ·) :=
    List.pairwise_lt_range'
  obtain ⟨least, isLength, same, isSome, isOrdered⟩ :=
    findSome?_first sorted (mem_lengths.mpr ⟨positive, fits⟩) matched
  exact ⟨least, by omega, (mem_lengths.mp isLength).1, same, isSome⟩

theorem fullMatch_greedy
    (positive : 1 ≤ length)
    (fits : length ≤ most text)
    (matched : (attempt name items text length).isSome = true) :
    ∃ greatest ≥ length,
      greatest ≤ most text ∧
        fullMatch (.capture name false :: items) text =
            attempt name items text greatest ∧
        (attempt name items text greatest).isSome = true := by
  have sorted : (lengths false text).Pairwise (· > ·) :=
    List.pairwise_reverse.mpr List.pairwise_lt_range'
  obtain ⟨greatest, isLength, same, isSome, isOrdered⟩ :=
    findSome?_first sorted (mem_lengths.mpr ⟨positive, fits⟩) matched
  exact ⟨greatest, by omega, (mem_lengths.mp isLength).2, same, isSome⟩

theorem attempt_eq_some :
    attempt name items text length = some captured ↔
      ∃ later,
        fullMatch items (text.drop length) = some later ∧
          (name, text.take length) :: later = captured :=
  Option.map_eq_some_iff

/-- One capture before literal items takes what comes before them. -/
theorem fullMatch_single_iff
    {isLazy : Bool}
    {after text : List Char} :
    fullMatch (.capture name isLazy :: literals after) text =
        some captured ↔
      ∃ value,
        text = value ++ after ∧
          value ≠ [] ∧
          '\n' ∉ value ∧
          captured = [(name, value)] := by
  have only :
      ∀ captured,
        fullMatch (.capture name isLazy :: literals after) text =
            some captured →
          ∃ value,
            text = value ++ after ∧
              value ≠ [] ∧
              '\n' ∉ value ∧
              captured = [(name, value)] := by
    intro captured matched
    obtain ⟨length, isLength, attempted⟩ :=
      List.exists_of_findSome?_eq_some matched
    obtain ⟨later, matchedLater, rfl⟩ := attempt_eq_some.mp attempted
    obtain ⟨positive, fits⟩ := mem_lengths.mp isLength
    obtain ⟨isAfter, rfl⟩ := fullMatch_literals.mp matchedLater
    refine ⟨text.take length, ?_, ?_, newline_notMem_take fits, rfl⟩
    · rw [← isAfter, List.take_append_drop]
    · have longEnough : length ≤ text.length :=
        Nat.le_trans fits (List.takeWhile_prefix _).length_le
      refine List.ne_nil_of_length_pos ?_
      rw [List.length_take]
      omega
  constructor
  · exact only captured
  · rintro ⟨value, rfl, nonempty, inLine, rfl⟩
    have attempted :
        attempt name (literals after) (value ++ after) value.length =
          some [(name, value)] := by
      refine attempt_eq_some.mpr ⟨[], ?_, ?_⟩
      · exact fullMatch_literals.mpr ⟨List.drop_left, rfl⟩
      · rw [List.take_left]
    have isLength : value.length ∈ lengths isLazy (value ++ after) :=
      mem_lengths.mpr
        ⟨List.length_pos_iff.mpr nonempty, length_le_most inLine after⟩
    have isSome :
        (fullMatch (.capture name isLazy :: literals after)
          (value ++ after)).isSome = true := by
      refine List.findSome?_isSome_iff.mpr ⟨value.length, isLength, ?_⟩
      exact Option.isSome_of_eq_some attempted
    obtain ⟨captured, matched⟩ := Option.isSome_iff_exists.mp isSome
    obtain ⟨other, sameText, -, -, rfl⟩ := only captured matched
    rw [matched, List.append_cancel_right sameText]

/-! ### Two captures -/

/--
Where two values and what is between them are split right: what is between them
does not occur earlier, and if nothing is, the second value is one character.
-/
def SplitsRight (first between second : List Char) : Prop :=
  if between = [] then
    second.length = 1
  else
    ∀ length,
      1 ≤ length →
        length < first.length →
          ¬ between <+: (first ++ between ++ second).drop length

instance (first between second : List Char) :
    Decidable (SplitsRight first between second) :=
  decidable_of_iff (if between = [] then
      second.length = 1
    else
      ∀ length < first.length,
        1 ≤ length → ¬ between <+: (first ++ between ++ second).drop length)
    (by
      unfold SplitsRight
      split
      · exact Iff.rfl
      · exact
          ⟨fun notEarlier length positive isEarlier =>
              notEarlier length isEarlier positive,
            fun notEarlier length isEarlier positive =>
              notEarlier length positive isEarlier⟩)

section Pair

variable
    {firstName secondName : String}
    {isLazy : Bool}
    {first between second after : List Char}

theorem attempt_pair
    {text : List Char}
    {length : Nat}
    {captured : List (String × List Char)} :
    attempt firstName
          (literals between ++ .capture secondName isLazy :: literals after)
          text length =
        some captured ↔
      ∃ value,
        text.drop length = between ++ value ++ after ∧
          value ≠ [] ∧
          '\n' ∉ value ∧
          captured = [(firstName, text.take length), (secondName, value)] := by
  rw [attempt_eq_some]
  constructor
  · rintro ⟨later, matched, rfl⟩
    obtain ⟨rest, isRest, matchedRest⟩ := fullMatch_literals_iff.mp matched
    obtain ⟨value, rfl, nonempty, inLine, rfl⟩ :=
      fullMatch_single_iff.mp matchedRest
    exact ⟨value, by rw [isRest, List.append_assoc], nonempty, inLine, rfl⟩
  · rintro ⟨value, isRest, nonempty, inLine, rfl⟩
    refine
      ⟨[(secondName, value)],
        fullMatch_literals_iff.mpr
          ⟨value ++ after, by rw [isRest, List.append_assoc], ?_⟩,
        rfl⟩
    exact fullMatch_single_iff.mpr ⟨value, rfl, nonempty, inLine, rfl⟩

def pairText (first between second after : List Char) : List Char :=
  first ++ between ++ second ++ after

theorem isSome_attempt_pair
    {value rest : List Char}
    (firstInLine : '\n' ∉ first)
    (secondInLine : '\n' ∉ second)
    (same : first ++ between ++ second = value ++ between ++ rest)
    (nonempty : rest ≠ []) :
    (attempt firstName
        (literals between ++ .capture secondName isLazy :: literals after)
        (pairText first between second after)
        value.length).isSome = true := by
  -- The newlines are all in what is between the values.
  have inLine : '\n' ∉ rest := by
    have counts := congrArg (List.count '\n') same
    simp only [List.count_append, List.count_eq_zero.mpr firstInLine,
      List.count_eq_zero.mpr secondInLine] at counts
    exact List.count_eq_zero.mp (by omega)
  refine
    Option.isSome_iff_exists.mpr
      ⟨_, attempt_pair.mpr ⟨rest, ?_, nonempty, inLine, rfl⟩⟩
  rw [pairText, same, List.append_assoc, List.append_assoc,
    List.drop_left, List.append_assoc]

theorem append_of_attempt_pair
    {length : Nat}
    (fits : length ≤ most (pairText first between second after))
    (matched :
      (attempt firstName
        (literals between ++ .capture secondName isLazy :: literals after)
        (pairText first between second after) length).isSome = true) :
    ∃ value rest,
      attempt firstName
            (literals between ++ .capture secondName isLazy :: literals after)
            (pairText first between second after) length =
          some [(firstName, value), (secondName, rest)] ∧
        value.length = length ∧
        rest ≠ [] ∧
        first ++ between ++ second = value ++ between ++ rest := by
  obtain ⟨captured, attempted⟩ := Option.isSome_iff_exists.mp matched
  obtain ⟨rest, isRest, nonempty, -, rfl⟩ := attempt_pair.mp attempted
  have longEnough : length ≤ (pairText first between second after).length :=
    Nat.le_trans fits (List.takeWhile_prefix _).length_le
  refine ⟨_, rest, attempted, List.length_take_of_le longEnough, nonempty, ?_⟩
  have whole :=
    List.take_append_drop length (pairText first between second after)
  rw [isRest, ← List.append_assoc, ← List.append_assoc] at whole
  exact (List.append_cancel_right whole).symm

variable
    (firstNonempty : first ≠ [])
    (secondNonempty : second ≠ [])
    (firstInLine : '\n' ∉ first)
    (secondInLine : '\n' ∉ second)
include firstNonempty secondNonempty firstInLine secondInLine

/-- Lazy captures are right if nothing before is what is between. -/
theorem fullMatch_pair_lazy
    (isBetween : between ≠ []) :
    ∃ value rest,
      fullMatch
            (.capture firstName true ::
              (literals between ++
                .capture secondName isLazy :: literals after))
            (pairText first between second after) =
          some [(firstName, value), (secondName, rest)] ∧
        value ≠ [] ∧
        rest ≠ [] ∧
        first ++ between ++ second = value ++ between ++ rest ∧
        (value.length = first.length ↔ SplitsRight first between second) ∧
        value.length ≤ first.length := by
  have firstFits :
      first.length ≤ most (pairText first between second after) := by
    unfold pairText
    rw [List.append_assoc, List.append_assoc]
    exact length_le_most firstInLine _
  obtain ⟨least, notLater, positive, same, isSome⟩ :=
    fullMatch_lazy (List.length_pos_iff.mpr firstNonempty) firstFits
      (@isSome_attempt_pair firstName secondName isLazy first between
        second after _ _ firstInLine secondInLine rfl secondNonempty)
  obtain ⟨value, rest, attempted, rfl, restNonempty, sameText⟩ :=
    append_of_attempt_pair (Nat.le_trans notLater firstFits) isSome
  refine
    ⟨value, rest, same.trans attempted,
      List.length_pos_iff.mp positive, restNonempty, sameText, ?_,
      notLater⟩
  unfold SplitsRight
  rw [if_neg isBetween]
  constructor
  · intro sameLength length isPositive isEarlier occurs
    obtain ⟨otherRest, isRest⟩ := occurs
    have otherText :
        first ++ between ++ second =
          (first ++ between ++ second).take length ++ between ++ otherRest := by
      rw [List.append_assoc _ between otherRest, isRest, List.take_append_drop]
    have otherLength :
        ((first ++ between ++ second).take length).length = length := by
      rw [List.length_take, List.length_append, List.length_append]
      omega
    have otherNonempty : otherRest ≠ [] := by
      rintro rfl
      have lengths := congrArg List.length otherText
      simp only [List.length_append, otherLength] at lengths
      have secondPositive := List.length_pos_iff.mpr secondNonempty
      simp only [List.length_nil] at lengths
      omega
    have otherMatch :=
      @isSome_attempt_pair firstName secondName isLazy first between
        second after _ _ firstInLine secondInLine otherText otherNonempty
    rw [otherLength] at otherMatch
    obtain ⟨other, notAfter, -, otherSame, otherSome⟩ :=
      fullMatch_lazy isPositive (by omega) otherMatch
    obtain ⟨otherValue, _, otherAttempted, rfl, -, -⟩ :=
      append_of_attempt_pair (by omega) otherSome
    have sameCaptured :=
      (same.trans attempted).symm.trans (otherSame.trans otherAttempted)
    simp only [Option.some.injEq, List.cons.injEq, Prod.mk.injEq, true_and]
      at sameCaptured
    rw [sameCaptured.1] at sameLength
    omega
  · intro notEarlier
    by_contra differs
    refine notEarlier value.length positive (by omega) ?_
    rw [sameText, List.append_assoc, List.drop_left]
    exact List.prefix_append _ _

theorem fullMatch_pair_greedy :
    ∃ value rest,
      fullMatch
            (.capture firstName false ::
              (literals [] ++ .capture secondName isLazy :: literals after))
            (pairText first [] second after) =
          some [(firstName, value), (secondName, rest)] ∧
        rest.length = 1 ∧
        first ++ [] ++ second = value ++ [] ++ rest := by
  have secondPositive := List.length_pos_iff.mpr secondNonempty
  have firstPositive := List.length_pos_iff.mpr firstNonempty
  have allInLine : '\n' ∉ first ++ second := by
    rw [List.mem_append]
    exact not_or.mpr ⟨firstInLine, secondInLine⟩
  have fits :
      (first ++ second.dropLast).length ≤
        most (pairText first [] second after) := by
    have allFits := length_le_most allInLine after
    unfold pairText
    rw [List.append_nil]
    refine Nat.le_trans ?_ allFits
    rw [List.length_append, List.length_append, List.length_dropLast]
    omega
  have splitsLast :
      first ++ [] ++ second =
        (first ++ second.dropLast) ++ [] ++
          [second.getLast secondNonempty] := by
    rw [List.append_nil, List.append_nil, List.append_assoc,
      List.dropLast_concat_getLast]
  obtain ⟨greatest, notEarlier, stillFits, same, isSome⟩ :=
    fullMatch_greedy (by rw [List.length_append]; omega) fits
      (@isSome_attempt_pair firstName secondName isLazy first [] second
        after _ _ firstInLine secondInLine splitsLast
        (List.cons_ne_nil _ _))
  obtain ⟨value, rest, attempted, rfl, restNonempty, sameText⟩ :=
    append_of_attempt_pair stillFits isSome
  refine ⟨value, rest, same.trans attempted, ?_, sameText⟩
  have lengths := congrArg List.length sameText
  have restPositive := List.length_pos_iff.mpr restNonempty
  simp only [List.length_append, List.length_nil, List.length_dropLast]
    at lengths notEarlier
  omega

/--
Two captures match what two values and the text between them were put together
to.  They take the values if these are split right; otherwise the first one
takes less than the first value, or something of the second value as well.
-/
theorem fullMatch_pair :
    ∃ value rest,
      fullMatch
            (.capture firstName (!between.isEmpty) ::
              (literals between ++
                .capture secondName isLazy :: literals after))
            (pairText first between second after) =
          some [(firstName, value), (secondName, rest)] ∧
        value ≠ [] ∧
        rest ≠ [] ∧
        first ++ between ++ second = value ++ between ++ rest ∧
        (SplitsRight first between second → value = first) ∧
        (¬ SplitsRight first between second →
          (∃ tail, tail ≠ [] ∧ first = value ++ tail) ∨
            ∃ more, more ≠ [] ∧ value = first ++ more ∧ more <+: second) := by
  by_cases isBetween : between = []
  · subst isBetween
    obtain ⟨value, rest, matched, restLength, sameText⟩ :=
      @fullMatch_pair_greedy firstName secondName isLazy first second after
        firstNonempty secondNonempty firstInLine secondInLine
    have lengths := congrArg List.length sameText
    simp only [List.length_append, List.length_nil] at lengths
    have firstPositive := List.length_pos_iff.mpr firstNonempty
    have positive := List.length_pos_iff.mpr secondNonempty
    refine
      ⟨value, rest, matched, List.ne_nil_of_length_pos (by omega),
        List.ne_nil_of_length_pos (by omega), sameText, ?_, ?_⟩
    · intro isRight
      unfold SplitsRight at isRight
      rw [if_pos rfl] at isRight
      rw [List.append_nil, List.append_nil] at sameText
      exact (List.append_inj_left sameText (by omega)).symm
    · intro notRight
      unfold SplitsRight at notRight
      rw [if_pos rfl] at notRight
      have secondPositive := List.length_pos_iff.mpr secondNonempty
      rw [List.append_nil, List.append_nil] at sameText
      obtain ⟨more, rfl⟩ : first <+: value := by
        refine
          List.prefix_of_prefix_length_le (List.prefix_append first second)
            (sameText ▸ List.prefix_append value rest) (by omega)
      rw [List.append_assoc, List.append_cancel_left_eq] at sameText
      rw [List.length_append] at lengths
      exact
        .inr
          ⟨more, List.ne_nil_of_length_pos (by omega), rfl,
            ⟨rest, sameText.symm⟩⟩
  · obtain
      ⟨value, rest, matched, nonempty, restNonempty, sameText, isRight,
        notLonger⟩ :=
      @fullMatch_pair_lazy firstName secondName isLazy first between second
        after firstNonempty secondNonempty firstInLine secondInLine
        isBetween
    have notEmpty : (!between.isEmpty) = true := by
      simp [isBetween]
    rw [notEmpty]
    have ofFirst : first <+: first ++ between ++ second := by
      rw [List.append_assoc]
      exact List.prefix_append _ _
    have ofValue : value <+: first ++ between ++ second := by
      rw [sameText, List.append_assoc]
      exact List.prefix_append _ _
    have isPrefix : value <+: first :=
      List.prefix_of_prefix_length_le ofValue ofFirst notLonger
    refine ⟨value, rest, matched, nonempty, restNonempty, sameText, ?_, ?_⟩
    · intro splitsRight
      exact isPrefix.eq_of_length (isRight.mpr splitsRight)
    · intro notRight
      obtain ⟨tail, isTail⟩ := isPrefix
      refine .inl ⟨tail, ?_, isTail.symm⟩
      rintro rfl
      rw [List.append_nil] at isTail
      exact notRight (isRight.mp (congrArg List.length isTail))

end Pair

end RpaPlatform.Captures
