import RpaPlatform.AgentLifecycle

namespace RpaPlatform.Deploy

open Agents (asciiTextLibrary isSpace strip)

/-!
# The checksum of a release

The file of checksums is read line by line.  A line of one word ends the
search, and so does a line whose last word is the name of the asset; the first
word of the line is the checksum.  What a line says is another matter: it names
everything that follows the checksum, up to spaces and an asterisk.
-/

/-! ### Lines and words -/

/-- Where `str.splitlines` ends a line. -/
def isLineBreak (character : Char) : Bool :=
  let code := character.toNat
  (10 ≤ code && code ≤ 13) || (28 ≤ code && code ≤ 30) ||
    code = 0x85 || code = 0x2028 || code = 0x2029

/-- The lines of a text, given what has been read of the first. -/
def linesFrom (current : List Char) : List Char → List (List Char)
  | [] =>
    if current = [] then [] else [current]
  | '\r' :: '\n' :: rest =>
    current :: linesFrom [] rest
  | character :: rest =>
    if isLineBreak character then
      current :: linesFrom [] rest
    else
      linesFrom (current ++ [character]) rest

def splitlines (text : String) : List String :=
  (linesFrom [] text.toList).map String.ofList

/-- The words of a text, given what has been read of the first. -/
def wordsFrom (current : List Char) : List Char → List (List Char)
  | [] =>
    if current = [] then [] else [current]
  | character :: rest =>
    if isSpace character then
      if current = [] then wordsFrom [] rest
      else current :: wordsFrom [] rest
    else
      wordsFrom (current ++ [character]) rest

/-- `str.split()`. -/
def splitWords (text : String) : List String :=
  (wordsFrom [] text.toList).map String.ofList

/-! ### The search -/

variable (lower : String → String)

/-- `parts[-1].strip().lstrip("*")`. -/
def candidateName (parts : List String) : String :=
  String.ofList
    ((strip (parts.getLastD "")).toList.dropWhile fun character =>
      character = '*')

/-- The lines in turn. -/
def extractFrom (expectedName : String) : List String → String
  | [] =>
    ""
  | rawLine :: rest =>
    let line := strip rawLine
    if line = "" then
      extractFrom expectedName rest
    else
      match splitWords line with
      | [] =>
        extractFrom expectedName rest
      | [word] =>
        lower (strip word)
      | first :: second :: more =>
        if candidateName (first :: second :: more) = expectedName then
          lower (strip first)
        else
          extractFrom expectedName rest

def extractChecksum (checksumText expectedName : String) : String :=
  extractFrom lower expectedName (splitlines checksumText)

/-- A line at which the search ends. -/
def decides (expectedName rawLine : String) : Bool :=
  match splitWords (strip rawLine) with
  | [] =>
    false
  | [_] =>
    true
  | parts =>
    candidateName parts = expectedName

/-- The first word of a line, as it is returned. -/
def hashOf (rawLine : String) : String :=
  lower (strip ((splitWords (strip rawLine)).headD ""))

/-! ### What a line says -/

def IsBlank (text : List Char) : Prop :=
  ∀ character ∈ text, isSpace character = true

def IsWord (text : List Char) : Prop :=
  text ≠ [] ∧ ∀ character ∈ text, isSpace character = false

/-- A line of the form `hash name` or `hash *name`, up to spaces around. -/
def Lists (line hash name : String) : Prop :=
  IsWord hash.toList ∧ ¬IsBlank name.toList ∧
    ∃ leading between mark trailing,
      IsBlank leading ∧ IsBlank between ∧ between ≠ [] ∧ IsBlank trailing ∧
        (mark = [] ∨ mark = ['*']) ∧
        line.toList =
          leading ++
            (hash.toList ++ (between ++ (mark ++ name.toList ++ trailing)))

variable (IsHash : String → Prop)

/-- The hash in the first line that lists one for a name. -/
def FirstListed (lines : List String) (name hash : String) : Prop :=
  ∃ earlier line later,
    lines = earlier ++ line :: later ∧
      IsHash hash ∧ Lists line hash name ∧
        ∀ other ∈ earlier, ∀ word, IsHash word → ¬Lists other word name

/-- A line that lists a hash, but none for a name. -/
def NamesOther (name line : String) : Prop :=
  (∃ hash file, IsHash hash ∧ Lists line hash file) ∧
    ∀ hash, IsHash hash → ¬Lists line hash name

/--
The hash that is listed first for a name is returned, in lower case, and what
is returned is the hash of a line that does not name another file.
-/
structure SelectsChecksum (text name : String) : Prop where
  first :
    ∀ hash,
      FirstListed IsHash (splitlines text) name hash →
      extractChecksum lower text name = lower hash
  own :
    extractChecksum lower text name = "" ∨
      ∃ line ∈ splitlines text,
        ¬NamesOther IsHash name line ∧
          extractChecksum lower text name = hashOf lower line

/-- A name that may be the last word of a line, after an asterisk. -/
def IsPlain (name : String) : Prop :=
  IsWord name.toList ∧ name.toList.head? ≠ some '*'

/--
Lines that list a plain name end the search; a line that ends it with another
hash than the one that is listed first stands after one with that hash, and a
line that ends it and names another file after one that ends it, unless its
hash is also that of a line that does not.
-/
structure Undisturbed (text name : String) : Prop where
  recognised :
    ∀ hash,
      FirstListed IsHash (splitlines text) name hash →
      IsPlain name ∨
        ∃ line ∈ splitlines text,
          decides name line = true ∧ hashOf lower line = lower hash
  first :
    ∀ hash,
      FirstListed IsHash (splitlines text) name hash →
      ∀ before line after,
        splitlines text = before ++ line :: after →
        decides name line = true →
        hashOf lower line = lower hash ∨
          ∃ other ∈ before,
            decides name other = true ∧ hashOf lower other = lower hash
  own :
    ∀ before line after,
      splitlines text = before ++ line :: after →
      decides name line = true →
      NamesOther IsHash name line →
      (∃ other ∈ before, decides name other = true) ∨
        ∃ other ∈ splitlines text,
          ¬NamesOther IsHash name other ∧ hashOf lower other = hashOf lower line

/-! ### Words -/

section Words

variable {word current rest : List Char}

theorem isWord_wordsFrom
    (noSpace : ∀ character ∈ current, isSpace character = false) :
    ∀ word ∈ wordsFrom current rest, IsWord word := by
  have ended : current ≠ [] → IsWord current := fun filled => ⟨filled, noSpace⟩
  induction rest generalizing current with
  | nil =>
    intro word member
    unfold wordsFrom at member
    split at member
    · cases member
    · rename_i filled
      rw [List.mem_singleton.mp member]
      exact ended filled
  | cons character rest inductionHypothesis =>
    intro word member
    have fresh := @inductionHypothesis [] (by simp) (by simp)
    unfold wordsFrom at member
    split at member
    · split at member
      · exact fresh word member
      · rename_i filled
        rcases List.mem_cons.mp member with rfl | later
        · exact ended filled
        · exact fresh word later
    · rename_i notSpace
      have longer :
          ∀ other ∈ current ++ [character], isSpace other = false := by
        intro other isIn
        rcases List.mem_append.mp isIn with earlier | last
        · exact noSpace other earlier
        · rw [List.mem_singleton.mp last]
          simpa using notSpace
      exact inductionHypothesis longer (fun filled => ⟨filled, longer⟩) word member

theorem wordsFrom_word
    (noSpace : ∀ character ∈ word, isSpace character = false) :
    wordsFrom current (word ++ rest) = wordsFrom (current ++ word) rest := by
  induction word generalizing current with
  | nil =>
    simp
  | cons character later inductionHypothesis =>
    obtain ⟨notSpace, noLater⟩ := List.forall_mem_cons.mp noSpace
    simp [wordsFrom, notSpace, inductionHypothesis noLater]

theorem wordsFrom_blank (blank : IsBlank current) :
    wordsFrom [] (current ++ rest) = wordsFrom [] rest := by
  induction current with
  | nil =>
    rfl
  | cons character later inductionHypothesis =>
    obtain ⟨isBlank, laterBlank⟩ := List.forall_mem_cons.mp blank
    simp [wordsFrom, isBlank, inductionHypothesis laterBlank]

theorem strip_word (isWord : IsWord word) :
    strip (String.ofList word) = String.ofList word :=
  Agents.strip_eq_self (by simpa using isWord.2)

theorem wordsFrom_gap
    (filled : current ≠ [])
    (blank : IsBlank word)
    (isGap : word ≠ []) :
    wordsFrom current (word ++ rest) = current :: wordsFrom [] rest := by
  cases word with
  | nil =>
    exact absurd rfl isGap
  | cons character later =>
    obtain ⟨isBlank, laterBlank⟩ := List.forall_mem_cons.mp blank
    simp [wordsFrom, isBlank, filled, wordsFrom_blank laterBlank]

theorem wordsFrom_single (isWord : IsWord word) : wordsFrom [] word = [word] := by
  have read := @wordsFrom_word word [] [] isWord.2
  rw [List.append_nil, List.nil_append] at read
  rw [read]
  exact if_neg isWord.1

theorem wordsFrom_trailing (blank : IsBlank rest) :
    wordsFrom current (word ++ rest) = wordsFrom current word := by
  induction word generalizing current with
  | nil =>
    cases rest with
    | nil =>
      rfl
    | cons character later =>
      obtain ⟨isBlank, laterBlank⟩ := List.forall_mem_cons.mp blank
      have noWords := @wordsFrom_blank later [] laterBlank
      rw [List.append_nil] at noWords
      simp [wordsFrom, isBlank, noWords]
  | cons character later inductionHypothesis =>
    simp only [List.cons_append, wordsFrom, inductionHypothesis]

theorem splitWords_strip (text : String) :
    splitWords (strip text) = splitWords text := by
  have trailing : IsBlank ((text.toList.dropWhile isSpace).rtakeWhile isSpace) :=
    fun _ => List.mem_rtakeWhile_imp
  have leading : IsBlank (text.toList.takeWhile isSpace) :=
    fun _ => List.mem_takeWhile_imp
  unfold splitWords strip
  rw [String.toList_ofList, ← wordsFrom_trailing trailing,
    List.rdropWhile_append_rtakeWhile, ← wordsFrom_blank leading,
    List.takeWhile_append_dropWhile]

end Words

/-! ### Where the search ends -/

variable
    {lower}
    {IsHash}
    {name line : String}

theorem extractFrom_eq (lines : List String) :
    extractFrom lower name lines =
      ((lines.find? (decides name)).map (hashOf lower)).getD "" := by
  induction lines with
  | nil =>
    rfl
  | cons rawLine rest inductionHypothesis =>
    rw [List.find?_cons]
    unfold extractFrom
    by_cases isEmpty : strip rawLine = ""
    · have silent : decides name rawLine = false := by
        rw [decides, isEmpty]
        rfl
      simp [isEmpty, silent, inductionHypothesis]
    · dsimp only
      rw [if_neg isEmpty]
      rcases words : splitWords (strip rawLine) with _ | ⟨first, _ | ⟨second, more⟩⟩
      · simp [decides, words, inductionHypothesis]
      · simp [decides, hashOf, words]
      · by_cases isNamed : candidateName (first :: second :: more) = name
        · simp [decides, hashOf, words, isNamed]
        · simp [decides, words, isNamed, inductionHypothesis]

theorem hashOf_ne_empty
    (nonempty : ∀ word, lower word = "" → word = "")
    (isDecisive : decides name line = true) :
    hashOf lower line ≠ "" := by
  unfold decides at isDecisive
  unfold hashOf
  cases words : splitWords (strip line) with
  | nil =>
    simp [words] at isDecisive
  | cons first later =>
    have member : first ∈ splitWords (strip line) := by simp [words]
    obtain ⟨word, isIn, rfl⟩ := List.mem_map.mp member
    have isWord := isWord_wordsFrom (by simp) word isIn
    rw [List.headD_cons, strip_word isWord]
    intro isEmpty
    exact isWord.1 (by simpa using congrArg String.toList (nonempty _ isEmpty))

/-- A line that lists a hash for a plain name ends the search with it. -/
theorem decides_of_lists
    {hash : String}
    (isPlain : IsPlain name)
    (lists : Lists line hash name) :
    decides name line = true ∧ hashOf lower line = lower hash := by
  obtain ⟨isHash, _, leading, between, mark, trailing, leadingBlank,
    betweenBlank, isBetween, trailingBlank, isMark, shape⟩ := lists
  have isLast : IsWord (mark ++ name.toList) := by
    refine ⟨fun isEmpty => isPlain.1.1 (List.append_eq_nil_iff.mp isEmpty).2, ?_⟩
    intro character member
    rcases List.mem_append.mp member with inMark | inName
    · rcases isMark with rfl | rfl
      · cases inMark
      · rw [List.mem_singleton.mp inMark]
        rfl
    · exact isPlain.1.2 character inName
  have words :
      splitWords (strip line) = [hash, String.ofList (mark ++ name.toList)] := by
    rw [splitWords_strip, splitWords, shape, wordsFrom_blank leadingBlank,
      wordsFrom_word isHash.2, List.nil_append,
      wordsFrom_gap isHash.1 betweenBlank isBetween,
      wordsFrom_trailing trailingBlank, wordsFrom_single isLast]
    simp
  have notMarked :
      name.toList.dropWhile (fun character => character = '*') =
        name.toList := by
    cases letters : name.toList with
    | nil =>
      rfl
    | cons first rest =>
      have isOther : first ≠ '*' := by
        rintro rfl
        exact isPlain.2 (by simp [letters])
      simp [isOther]
  have isNamed :
      candidateName [hash, String.ofList (mark ++ name.toList)] = name := by
    change String.ofList ((strip (String.ofList _)).toList.dropWhile _) = name
    rw [strip_word isLast, String.toList_ofList]
    rcases isMark with rfl | rfl <;> simp [notMarked]
  constructor
  · simp only [decides, words, isNamed, decide_true]
  · simp [hashOf, words, Agents.strip_eq_self isHash.2]

theorem find?_of_split
    {lines before after : List String}
    (shape : lines = before ++ line :: after)
    (isDecisive : decides name line = true) :
    lines.find? (decides name) = some line ∨
      ∃ other ∈ before,
        decides name other = true ∧
          lines.find? (decides name) = some other := by
  subst shape
  rw [List.find?_append]
  cases found : before.find? (decides name) with
  | none =>
    simp [isDecisive]
  | some other =>
    exact .inr ⟨other, List.mem_of_find?_eq_some found,
      List.find?_some found, rfl⟩

theorem extractChecksum_eq (text : String) :
    extractChecksum lower text name =
      (((splitlines text).find? (decides name)).map (hashOf lower)).getD "" :=
  extractFrom_eq _

/-- The line that is returned of, where there is one. -/
theorem extractChecksum_of_find?
    {text : String}
    (found : (splitlines text).find? (decides name) = some line) :
    extractChecksum lower text name = hashOf lower line := by
  rw [extractChecksum_eq, found]
  rfl

theorem Undisturbed.selectsChecksum
    {text : String}
    (undisturbed : Undisturbed lower IsHash text name) :
    SelectsChecksum lower IsHash text name := by
  cases found : (splitlines text).find? (decides name) with
  | none =>
    have silent := List.find?_eq_none.mp found
    refine ⟨fun hash listed => ?_, .inl (by simp [extractChecksum_eq, found])⟩
    rcases undisturbed.recognised hash listed with
      isPlain | ⟨line, member, decisive, _⟩
    · obtain ⟨earlier, line, later, shape, _, lists, _⟩ := listed
      have member : line ∈ splitlines text := by
        rw [shape]
        simp
      exact absurd (@decides_of_lists lower name line _ isPlain lists).1
        (silent line member)
    · exact absurd decisive (silent line member)
  | some line =>
    have returned := @extractChecksum_of_find? lower name line text found
    obtain ⟨isDecisive, before, after, shape, silent⟩ :=
      List.find?_eq_some_iff_append.mp found
    have isFirst : ¬∃ other ∈ before, decides name other = true := by
      rintro ⟨other, member, decisive⟩
      simpa [decisive] using silent other member
    constructor
    · intro hash listed
      rw [returned]
      refine (undisturbed.first hash listed before line after shape
        isDecisive).resolve_right ?_
      rintro ⟨other, member, decisive, _⟩
      exact isFirst ⟨other, member, decisive⟩
    · by_cases namesOther : NamesOther IsHash name line
      · obtain ⟨other, member, isOwn, sameHash⟩ :=
          (undisturbed.own before line after shape isDecisive
            namesOther).resolve_left isFirst
        exact .inr ⟨other, member, isOwn, returned.trans sameHash.symm⟩
      · exact .inr ⟨line, List.mem_of_find?_eq_some found, namesOther, returned⟩

/--
The right checksum is selected exactly where no other line that ends the
search comes first.
-/
theorem selectsChecksum_iff
    (nonempty : ∀ word, lower word = "" → word = "")
    (text name : String) :
    SelectsChecksum lower IsHash text name ↔
      Undisturbed lower IsHash text name := by
  refine ⟨fun selects => ?_, Undisturbed.selectsChecksum⟩
  refine ⟨?_, ?_, ?_⟩
  · intro hash listed
    have returned := selects.first hash listed
    cases found : (splitlines text).find? (decides name) with
    | none =>
      have isEmpty : lower hash = "" := by
        rw [← returned, extractChecksum_eq, found]
        rfl
      obtain ⟨_, _, _, _, _, lists, _⟩ := listed
      exact absurd (by simp [nonempty hash isEmpty]) lists.1.1
    | some line =>
      exact .inr ⟨line, List.mem_of_find?_eq_some found,
        List.find?_some found,
        (extractChecksum_of_find? found).symm.trans returned⟩
  · intro hash listed before line after shape isDecisive
    have returned := selects.first hash listed
    rcases find?_of_split shape isDecisive with
      found | ⟨other, member, decisive, found⟩
    · exact .inl ((extractChecksum_of_find? found).symm.trans returned)
    · exact .inr ⟨other, member, decisive,
        (extractChecksum_of_find? found).symm.trans returned⟩
  · intro before line after shape isDecisive _
    rcases find?_of_split shape isDecisive with
      found | ⟨other, member, decisive, _⟩
    · have returned := @extractChecksum_of_find? lower name line text found
      rcases selects.own with isEmpty | ⟨other, member, isOwn, sameHash⟩
      · exact absurd (returned.symm.trans isEmpty)
          (hashOf_ne_empty nonempty isDecisive)
      · exact .inr ⟨other, member, isOwn, sameHash.symm.trans returned⟩
    · exact .inl ⟨other, member, decisive⟩

/-! ### A file of checksums, and one with a heading -/

theorem eq_empty_of_lower
    (word : String)
    (isEmpty : asciiTextLibrary.lower word = "") :
    word = "" := by
  simpa [asciiTextLibrary] using congrArg String.toList isEmpty

def isSha256 (word : String) : Bool :=
  word.toList.length = 64 &&
    word.toList.all fun character =>
      character.isDigit || 'a' ≤ character.toLower && character.toLower ≤ 'f'

def otherChecksum : String :=
  "00000000000000000000000000000000000000000000000000000000deadbeef"

def agentChecksum : String :=
  "7596D7BC3AFDE5A1A0DDF7406AF03BD0E60344F9728F8F3924D5785CC7E949A9"

def agentLine : String :=
  agentChecksum ++ " *agent_service.exe"

theorem isWord_of_all
    {text : List Char}
    (isWord : (text ≠ [] && text.all fun letter => !isSpace letter) = true) :
    IsWord text := by
  obtain ⟨filled, noSpaces⟩ := (Bool.and_eq_true _ _).mp isWord
  refine ⟨of_decide_eq_true filled, fun letter member => ?_⟩
  simpa using List.all_eq_true.mp noSpaces letter member

theorem lists_agentLine : Lists agentLine agentChecksum "agent_service.exe" := by
  refine ⟨isWord_of_all (by decide), fun blank => ?_, ?_⟩
  · exact absurd (blank 'a' (by simp)) (by decide)
  · exact ⟨[], [' '], ['*'], [], by simp [IsBlank], by simp [IsBlank]; decide,
      by simp, by simp [IsBlank], .inr rfl, by decide⟩

/-- A file that lists another file first. -/
def twoFiles : String :=
  otherChecksum ++ "  other.exe\n" ++ agentLine

theorem eq_agentLine
    {line : String}
    (member : line ∈ splitlines twoFiles)
    (isDecisive : decides "agent_service.exe" line = true) :
    line = agentLine := by
  have shape : splitlines twoFiles = [otherChecksum ++ "  other.exe", agentLine] := by
    decide +kernel
  rw [shape] at member
  rcases List.mem_pair.mp member with rfl | rfl
  · exact absurd isDecisive (by decide +kernel)
  · rfl

theorem selectsChecksum_iff_twoFiles :
    SelectsChecksum asciiTextLibrary.lower (fun word => isSha256 word = true)
      twoFiles "agent_service.exe" := by
  have isPlain : IsPlain "agent_service.exe" :=
    ⟨isWord_of_all (by decide), by decide⟩
  refine (selectsChecksum_iff eq_empty_of_lower _ _).mpr
    ⟨fun _ _ => .inl isPlain, ?_, ?_⟩
  · rintro hash ⟨_, listing, _, listed, _, lists, _⟩ before line after shape
      isDecisive
    obtain ⟨listingDecides, sameHash⟩ :=
      @decides_of_lists asciiTextLibrary.lower _ _ _ isPlain lists
    have first := eq_agentLine (by rw [listed]; simp) listingDecides
    have other := eq_agentLine (by rw [shape]; simp) isDecisive
    rw [other, ← first]
    exact .inl sameHash
  · intro before line after shape isDecisive namesOther
    obtain rfl := eq_agentLine (by rw [shape]; simp) isDecisive
    exact absurd lists_agentLine (namesOther.2 _ (by decide +kernel))

/-- A heading of one word before the line is returned. -/
theorem not_selectsChecksum :
    ¬∀ (IsHash : String → Prop) (lower : String → String),
      (∀ word, lower word = "" → word = "") →
      ∀ text name, SelectsChecksum lower IsHash text name := by
  intro always
  have selects :=
    always (fun word => isSha256 word = true) asciiTextLibrary.lower eq_empty_of_lower
      ("SHA256\n" ++ agentLine) "agent_service.exe"
  have listed :
      FirstListed (fun word => isSha256 word = true)
        (splitlines ("SHA256\n" ++ agentLine)) "agent_service.exe"
        agentChecksum := by
    refine ⟨["SHA256"], agentLine, [], by decide +kernel, by decide +kernel,
      lists_agentLine, ?_⟩
    intro other member word isHash lists
    obtain rfl := List.mem_singleton.mp member
    obtain ⟨_, _, _, _, _, _, _, _, _, _, _, shape⟩ := lists
    have isLong := of_decide_eq_true ((Bool.and_eq_true _ _).mp isHash).1
    have lengths := congrArg List.length shape
    simp only [List.length_append, isLong] at lengths
    exact absurd lengths (by simp; omega)
  exact absurd (selects.first _ listed) (by decide +kernel)

end RpaPlatform.Deploy
