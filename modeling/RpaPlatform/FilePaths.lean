import RpaPlatform.TextSegments

namespace RpaPlatform.Paths

/-!
# File paths

A path is parsed to a drive, a root and parts, by the conventions of POSIX or
of Windows.  A path is joined to another one and resolved to a location: a
folder is entered by its name and left by `..`.
-/

/-- The conventions that paths follow. -/
inductive Flavour where
  | posix
  | windows
  deriving DecidableEq, Repr

/-- A parsed path; one without a root is relative. -/
structure PurePath where
  drive : String
  rooted : Bool
  parts : List String
  deriving DecidableEq, Repr

/-! ### Parsing -/

/-- A text, split into drive, root and the rest. -/
structure SplitRoot where
  drive : List Char
  rooted : Bool
  rest : List Char

/-- The part before a backslash, and what follows the backslash. -/
def cutBackslash (text : List Char) : List Char × Option (List Char) :=
  match text.dropWhile (· ≠ '\\') with
  | [] => (text, none)
  | _ :: rest => (text.takeWhile (· ≠ '\\'), some rest)

/-- The drive of a share: all up to the second backslash after the start. -/
def splitShare (text : List Char) : SplitRoot :=
  let start :=
    if (text.take 8).map Char.toUpper = "\\\\?\\UNC\\".toList then 8 else 2
  let (server, afterServer) := cutBackslash (text.drop start)
  match afterServer.map cutBackslash with
  | some (share, some rest) =>
    { drive := text.take start ++ server ++ '\\' :: share
      rooted := true
      rest }
  | _ =>
    { drive := text, rooted := true, rest := [] }

/-- `ntpath.splitroot`, of a text without slashes. -/
def splitWindowsRoot (text : List Char) : SplitRoot :=
  match text with
  | '\\' :: '\\' :: _ =>
    splitShare text
  | '\\' :: rest =>
    { drive := [], rooted := true, rest }
  | letter :: ':' :: '\\' :: rest =>
    { drive := [letter, ':'], rooted := true, rest }
  | letter :: ':' :: rest =>
    { drive := [letter, ':'], rooted := false, rest }
  | _ =>
    { drive := [], rooted := false, rest := text }

namespace Flavour

/-- `sep`. -/
def separator : Flavour → Char
  | .posix => '/'
  | .windows => '\\'

/-- A text with every separator written as `sep`. -/
def normal : Flavour → List Char → List Char
  | .posix, text => text
  | .windows, text => text.map fun c => if c = '/' then '\\' else c

def splitRoot : Flavour → List Char → SplitRoot
  | .posix, text =>
    { drive := [], rooted := text.head? = some '/', rest := text }
  | .windows, text =>
    splitWindowsRoot text

def keepsPart (part : String) : Bool :=
  part ≠ "" && part ≠ "."

/-- The path that a text stands for. -/
def parse (flavour : Flavour) (text : String) : PurePath :=
  let split := flavour.splitRoot (flavour.normal text.toList)
  { drive := String.ofList split.drive
    rooted := split.rooted
    parts :=
      (Segments.split flavour.separator (String.ofList split.rest)).filter
        keepsPart }

/-- `str(path)`. -/
def text (flavour : Flavour) (path : PurePath) : String :=
  let root := if path.rooted then [flavour.separator] else []
  path.drive ++ String.ofList root ++ Segments.join flavour.separator path.parts

end Flavour

example :
    Flavour.windows.parse "c:logs/./a\\..\\b" =
      { drive := "c:", rooted := false, parts := ["logs", "a", "..", "b"] } := by
  decide +kernel

example :
    Flavour.windows.parse "//host/share/a" =
      { drive := "\\\\host\\share", rooted := true, parts := ["a"] } := by
  decide +kernel

theorem cutBackslash_suffix
    {text rest : List Char}
    (cut : (cutBackslash text).2 = some rest) :
    rest <:+ text := by
  unfold cutBackslash at cut
  cases dropped : text.dropWhile (· ≠ '\\') with
  | nil =>
    rw [dropped] at cut
    cases cut
  | cons separator later =>
    rw [dropped] at cut
    cases cut
    have whole := List.dropWhile_suffix (l := text) (· ≠ '\\')
    rw [dropped] at whole
    exact (List.suffix_cons separator rest).trans whole

theorem splitShare_suffix (text : List Char) :
    (splitShare text).rest <:+ text := by
  unfold splitShare
  dsimp only
  split
  · rename_i share rest cuts
    obtain ⟨afterServer, first, second⟩ := Option.map_eq_some_iff.mp cuts
    have inServer :=
      cutBackslash_suffix (congrArg Prod.snd second)
    exact
      (inServer.trans (cutBackslash_suffix first)).trans (List.drop_suffix _ _)
  · exact List.nil_suffix

theorem Flavour.splitRoot_suffix (flavour : Flavour) (text : List Char) :
    (flavour.splitRoot text).rest <:+ text := by
  cases flavour with
  | posix =>
    exact List.suffix_refl text
  | windows =>
    unfold splitRoot splitWindowsRoot
    dsimp only
    split
    · exact splitShare_suffix _
    · exact List.suffix_cons _ _
    · exact (List.suffix_cons _ _).trans
        ((List.suffix_cons _ _).trans (List.suffix_cons _ _))
    · exact (List.suffix_cons _ _).trans (List.suffix_cons _ _)
    · exact List.suffix_refl _

theorem Flavour.rooted_of_rest
    (flavour : Flavour)
    {text : List Char}
    {last : Char}
    (isLast : text.getLast? = some last)
    (noColon : last ≠ ':')
    (isEmpty : (flavour.splitRoot text).rest = []) :
    (flavour.splitRoot text).rooted = true := by
  cases flavour with
  | posix =>
    have noText : text = [] := isEmpty
    rw [noText] at isLast
    cases isLast
  | windows =>
    unfold splitRoot splitWindowsRoot at isEmpty ⊢
    dsimp only at isEmpty ⊢
    split
    · unfold splitShare
      dsimp only
      split <;> rfl
    · rfl
    · rfl
    · rename_i rest _ _
      have noRest : rest = [] := by simpa using isEmpty
      rw [noRest] at isLast
      exact absurd (Option.some.inj isLast).symm noColon
    · have noText : text = [] := by simpa using isEmpty
      rw [noText] at isLast
      cases isLast

theorem Flavour.getLast?_parse
    (flavour : Flavour)
    {text : String}
    {last : Char}
    (isLast : (flavour.normal text.toList).getLast? = some last)
    (isName : last ∉ [flavour.separator, '.', ':']) :
    ((flavour.parse text).parts = [] ∧
        (flavour.parse text).rooted = true) ∨
      ∃ name,
        (flavour.parse text).parts.getLast? = some name ∧
          name.toList.getLast? = some last := by
  have ⟨noSeparator, noDot, noColon⟩ :
      last ≠ flavour.separator ∧ last ≠ '.' ∧ last ≠ ':' := by
    simpa using isName
  unfold parse
  dsimp only
  have suffix := flavour.splitRoot_suffix (flavour.normal text.toList)
  have root := flavour.rooted_of_rest isLast noColon
  generalize (flavour.splitRoot (flavour.normal text.toList)).rest = rest
    at suffix root ⊢
  obtain ⟨start, whole⟩ := suffix
  cases isEmpty : rest with
  | nil =>
    exact .inl ⟨by cases flavour <;> decide, root isEmpty⟩
  | cons head tail =>
    have restLast : (String.ofList rest).toList.getLast? = some last := by
      rw [String.toList_ofList, ← isLast, ← whole, isEmpty]
      exact (List.getLast?_append_of_ne_nil _ (List.cons_ne_nil _ _)).symm
    obtain ⟨name, found, same⟩ :=
      Segments.getLast?_split restLast noSeparator
    have kept : keepsPart name = true := by
      unfold keepsPart
      rw [Bool.and_eq_true, decide_eq_true_iff, decide_eq_true_iff]
      constructor
      · rintro rfl
        cases same
      · rintro rfl
        exact noDot (Option.some.inj same).symm
    obtain ⟨others, split⟩ := List.getLast?_eq_some_iff.mp found
    refine .inr ⟨name, ?_, same⟩
    rw [← isEmpty, split, List.filter_append, List.filter_cons,
      if_pos kept, List.filter_nil, List.getLast?_concat]

theorem Flavour.mem_parts
    {flavour : Flavour}
    {text part : String}
    (isPart : part ∈ (flavour.parse text).parts) :
    keepsPart part = true ∧ flavour.separator ∉ part.toList := by
  obtain ⟨isSegment, kept⟩ := List.mem_filter.mp isPart
  exact ⟨kept, Segments.notMem_split isSegment⟩

def Flavour.isPlain (flavour : Flavour) (text : String) : Bool :=
  '/' ∉ text.toList &&
    (flavour = .posix || ('\\' ∉ text.toList && text.toList[1]? ≠ some ':'))

theorem splitWindowsRoot_plain
    {text : List Char}
    (noSeparator : '\\' ∉ text)
    (noDrive : text[1]? ≠ some ':') :
    splitWindowsRoot text = { drive := [], rooted := false, rest := text } := by
  unfold splitWindowsRoot
  split
  · exact absurd List.mem_cons_self noSeparator
  · exact absurd List.mem_cons_self noSeparator
  · exact absurd rfl noDrive
  · exact absurd rfl noDrive
  · rfl

theorem Flavour.parse_plain
    {flavour : Flavour}
    {text : String}
    (isPlain : flavour.isPlain text = true)
    (kept : keepsPart text = true) :
    flavour.parse text = { drive := "", rooted := false, parts := [text] } := by
  obtain ⟨noSlash, others⟩ := Bool.and_eq_true_iff.mp isPlain
  have noSlash : '/' ∉ text.toList := of_decide_eq_true noSlash
  have whole :
      ∀ separator ∉ text.toList, Segments.split separator text = [text] := by
    intro separator absent
    have same :=
      @Segments.split_join separator _ (List.cons_ne_nil text [])
    rw [Segments.join_singleton] at same
    exact same (by simpa using absent)
  cases flavour with
  | posix =>
    have noRoot : text.toList.head? ≠ some '/' :=
      fun isFirst => noSlash (List.mem_of_head? isFirst)
    unfold parse normal splitRoot separator
    dsimp only
    rw [String.ofList_toList, whole _ noSlash]
    simp [noRoot, kept]
  | windows =>
    have ⟨noSeparator, noDrive⟩ :
        '\\' ∉ text.toList ∧ text.toList[1]? ≠ some ':' := by
      simpa using others
    have same :
        (text.toList.map fun c => if c = '/' then '\\' else c) =
          text.toList := by
      refine (List.map_congr_left ?_).trans (List.map_id _)
      intro character member
      refine if_neg ?_
      rintro rfl
      exact noSlash member
    unfold parse normal splitRoot separator
    dsimp only
    rw [same, splitWindowsRoot_plain noSeparator noDrive]
    dsimp only
    rw [String.ofList_toList, whole _ noSeparator]
    simp [kept]

/-! ### Joining -/

namespace PurePath

/--
`path / name`.  A name with a root replaces the path, and so does one with
another drive.
-/
def join (lower : String → String) (path name : PurePath) : PurePath :=
  if name.rooted then
    { name with drive := if name.drive = "" then path.drive else name.drive }
  else if name.drive = "" || lower name.drive = lower path.drive then
    { path with parts := path.parts ++ name.parts }
  else
    name

end PurePath

/-! ### Resolving -/

/-- A folder or a file: the folders that lead to it from the root of a drive. -/
structure Location where
  drive : String
  folders : List String
  deriving DecidableEq, Repr

namespace Location

def child (folder : Location) (name : String) : Location :=
  { folder with folders := folder.folders ++ [name] }

/-- Follow one part of a path. -/
def enter (location : Location) (part : String) : Location :=
  if part = ".." then
    { location with folders := location.folders.dropLast }
  else
    location.child part

def walk (location : Location) (parts : List String) : Location :=
  parts.foldl enter location

theorem walk_concat
    (location : Location)
    (parts : List String)
    {name : String}
    (named : name ≠ "..") :
    location.walk (parts ++ [name]) = (location.walk parts).child name := by
  rw [walk, List.foldl_append]
  exact if_neg named

end Location

@[simp]
theorem Location.walk_drive (location : Location) (parts : List String) :
    (location.walk parts).drive = location.drive := by
  induction parts generalizing location with
  | nil =>
    rfl
  | cons part rest inductionHypothesis =>
    have entered : (location.enter part).drive = location.drive := by
      unfold enter
      split <;> rfl
    exact (inductionHypothesis (location.enter part)).trans entered

theorem Location.mem_walk
    {location : Location}
    {parts : List String}
    {folder : String}
    (member : folder ∈ (location.walk parts).folders) :
    folder ∈ location.folders ∨ folder ∈ parts := by
  induction parts generalizing location with
  | nil =>
    exact .inl member
  | cons part rest inductionHypothesis =>
    rcases inductionHypothesis member with entered | inRest
    · unfold enter at entered
      split at entered
      · exact .inl ((List.dropLast_sublist _).subset entered)
      · rcases List.mem_append.mp entered with before | isPart
        · exact .inl before
        · exact .inr (List.mem_cons.mpr (.inl (by simpa using isPart)))
    · exact .inr (List.mem_cons_of_mem _ inRest)

/-- Where relative paths start: the current folder of a drive. -/
abbrev CurrentFolders :=
  String → Location

/-- Where a path starts. -/
def PurePath.start (current : CurrentFolders) (path : PurePath) : Location :=
  if path.rooted then
    { drive := if path.drive = "" then (current "").drive else path.drive
      folders := [] }
  else
    current path.drive

/-- The location of a path, where no folder is a link. -/
def PurePath.resolve
    (current : CurrentFolders)
    (path : PurePath) : Location :=
  (path.start current).walk path.parts

end RpaPlatform.Paths
