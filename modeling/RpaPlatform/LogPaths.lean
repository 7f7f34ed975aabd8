import RpaPlatform.TaskReads

namespace RpaPlatform.Tasks

open Paths (CurrentFolders Flavour Location PurePath)

/-!
# The paths of task logs

The id of a task is a text from the network, and the name of its log is the id
with a suffix.  A file system tells files by their locations, up to names that
differ in case only.  The log is a direct child of the log directory where the
folders that the id begins with lead back to it.
-/

/-- No part of a location has a NUL, as the operating system demands. -/
def NoNul (location : Location) : Prop :=
  ∀ part ∈ location.drive :: location.folders, '\x00' ∉ part.toList

def admits (path : PurePath) : Bool :=
  (path.drive :: path.parts).all fun part => '\x00' ∉ part.toList

/-- A file system without links. -/
structure LogDisk where
  flavour : Flavour
  logsDir : String
  /-- Names with the same value are one name: `str.lower` on Windows. -/
  fold : String → String
  current : CurrentFolders
  /-- Whether a path can be opened: its folders exist, and it is a file. -/
  opens : PurePath → Bool
  foldNul : ∀ name, '\x00' ∉ name.toList → '\x00' ∉ (fold name).toList
  logsNoNul : NoNul ((flavour.parse logsDir).resolve current)
  currentNoNul : ∀ drive, NoNul (current drive)

namespace LogDisk

variable (disk : LogDisk)

def logsFolder : Location :=
  (disk.flavour.parse disk.logsDir).resolve disk.current

def fileKey (location : Location) : String :=
  Segments.join '\x00' ((location.drive :: location.folders).map disk.fold)

/-- The disk, as task logs are kept on it. -/
def host : LogHost where
  flavour := disk.flavour
  lower := disk.fold
  logsDir := disk.logsDir
  locate path :=
    if admits path && disk.opens path then
      some (disk.fileKey (path.resolve disk.current))
    else
      none

/-- The name of a file in a folder. -/
structure IsFileName (name : String) : Prop where
  kept : Flavour.keepsPart name = true
  noParent : name ≠ ".."
  noSeparator : disk.flavour.separator ∉ name.toList
  noNul : '\x00' ∉ name.toList

def DirectChild (file : String) : Prop :=
  ∃ name,
    disk.IsFileName name ∧ file = disk.fileKey (disk.logsFolder.child name)

def Opens (taskId : String) : Prop :=
  admits (disk.host.getLogPath taskId) = true ∧
    disk.opens (disk.host.getLogPath taskId) = true

def SameFolder (first second : Location) : Prop :=
  disk.fold first.drive = disk.fold second.drive ∧
    first.folders.map disk.fold = second.folders.map disk.fold

/-- Where a name starts: in the log directory, unless it says otherwise. -/
def startOf (name : PurePath) : Location :=
  let logs := disk.flavour.parse disk.logsDir
  if name.rooted then
    { drive :=
        if name.drive ≠ "" then name.drive
        else if logs.drive ≠ "" then logs.drive
        else (disk.current "").drive
      folders := [] }
  else if name.drive = "" || disk.fold name.drive = disk.fold logs.drive then
    disk.logsFolder
  else
    disk.current name.drive

/-- The folders that a log's name begins with lead to the log directory. -/
def LeadsBack (taskId : String) : Prop :=
  let name := disk.flavour.parse (taskId ++ ".log")
  name.parts ≠ [] ∧
    disk.SameFolder
      ((disk.startOf name).walk name.parts.dropLast) disk.logsFolder

end LogDisk

def Writes (host : LogHost) (taskId file : String) : Prop :=
  ∃ files data, host.appendLog files taskId data file ≠ files file

/-- The files that the log of a task is read from. -/
def Reads (reader : LogReader) (taskId file : String) : Prop :=
  ∃ files content offset limit,
    readLog reader (Function.update files file content) taskId offset
        limit ≠
      readLog reader files taskId offset limit

theorem writes_iff {host : LogHost} {taskId file : String} :
    Writes host taskId file ↔ host.logFile taskId = some file := by
  constructor
  · rintro ⟨files, data, changed⟩
    by_contra other
    exact changed (host.appendLog_other files taskId data other)
  · intro located
    refine ⟨fun _ => none, "", ?_⟩
    rw [host.appendLog_self _ located]
    nofun

theorem reads_iff {reader : LogReader} {taskId file : String} :
    Reads reader taskId file ↔ reader.host.logFile taskId = some file := by
  constructor
  · rintro ⟨files, content, offset, limit, changed⟩
    by_contra other
    refine changed ?_
    have same :
        (reader.host.logFile taskId).bind
            (Function.update files file content) =
          (reader.host.logFile taskId).bind files := by
      cases located : reader.host.logFile taskId with
      | none =>
        rfl
      | some read =>
        rw [located] at other
        have different : read ≠ file :=
          fun isFile => other (congrArg some isFile)
        simp [different]
    unfold readLog
    rw [same]
  · intro located
    refine ⟨fun _ => none, some "a", 0, 0, fun same => ?_⟩
    unfold readLog at same
    rw [located, Option.bind_some, Option.bind_some,
      Function.update_self] at same
    have sizes : "a".toUTF8.size = 0 := congrArg TaskLogResponse.size same
    exact absurd sizes (by decide)

namespace LogDisk

variable {disk : LogDisk}

/-! ### Locations -/

theorem resolve_getLogPath (taskId : String) :
    (disk.host.getLogPath taskId).resolve disk.current =
      (disk.startOf (disk.flavour.parse (taskId ++ ".log"))).walk
        (disk.flavour.parse (taskId ++ ".log")).parts := by
  have path :
      disk.host.getLogPath taskId =
        (disk.flavour.parse disk.logsDir).join disk.fold
          (disk.flavour.parse (taskId ++ ".log")) :=
    rfl
  rw [path]
  generalize disk.flavour.parse (taskId ++ ".log") = name
  unfold startOf PurePath.join
  dsimp only
  by_cases rooted : name.rooted = true
  · rw [if_pos rooted, if_pos rooted, PurePath.resolve, PurePath.start,
      if_pos rooted]
    by_cases noDrive : name.drive = "" <;> simp [noDrive]
  · rw [if_neg rooted, if_neg rooted]
    by_cases sameDrive :
        (name.drive = "" ||
          disk.fold name.drive =
            disk.fold (disk.flavour.parse disk.logsDir).drive) = true
    · rw [if_pos sameDrive, if_pos sameDrive, PurePath.resolve,
        Location.walk, List.foldl_append]
      rfl
    · rw [if_neg sameDrive, if_neg sameDrive, PurePath.resolve,
        PurePath.start, if_neg rooted]

theorem noNul_resolve
    {path : PurePath}
    (admitted : admits path = true) :
    NoNul (path.resolve disk.current) := by
  have clean : ∀ part ∈ path.drive :: path.parts, '\x00' ∉ part.toList := by
    intro part isPart
    exact of_decide_eq_true (List.all_eq_true.mp admitted part isPart)
  have start : NoNul (path.start disk.current) := by
    unfold PurePath.start
    split
    · intro part isPart
      rw [List.mem_singleton] at isPart
      rw [isPart]
      split
      · exact disk.currentNoNul "" _ List.mem_cons_self
      · exact clean _ List.mem_cons_self
    · exact disk.currentNoNul path.drive
  intro part isPart
  rcases List.mem_cons.mp isPart with isDrive | isFolder
  · rw [PurePath.resolve, Location.walk_drive] at isDrive
    rw [isDrive]
    exact start _ List.mem_cons_self
  · rcases Location.mem_walk isFolder with inStart | inParts
    · exact start part (List.mem_cons_of_mem _ inStart)
    · exact clean part (List.mem_cons_of_mem _ inParts)

variable
    {first second : Location}
    {taskId : String}

theorem sameFolder_of_fileKey
    (firstNoNul : NoNul first)
    (secondNoNul : NoNul second)
    (sameKey : disk.fileKey first = disk.fileKey second) :
    disk.SameFolder first second := by
  have segments :
      ∀ {location : Location}, NoNul location →
        Segments.split '\x00' (disk.fileKey location) =
          (location.drive :: location.folders).map disk.fold := by
    intro location noNul
    refine Segments.split_join (List.cons_ne_nil _ _) ?_
    intro folded isFolded
    obtain ⟨part, isPart, rfl⟩ := List.mem_map.mp isFolded
    exact disk.foldNul part (noNul part isPart)
  have same := congrArg (Segments.split '\x00') sameKey
  rw [segments firstNoNul, segments secondNoNul] at same
  exact List.cons.inj same

theorem fileKey_child
    (same : disk.SameFolder first second)
    (name : String) :
    disk.fileKey (first.child name) = disk.fileKey (second.child name) := by
  unfold fileKey Location.child
  rw [List.map_cons, List.map_cons, List.map_append, List.map_append,
    same.1, same.2]

theorem SameFolder.parent
    {firstName secondName : String}
    (same : disk.SameFolder (first.child firstName) (second.child secondName)) :
    disk.SameFolder first second := by
  obtain ⟨drives, folders⟩ := same
  refine ⟨drives, ?_⟩
  unfold Location.child at folders
  rw [List.map_append, List.map_append] at folders
  exact (List.append_inj' folders rfl).1

/-! ### Confinement -/

theorem name_cases (flavour : Flavour) (taskId : String) :
    ((flavour.parse (taskId ++ ".log")).parts = [] ∧
        (flavour.parse (taskId ++ ".log")).rooted = true) ∨
      ∃ name,
        (flavour.parse (taskId ++ ".log")).parts.getLast? = some name ∧
          name ≠ ".." := by
  have suffix :
      (flavour.normal (taskId ++ ".log").toList).getLast? = some 'g' := by
    rw [String.toList_append]
    cases flavour with
    | posix =>
      exact List.getLast?_append_of_ne_nil _ (by decide)
    | windows =>
      unfold Flavour.normal
      dsimp only
      rw [List.map_append]
      exact List.getLast?_append_of_ne_nil _ (by decide)
  rcases flavour.getLast?_parse suffix (by cases flavour <;> decide) with
    noParts | ⟨name, isLast, ending⟩
  · exact .inl noParts
  · refine .inr ⟨name, isLast, ?_⟩
    rintro rfl
    cases ending

theorem parts_subset_getLogPath (taskId : String) :
    (disk.flavour.parse (taskId ++ ".log")).parts ⊆
      (disk.host.getLogPath taskId).parts := by
  have path :
      disk.host.getLogPath taskId =
        (disk.flavour.parse disk.logsDir).join disk.fold
          (disk.flavour.parse (taskId ++ ".log")) :=
    rfl
  rw [path, PurePath.join]
  split
  · exact List.Subset.refl _
  · split
    · exact List.subset_append_right _ _
    · exact List.Subset.refl _

theorem isFileName_of_getLast?
    {taskId name : String}
    (admitted : admits (disk.host.getLogPath taskId) = true)
    (isLast :
      (disk.flavour.parse (taskId ++ ".log")).parts.getLast? = some name)
    (noParent : name ≠ "..") :
    disk.IsFileName name := by
  have isPart := List.mem_of_getLast? isLast
  obtain ⟨kept, noSeparator⟩ := Flavour.mem_parts isPart
  exact
    { kept
      noParent
      noSeparator
      noNul :=
        of_decide_eq_true
          (List.all_eq_true.mp admitted name
            (List.mem_cons_of_mem _ (parts_subset_getLogPath _ isPart))) }

/-- A location that can be opened is a child of the log directory exactly
where its name leads back there. -/
theorem directChild_iff
    (admitted : admits (disk.host.getLogPath taskId) = true) :
    disk.DirectChild
        (disk.fileKey ((disk.host.getLogPath taskId).resolve disk.current)) ↔
      disk.LeadsBack taskId := by
  have located : NoNul ((disk.host.getLogPath taskId).resolve disk.current) :=
    noNul_resolve admitted
  have childNoNul :
      ∀ {name}, disk.IsFileName name → NoNul (disk.logsFolder.child name) := by
    intro name isName part isPart
    rcases List.mem_cons.mp isPart with rfl | isFolder
    · exact disk.logsNoNul _ List.mem_cons_self
    · rcases List.mem_append.mp isFolder with inLogs | isChild
      · exact disk.logsNoNul part (List.mem_cons_of_mem _ inLogs)
      · rw [List.mem_singleton.mp isChild]
        exact isName.noNul
  rw [resolve_getLogPath] at located ⊢
  unfold LeadsBack
  dsimp only
  rcases name_cases disk.flavour taskId with
    ⟨noParts, rooted⟩ | ⟨name, isLast, noParent⟩
  · -- A share without a path is no file of a directory.
    refine iff_of_false ?_ fun leads => leads.1 noParts
    rintro ⟨name, isName, sameKey⟩
    have same := sameFolder_of_fileKey located (childNoNul isName) sameKey
    have noFolders := same.2
    rw [noParts, startOf, if_pos rooted] at noFolders
    have noChild : disk.logsFolder.folders ++ [name] = [] :=
      List.map_eq_nil_iff.mp noFolders.symm
    exact absurd noChild (by simp)
  · have isFileName := isFileName_of_getLast? admitted isLast noParent
    obtain ⟨others, split⟩ := List.getLast?_eq_some_iff.mp isLast
    rw [split, Location.walk_concat _ _ noParent] at located ⊢
    rw [List.dropLast_concat]
    constructor
    · rintro ⟨child, isChild, sameKey⟩
      exact
        ⟨by simp,
          (sameFolder_of_fileKey located (childNoNul isChild) sameKey).parent⟩
    · rintro ⟨-, same⟩
      exact ⟨name, isFileName, fileKey_child same name⟩

theorem logFile_eq_some_iff {taskId file : String} :
    disk.host.logFile taskId = some file ↔
      disk.Opens taskId ∧
        disk.fileKey
            ((disk.host.getLogPath taskId).resolve disk.current) =
          file := by
  have located :
      disk.host.logFile taskId =
        if admits (disk.host.getLogPath taskId) &&
            disk.opens (disk.host.getLogPath taskId) then
          some
            (disk.fileKey ((disk.host.getLogPath taskId).resolve disk.current))
        else
          none :=
    rfl
  rw [located, Option.ite_none_right_eq_some, Bool.and_eq_true, Option.some_inj]
  exact Iff.rfl

theorem leadsBack_of_isPlain
    (isPlain : disk.flavour.isPlain (taskId ++ ".log") = true) :
    disk.LeadsBack taskId := by
  have kept : Flavour.keepsPart (taskId ++ ".log") = true := by
    have long : ∀ text : String, text.toList.length < 4 →
        taskId ++ ".log" ≠ text := by
      rintro text short rfl
      rw [String.toList_append, List.length_append] at short
      exact absurd short (by simp)
    unfold Flavour.keepsPart
    rw [Bool.and_eq_true, decide_eq_true_iff, decide_eq_true_iff]
    exact ⟨long "" (by decide), long "." (by decide)⟩
  unfold LeadsBack
  rw [Flavour.parse_plain isPlain kept]
  refine ⟨List.cons_ne_nil _ _, ?_⟩
  have start :
      disk.startOf
          { drive := "", rooted := false, parts := [taskId ++ ".log"] } =
        disk.logsFolder :=
    rfl
  rw [start]
  exact ⟨rfl, rfl⟩

theorem leadsBack_of_request
    (posix : disk.flavour = .posix)
    (noSlash : '/' ∉ taskId.toList) :
    disk.LeadsBack taskId := by
  refine leadsBack_of_isPlain ?_
  unfold Flavour.isPlain
  simp [posix, noSlash]

/-- Every file that a task's output is written to, or its log read from, is a
direct child of the log directory. -/
def Confined (disk : LogDisk) (taskId : String) : Prop :=
  ∀ decode file,
    Writes disk.host taskId file ∨
        Reads { host := disk.host, decode } taskId file →
      disk.DirectChild file

/-- Logs are confined where the folders of the id lead back. -/
theorem confined_iff (disk : LogDisk) (taskId : String) :
    Confined disk taskId ↔ (disk.Opens taskId → disk.LeadsBack taskId) := by
  constructor
  · intro confined opened
    refine (directChild_iff opened.1).mp ?_
    exact
      confined (fun _ => "") _
        (.inl (writes_iff.mpr (logFile_eq_some_iff.mpr ⟨opened, rfl⟩)))
  · intro leads decode file used
    have located : disk.host.logFile taskId = some file :=
      used.elim writes_iff.mp reads_iff.mp
    obtain ⟨opened, rfl⟩ := logFile_eq_some_iff.mp located
    exact (directChild_iff opened.1).mpr (leads opened)

/-- A disk whose log directory is `/data/logs/tasks`. -/
def exampleDisk : LogDisk where
  flavour := .posix
  logsDir := "/data/logs/tasks"
  fold := id
  current := fun _ => { drive := "", folders := ["data"] }
  opens := fun _ => true
  foldNul := fun _ noNul => noNul
  logsNoNul := by
    unfold NoNul
    decide +kernel
  currentNoNul := fun _ => by
    unfold NoNul
    decide

/-- The output of a task with the id `../../x` is written beside the logs. -/
theorem not_confined :
    ¬ ∀ (disk : LogDisk) (taskId : String), Confined disk taskId := by
  intro confined
  have admitted : admits (exampleDisk.host.getLogPath "../../x") = true := by
    decide +kernel
  have child :
      exampleDisk.DirectChild
        (exampleDisk.fileKey
          ((exampleDisk.host.getLogPath "../../x").resolve
            exampleDisk.current)) :=
    confined exampleDisk "../../x" (fun _ => "") _
      (.inl (writes_iff.mpr (logFile_eq_some_iff.mpr ⟨⟨admitted, rfl⟩, rfl⟩)))
  obtain ⟨-, -, sameFolders⟩ := (directChild_iff admitted).mp child
  exact absurd sameFolders (by decide +kernel)

end LogDisk

end RpaPlatform.Tasks
