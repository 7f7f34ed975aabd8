import RpaPlatform.TaskReads
import RpaPlatform.Utf8Encoding

namespace RpaPlatform.Tasks

/-!
# Reading a log page by page

The offset of a read counts bytes, its limit counts characters, and the text
that is returned has every line ended by a newline.  A reader that continues
where the returned text ends reads the whole log exactly where it has no
carriage return, and no page of it has more bytes than the limit.
-/

/-! ### Reading text -/

/-- Universal newlines: a carriage return ends a line. -/
def universalNewlines : List Char → List Char
  | [] => []
  | '\r' :: '\n' :: rest => '\n' :: universalNewlines rest
  | '\r' :: rest => '\n' :: universalNewlines rest
  | character :: rest => character :: universalNewlines rest

/-- Text mode with `encoding="utf-8", errors="replace"`. -/
def readText (bytes : ByteArray) : String :=
  String.ofList (universalNewlines (Utf8.decode bytes.data.toList))

def textReader (host : LogHost) : LogReader where
  host := host
  decode := readText

/-- The files after some output of a task has been logged. -/
def appendAll
    (host : LogHost)
    (files : Files)
    (taskId : String)
    (outputs : List String) : Files :=
  outputs.foldl (fun files data => host.appendLog files taskId data) files

def logOf (outputs : List String) : List Char :=
  outputs.flatMap fun data => (LogHost.logText data).toList

section Paging

variable
    (reader : LogReader)
    (files : Files)
    (taskId : String)
    (limit : Nat)

/-- The offset of a page: where the page before it ends. -/
def pageOffset : Nat → Nat
  | 0 => 0
  | page + 1 =>
    pageOffset page +
      (readLog reader files taskId (pageOffset page) limit).content.toUTF8.size

def readPage (page : Nat) : TaskLogResponse :=
  readLog reader files taskId (pageOffset reader files taskId limit page) limit

def readPages (count : Nat) : List Char :=
  (List.range count).flatMap fun page =>
    (readPage reader files taskId limit page).content.toList

/-- No page exceeds the limit, and the pages are the log, up to its end. -/
structure Paginates (log : List Char) : Prop where
  bounded :
    ∀ page,
      (readPage reader files taskId limit page).content.toUTF8.size ≤ limit
  complete :
    ∃ count,
      readPages reader files taskId limit count = log ∧
        pageOffset reader files taskId limit count =
          (readPage reader files taskId limit count).size

end Paging

/-- A log without carriage returns, whose pages keep the limit. -/
structure FitsPages (limit : Nat) (log : List Char) : Prop where
  noReturn : '\r' ∉ log
  fits :
    ∀ page, (Utf8.encode ((log.drop (page * limit)).take limit)).length ≤ limit

/-! ### Newlines -/

theorem universalNewlines_eq_self
    {text : List Char}
    (noReturn : '\r' ∉ text) :
    universalNewlines text = text := by
  induction text with
  | nil =>
    rfl
  | cons character rest inductionHypothesis =>
    rw [List.mem_cons, not_or] at noReturn
    rw [universalNewlines, inductionHypothesis noReturn.2]
    · rintro next rfl
      exact absurd rfl noReturn.1
    · rintro rfl
      exact absurd rfl noReturn.1

theorem notMem_universalNewlines (text : List Char) :
    '\r' ∉ universalNewlines text := by
  fun_induction universalNewlines text with
  | case1 =>
    exact List.not_mem_nil
  | case2 rest inductionHypothesis =>
    simp [inductionHypothesis]
  | case3 rest _ inductionHypothesis =>
    simp [inductionHypothesis]
  | case4 character rest _ isOther inductionHypothesis =>
    rw [List.mem_cons, not_or]
    exact ⟨fun isReturn => isOther isReturn.symm, inductionHypothesis⟩

/-! ### Bytes -/

theorem toList_toUTF8 (text : String) :
    text.toUTF8.data.toList = Utf8.encode text.toList := by
  have bytes : text.toByteArray = text.toList.utf8Encode := by
    rw [← String.toByteArray_ofList, String.ofList_toList]
  rw [String.toUTF8_eq_toByteArray, bytes, List.utf8Encode, Utf8.encode]
  simp

theorem size_toUTF8 (text : String) :
    text.toUTF8.size = (Utf8.encode text.toList).length := by
  rw [← toList_toUTF8]
  rfl

theorem drop_encode (text : List Char) (count : Nat) :
    (Utf8.encode text).drop (Utf8.encode (text.take count)).length =
      Utf8.encode (text.drop count) := by
  have whole :
      Utf8.encode text =
        Utf8.encode (text.take count) ++ Utf8.encode (text.drop count) := by
    rw [← Utf8.encode_append, List.take_append_drop]
  rw [whole]
  exact List.drop_left

/-! ### Appending -/

theorem appendAll_file
    {host : LogHost}
    {taskId file : String}
    (located : host.logFile taskId = some file)
    (files : Files)
    (outputs : List String) :
    ((appendAll host files taskId outputs file).getD "").toList =
      ((files file).getD "").toList ++ logOf outputs := by
  induction outputs generalizing files with
  | nil =>
    simp [appendAll, logOf]
  | cons data rest inductionHypothesis =>
    have later := inductionHypothesis (host.appendLog files taskId data)
    rw [host.appendLog_self files located] at later
    refine later.trans ?_
    simp [logOf]

/-! ### Pages -/

theorem readLog_textReader
    {host : LogHost}
    {taskId file : String}
    (located : host.logFile taskId = some file)
    (files : Files)
    (offset : Nat)
    {limit : Nat}
    (positive : 0 < limit) :
    let log := ((files file).getD "").toList
    let read := readLog (textReader host) files taskId offset limit
    read.content.toList =
        (universalNewlines
          (Utf8.decode ((Utf8.encode log).drop offset))).take limit ∧
      read.size = (Utf8.encode log).length := by
  have opened :
      ((textReader host).host.logFile taskId).bind files = files file := by
    have sameHost : (textReader host).host.logFile taskId = some file :=
      located
    rw [sameHost, Option.bind_some]
  unfold readLog
  dsimp only
  rw [opened]
  cases found : files file with
  | none =>
    simp [Utf8.encode, Utf8.decode, Utf8.decodeFrom, Utf8.finish,
      universalNewlines]
  | some text =>
    refine ⟨?_, size_toUTF8 text⟩
    dsimp only [Option.getD_some]
    have bytes :
        (text.toUTF8.extract offset text.toUTF8.size).data.toList =
          (Utf8.encode text.toList).drop offset := by
      rw [ByteArray.data_extract, Array.toList_extract,
        ← toList_toUTF8, List.extract_eq_take_drop]
      refine List.take_of_length_le ?_
      rw [List.length_drop]
      exact le_refl _
    rw [if_pos positive]
    unfold textReader readText
    dsimp only
    rw [bytes, String.Slice.toString_eq, String.toList_copy_take,
      String.toList_ofList]

section Pages

variable
    {host : LogHost}
    {files : Files}
    {taskId file : String}
    {log : List Char}
    {limit : Nat}

section WithoutReturns

variable
    (located : host.logFile taskId = some file)
    (isLog : ((files file).getD "").toList = log)
    (positive : 0 < limit)
    (noReturn : '\r' ∉ log)
include located isLog positive noReturn

theorem content_of_noReturn
    (start : Nat) :
    (readLog (textReader host) files taskId
        (Utf8.encode (log.take start)).length limit).content.toList =
      (log.drop start).take limit := by
  have content :=
    (readLog_textReader located files
      (Utf8.encode (log.take start)).length positive).1
  rw [isLog, drop_encode, Utf8.decode_encode,
    universalNewlines_eq_self fun member =>
      noReturn (List.mem_of_mem_drop member)] at content
  exact content

theorem pageOffset_of_noReturn
    (page : Nat) :
    pageOffset (textReader host) files taskId limit page =
      (Utf8.encode (log.take (page * limit))).length := by
  induction page with
  | zero =>
    rw [Nat.zero_mul]
    rfl
  | succ page inductionHypothesis =>
    rw [pageOffset, size_toUTF8, inductionHypothesis,
      content_of_noReturn located isLog positive noReturn, Nat.succ_mul,
      List.take_add, Utf8.encode_append, List.length_append]

theorem page_of_noReturn
    (page : Nat) :
    (readPage (textReader host) files taskId limit page).content.toList =
      (log.drop (page * limit)).take limit := by
  rw [readPage, pageOffset_of_noReturn located isLog positive noReturn]
  exact content_of_noReturn located isLog positive noReturn _

theorem readPages_of_noReturn
    (count : Nat) :
    readPages (textReader host) files taskId limit count =
      log.take (count * limit) := by
  induction count with
  | zero =>
    rw [Nat.zero_mul]
    rfl
  | succ count inductionHypothesis =>
    have last :=
      page_of_noReturn located isLog positive noReturn count
    unfold readPages at inductionHypothesis ⊢
    rw [List.range_succ, List.flatMap_append, inductionHypothesis,
      List.flatMap_singleton, last, Nat.succ_mul, List.take_add]

end WithoutReturns

theorem noReturn_of_paginates
    (located : host.logFile taskId = some file)
    (positive : 0 < limit)
    (paginates : Paginates (textReader host) files taskId limit log) :
    '\r' ∉ log := by
  obtain ⟨count, rfl, -⟩ := paginates.complete
  intro member
  obtain ⟨page, -, onPage⟩ := List.mem_flatMap.mp member
  have content :=
    (readLog_textReader located files
      (pageOffset (textReader host) files taskId limit page) positive).1
  rw [readPage, content] at onPage
  exact notMem_universalNewlines _ (List.mem_of_mem_take onPage)

theorem paginates_iff_fitsPages
    (located : host.logFile taskId = some file)
    (isLog : ((files file).getD "").toList = log)
    (positive : 0 < limit) :
    Paginates (textReader host) files taskId limit log ↔
      FitsPages limit log := by
  constructor
  · intro paginates
    have noReturn := noReturn_of_paginates located positive paginates
    refine ⟨noReturn, fun page => ?_⟩
    have bounded := paginates.bounded page
    rw [size_toUTF8,
      page_of_noReturn located isLog positive noReturn page] at bounded
    exact bounded
  · intro fits
    have pages := page_of_noReturn located isLog positive fits.noReturn
    constructor
    · intro page
      rw [size_toUTF8, pages page]
      exact fits.fits page
    · -- Every page but the last has a character, so that many are enough.
      have enough : log.length ≤ log.length * limit :=
        Nat.le_mul_of_pos_right _ positive
      have size :=
        (readLog_textReader located files
          (pageOffset (textReader host) files taskId limit log.length)
          positive).2
      refine ⟨log.length, ?_, ?_⟩
      · rw [readPages_of_noReturn located isLog positive fits.noReturn,
          List.take_of_length_le enough]
      · rw [readPage, size, isLog,
          pageOffset_of_noReturn located isLog positive fits.noReturn,
          List.take_of_length_le enough]

end Pages

/-- Logged output is paged exactly where its pages fit. -/
theorem appendAll_paginates_iff
    {host : LogHost}
    {files : Files}
    {taskId file : String}
    {limit : Nat}
    (located : host.logFile taskId = some file)
    (isNew : files file = none)
    (outputs : List String)
    (positive : 0 < limit) :
    Paginates (textReader host) (appendAll host files taskId outputs)
        taskId limit (logOf outputs) ↔
      FitsPages limit (logOf outputs) := by
  refine paginates_iff_fitsPages located ?_ positive
  rw [appendAll_file located, isNew]
  rfl

theorem fitsPages_of_ascii
    {log : List Char}
    (ascii : ∀ character ∈ log, character.toNat < 0x80)
    (noReturn : '\r' ∉ log)
    (limit : Nat) :
    FitsPages limit log := by
  refine ⟨noReturn, fun page => ?_⟩
  have oneByte :
      ∀ text : List Char,
        (∀ character ∈ text, character.toNat < 0x80) →
        (Utf8.encode text).length = text.length := by
    intro text isAscii
    induction text with
    | nil =>
      rfl
    | cons character rest inductionHypothesis =>
      have single : (String.utf8EncodeChar character).length = 1 := by
        rw [String.length_utf8EncodeChar]
        exact
          Char.utf8Size_eq_one_iff.mpr
            (UInt32.le_iff_toNat_le.mpr
              (Nat.le_of_lt_succ (isAscii character (by simp))))
      have later :=
        inductionHypothesis fun other member =>
          isAscii other (List.mem_cons_of_mem _ member)
      unfold Utf8.encode at later ⊢
      rw [List.flatMap_cons, List.length_append, single, later,
        List.length_cons, Nat.add_comm]
  rw [oneByte _ fun character member =>
    ascii character (List.mem_of_mem_drop (List.mem_of_mem_take member))]
  exact List.length_take_le _ _

def plainHost : LogHost where
  logsDir := "logs"
  locate path := some (Paths.Flavour.posix.text path)

/-- ASCII output is paged. -/
theorem asciiOutput_paginates :
    Paginates (textReader plainHost)
      (appendAll plainHost (fun _ => none) "task-1" ["ready", "done\n"])
      "task-1" 4 (logOf ["ready", "done\n"]) := by
  have ascii : (logOf ["ready", "done\n"]).all (·.toNat < 0x80) = true := by
    decide
  exact
    (appendAll_paginates_iff
        (show plainHost.logFile "task-1" = some _ from rfl) rfl _
        (by decide)).mpr
      (fitsPages_of_ascii (by simpa using ascii) (by decide) 4)

/-- Every log that is appended to is paged, with any limit from four on. -/
def LogsPaginate : Prop :=
  ∀ (host : LogHost) (files : Files) (taskId file : String)
      (outputs : List String) (limit : Nat),
    host.logFile taskId = some file →
    files file = none →
    4 ≤ limit →
    Paginates (textReader host) (appendAll host files taskId outputs)
      taskId limit (logOf outputs)

/-- Four characters can be more than four bytes. -/
theorem not_logsPaginate : ¬ LogsPaginate := by
  intro claimed
  have located : plainHost.logFile "task-1" = some _ := rfl
  have paginates :=
    claimed plainHost (fun _ => none) "task-1" _ ["ąąą"] 4 located rfl
      (le_refl 4)
  have isLog := appendAll_file located (fun _ => none) ["ąąą"]
  have fits := (paginates_iff_fitsPages located isLog (by decide)).mp paginates
  exact absurd (fits.fits 0) (by decide +kernel)

end RpaPlatform.Tasks
