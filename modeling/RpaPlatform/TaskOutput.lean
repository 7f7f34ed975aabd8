import Mathlib.Data.List.Flatten
import Mathlib.Data.List.TakeDrop
import RpaPlatform.TaskService
import RpaPlatform.Utf8

namespace RpaPlatform.Tasks

open Transition

/-!
# The output of a task, from the script to the log

The script writes to two files.  A tail loop for each reads what has been
added since its last read, at most 32 KiB at a time, and sends each read as
one event, with the bytes of that read decoded by themselves.  When the
process has exited and both loops are done, or after a timeout, what is left
is read in the same way.  The server appends the text of every event to the
log of the task, and a newline if the text does not end with one.
-/

/-- The two output streams. -/
inductive OutputStream where
  | stdout
  | stderr
deriving DecidableEq

def OutputStream.name : OutputStream → String
  | stdout => "stdout"
  | stderr => "stderr"

def outputMaxBatchBytes : Nat :=
  32 * 1024

/-- What is read at once and sent as one event. -/
structure OutputBatch where
  stream : OutputStream
  bytes : List UInt8
  nonempty : bytes ≠ []
  seq : Nat

/-- The event of a batch. -/
def OutputBatch.event
    (batch : OutputBatch)
    (taskId : String) : TaskOutputData where
  taskId := taskId
  stream := batch.stream.name
  data := String.ofList (Utf8.decode batch.bytes)
  seq := batch.seq

/-- Where a tail loop is; it waits after each read, which drained something
or not. -/
inductive TailPoint where
  | starting
  | waiting (drained : Bool)
  | done
deriving DecidableEq

/-- Where `_run_with_timeout` is. -/
inductive ExecutionPoint where
  /-- In `wait_for`. -/
  | waiting
  /-- After the timeout, until the tail loops have ended. -/
  | timedOut
  /-- In `_flush_all_outputs`. -/
  | flushing (stream : OutputStream)
  | ended
deriving DecidableEq

/-- The last read of the standard output is over. -/
def ExecutionPoint.flushed : ExecutionPoint → Bool
  | flushing .stderr => true
  | ended => true
  | _ => false

/-- An execution, its files, and its events on their way to the log. -/
structure OutputSystem where
  taskId : String
  /-- What the script has written. -/
  written : OutputStream → List UInt8 := fun _ => []
  exited : Bool := false
  point : ExecutionPoint := .waiting
  tails : OutputStream → TailPoint := fun _ => .starting
  seq : Nat := 0
  offset : OutputStream → Nat := fun _ => 0
  /-- All batches that have been sent. -/
  sent : List OutputBatch := []
  inFlight : List TaskOutputData := []
  files : Files := fun _ => none

/-- What happens. -/
inductive OutputAction where
  | write (stream : OutputStream) (bytes : List UInt8)
  /-- The process exits, by itself or terminated. -/
  | exit
  /-- A turn of a tail loop, after its wait; `opened` is whether the file
  opens. -/
  | tail (stream : OutputStream) (signaled opened : Bool)
  | timeout
  | cancelTail (stream : OutputStream)
  /-- `_run_with_timeout` goes on to `_flush_all_outputs`. -/
  | finish
  /-- One read of `_flush_all_outputs`. -/
  | flush (opened : Bool)
  /-- The server handles the next event. -/
  | handle

namespace OutputSystem

variable (sys : OutputSystem)

def chunk (stream : OutputStream) : List UInt8 :=
  ((sys.written stream).drop (sys.offset stream)).take outputMaxBatchBytes

/-- The batch of a read. -/
def batch? (stream : OutputStream) : Option OutputBatch :=
  if nonempty : sys.chunk stream ≠ [] then
    some
      { stream
        bytes := sys.chunk stream
        nonempty
        seq := sys.seq + 1 }
  else
    none

/-- Send a batch, if there is one. -/
def send : Option OutputBatch → OutputSystem
  | none => sys
  | some batch =>
    { sys with
      seq := batch.seq
      offset :=
        Function.update sys.offset batch.stream
          (sys.offset batch.stream + batch.bytes.length)
      sent := sys.sent ++ [batch]
      inFlight := sys.inFlight ++ [batch.event sys.taskId] }

@[simp]
theorem send_point (batch : Option OutputBatch) :
    (sys.send batch).point = sys.point := by
  cases batch with
  | none | some =>
    rfl

@[simp]
theorem send_written (batch : Option OutputBatch) :
    (sys.send batch).written = sys.written := by
  cases batch with
  | none | some =>
    rfl

@[simp]
theorem send_sent (batch : Option OutputBatch) :
    (sys.send batch).sent = sys.sent ++ batch.toList := by
  cases batch with
  | none =>
    exact (List.append_nil _).symm
  | some batch =>
    rfl

/-- The batch that an action sends. -/
def sends? : OutputAction → Option OutputBatch
  | .tail stream signaled true =>
    if sys.tails stream = .waiting false ∧ signaled = true then
      none
    else
      sys.batch? stream
  | .flush true =>
    match sys.point with
    | .flushing stream => sys.batch? stream
    | _ => none
  | _ => none

/-- A turn of a tail loop. -/
def tailOutputFile?
    (stream : OutputStream)
    (signaled opened : Bool) : Option OutputSystem :=
  let batch := sys.sends? (.tail stream signaled opened)
  let moved :=
    { sys.send batch with
      tails := Function.update sys.tails stream (.waiting batch.isSome) }
  match sys.tails stream with
  | .starting => some moved
  | .waiting drained =>
    if signaled = true ∧ sys.exited = false then
      none
    else if signaled = true ∧ drained = false then
      some { sys with tails := Function.update sys.tails stream .done }
    else
      some moved
  | .done => none

/-- One read of `_flush_all_outputs`. -/
def flushAllOutputs? (opened : Bool) : Option OutputSystem :=
  let batch := sys.sends? (.flush opened)
  match sys.point with
  | .flushing stream =>
    if batch.isSome then
      some (sys.send batch)
    else
      match stream with
      | .stdout => some { sys with point := .flushing .stderr }
      | .stderr => some { sys with point := .ended }
  | _ => none

def tailsDone : Bool :=
  decide (sys.tails .stdout = .done) && decide (sys.tails .stderr = .done)

/-- One step. -/
def step?
    (host : LogHost)
    (sys : OutputSystem) : OutputAction → Option OutputSystem
  | .write stream bytes =>
    if sys.exited then
      none
    else
      some
        { sys with
          written :=
            Function.update sys.written stream
              (sys.written stream ++ bytes) }
  | .exit =>
    if sys.exited then none else some { sys with exited := true }
  | .tail stream signaled opened =>
    if sys.point = .waiting then
      sys.tailOutputFile? stream signaled opened
    else
      none
  | .timeout =>
    if sys.point = .waiting then
      some { sys with point := .timedOut }
    else
      none
  | .cancelTail stream =>
    if sys.point = .timedOut then
      some { sys with tails := Function.update sys.tails stream .done }
    else
      none
  | .finish =>
    if sys.tailsDone = true ∧
        (sys.point = .waiting ∧ sys.exited = true ∨ sys.point = .timedOut) then
      some { sys with point := .flushing .stdout }
    else
      none
  | .flush opened => sys.flushAllOutputs? opened
  | .handle =>
    match sys.inFlight with
    | [] => none
    | event :: rest =>
      some
        { sys with
          inFlight := rest
          files := host.appendLog sys.files event.taskId event.data }

/-- The execution is over, and the server has handled all it sent. -/
def Finished : Prop :=
  sys.exited = true ∧ sys.point = .ended ∧ sys.inFlight = []

/-- The log holds what the script wrote to its standard output. -/
structure Faithful (file : String) : Prop where
  once : sys.sent.flatMap (·.bytes) = sys.written .stdout
  increasing : (sys.sent.map (·.seq)).Pairwise (· < ·)
  logged :
    (sys.files file).getD "" = String.ofList (Utf8.decode (sys.written .stdout))

def SendsWholeLines (action : OutputAction) : Prop :=
  ∀ batch ∈ sys.sends? action, batch.bytes.getLast? = some 10

/-- A last read that fails misses nothing, and nothing is written after it. -/
def MissesNothing : OutputAction → Prop
  | .flush opened =>
    opened = false → sys.point = .flushing .stdout →
      sys.chunk .stdout = []
  | .write stream bytes =>
    stream = .stdout → sys.point.flushed = true → bytes = []
  | _ => True

end OutputSystem

/-! ### The log of several batches -/

/-- What `append_log` makes of some characters. -/
def lined (text : List Char) : List Char :=
  if text.getLast? = some '\n' then text else text ++ ['\n']

theorem toList_logText (text : List Char) :
    (LogHost.logText (String.ofList text)).toList = lined text := by
  unfold LogHost.logText lined
  rw [String.toList_ofList]
  split
  · exact String.toList_ofList
  · rw [String.toList_append, String.toList_ofList]
    rfl

theorem count_lined (chunks : List (List UInt8)) :
    (chunks.flatMap fun chunk => lined (Utf8.decode chunk)).count '\n' =
      chunks.flatten.count 10 +
        chunks.countP fun chunk => decide (chunk.getLast? ≠ some 10) := by
  induction chunks with
  | nil =>
    rfl
  | cons chunk rest inductionHypothesis =>
    have ends := Utf8.getLast?_decode chunk
    have counted := Utf8.count_decode chunk
    rw [List.flatMap_cons, List.count_append, inductionHypothesis,
      List.flatten_cons, List.count_append, List.countP_cons]
    unfold lined
    by_cases endsLine : chunk.getLast? = some 10
    · rw [if_pos (ends.mpr endsLine), counted]
      simp only [endsLine, ne_eq, not_true_eq_false, decide_false,
        Bool.false_eq_true, if_false]
      omega
    · rw [if_neg (endsLine ∘ ends.mp), List.count_append, counted]
      simp only [endsLine, ne_eq, not_false_eq_true, decide_true, if_true,
        List.count_singleton_self]
      omega

/-- Chunks are logged as what they are together exactly if all of them end
with a newline. -/
theorem flatMap_lined_eq_iff (chunks : List (List UInt8)) :
    (chunks.flatMap fun chunk => lined (Utf8.decode chunk)) =
        Utf8.decode chunks.flatten ↔
      ∀ chunk ∈ chunks, chunk.getLast? = some 10 := by
  constructor
  · intro same chunk member
    have counted := congrArg (List.count '\n') same
    rw [count_lined, Utf8.count_decode] at counted
    have noneLeft :
        chunks.countP (fun chunk =>
          decide (chunk.getLast? ≠ some 10)) = 0 := by
      omega
    simpa using List.countP_eq_zero.mp noneLeft chunk member
  · intro endLines
    induction chunks with
    | nil =>
      rfl
    | cons chunk rest inductionHypothesis =>
      have endsLine := endLines chunk List.mem_cons_self
      have restLogged :=
        inductionHypothesis fun other member =>
          endLines other (List.mem_cons_of_mem _ member)
      rw [List.flatMap_cons, restLogged, List.flatten_cons,
        Utf8.decode_append endsLine]
      unfold lined
      rw [if_pos ((Utf8.getLast?_decode chunk).mpr endsLine)]

/-! ### What every run keeps -/

/-- What holds in every reachable state. -/
structure OutputKept (host : LogHost) (file : String) (sys : OutputSystem) :
    Prop where
  located : host.logFile sys.taskId = some file
  withinFile : ∀ stream, sys.offset stream ≤ (sys.written stream).length
  /-- What has been read is what has been sent. -/
  onceEach :
    ∀ stream,
      (sys.sent.filter fun batch =>
          decide (batch.stream = stream)).flatMap (·.bytes) =
        (sys.written stream).take (sys.offset stream)
  numbered : sys.sent.map (·.seq) = List.range' 1 sys.sent.length
  counted : sys.seq = sys.sent.length
  /-- The log holds the events that are no longer on their way. -/
  handled :
    ∃ handled,
      sys.sent.map (·.event sys.taskId) = handled ++ sys.inFlight ∧
        ((sys.files file).getD "").toList =
          handled.flatMap fun event =>
            (LogHost.logText event.data).toList

section Steps

variable
    {host : LogHost}
    {file : String}
    {sys before after : OutputSystem}
    {action : OutputAction}

theorem batch?_eq_some
    {stream : OutputStream}
    {batch : OutputBatch}
    (found : sys.batch? stream = some batch) :
    batch.stream = stream ∧ batch.bytes = sys.chunk stream ∧
      batch.seq = sys.seq + 1 := by
  unfold OutputSystem.batch? at found
  split at found
  · cases found
    exact ⟨rfl, rfl, rfl⟩
  · cases found

theorem sends?_eq_some
    {batch : OutputBatch}
    (sends : sys.sends? action = some batch) :
    sys.batch? batch.stream = some batch := by
  have ofRead :
      ∀ {stream}, sys.batch? stream = some batch →
        sys.batch? batch.stream = some batch := by
    intro stream found
    rw [(batch?_eq_some found).1]
    exact found
  unfold OutputSystem.sends? at sends
  split at sends
  · split at sends
    · cases sends
    · exact ofRead sends
  · split at sends
    · exact ofRead sends
    · cases sends
  · cases sends

/-- A read and its event keep what should be kept. -/
theorem OutputKept.send
    (kept : OutputKept host file sys)
    (action : OutputAction) :
    OutputKept host file (sys.send (sys.sends? action)) := by
  cases sends : sys.sends? action with
  | none =>
    exact kept
  | some batch =>
    obtain ⟨_, isChunk, isNext⟩ := batch?_eq_some (sends?_eq_some sends)
    have isTaken :
        batch.bytes =
          ((sys.written batch.stream).drop
            (sys.offset batch.stream)).take batch.bytes.length := by
      rw [isChunk]
      unfold OutputSystem.chunk
      rw [List.length_take]
      exact List.take_eq_take_min
    have isOffset :
        (sys.send (some batch)).offset =
          Function.update sys.offset batch.stream
            (sys.offset batch.stream + batch.bytes.length) :=
      rfl
    have isSent : (sys.send (some batch)).sent = sys.sent ++ [batch] :=
      rfl
    have isWritten : (sys.send (some batch)).written = sys.written :=
      rfl
    constructor
    · exact kept.located
    · intro stream
      rw [isOffset]
      by_cases isRead : stream = batch.stream
      · have within := kept.withinFile batch.stream
        have fits := congrArg List.length isTaken
        rw [List.length_take, List.length_drop] at fits
        rw [isRead, Function.update_self]
        change _ ≤ (sys.written batch.stream).length
        omega
      · rw [Function.update_of_ne isRead]
        exact kept.withinFile stream
    · intro stream
      rw [isOffset, isSent, isWritten, List.filter_append,
        List.flatMap_append, kept.onceEach]
      by_cases isRead : stream = batch.stream
      · subst isRead
        rw [Function.update_self, List.take_add, ← isTaken]
        simp
      · rw [Function.update_of_ne isRead]
        simp [Ne.symm isRead]
    · rw [isSent, List.map_append, kept.numbered, List.length_append,
        List.length_singleton, List.range'_1_concat, List.map_singleton,
        isNext, kept.counted, Nat.add_comm 1]
    · change batch.seq = _
      rw [isSent, isNext, kept.counted, List.length_append,
        List.length_singleton]
    · obtain ⟨handled, isOnWay, isLogged⟩ := kept.handled
      refine ⟨handled, ?_, isLogged⟩
      change
        (sys.sent ++ [batch]).map (·.event sys.taskId) =
          handled ++ (sys.inFlight ++ [batch.event sys.taskId])
      rw [List.map_append, isOnWay, List.append_assoc]
      rfl

theorem OutputKept.moved
    (kept : OutputKept host file sys)
    (exited : Bool)
    (point : ExecutionPoint)
    (tails : OutputStream → TailPoint) :
    OutputKept host file { sys with exited, point, tails } :=
  ⟨kept.located, kept.withinFile, kept.onceEach, kept.numbered,
    kept.counted, kept.handled⟩

theorem OutputKept.write
    (kept : OutputKept host file sys)
    (stream : OutputStream)
    (bytes : List UInt8) :
    OutputKept host file
      { sys with
        written :=
          Function.update sys.written stream
            (sys.written stream ++ bytes) } := by
  have grows :
      ∀ other,
        ∃ more,
          Function.update sys.written stream (sys.written stream ++ bytes)
              other =
            sys.written other ++ more := by
    intro other
    by_cases isWritten : other = stream
    · subst isWritten
      exact ⟨bytes, Function.update_self _ _ _⟩
    · refine ⟨[], ?_⟩
      rw [Function.update_of_ne isWritten, List.append_nil]
  refine ⟨kept.located, ?_, ?_, kept.numbered, kept.counted, kept.handled⟩
  · intro other
    obtain ⟨more, isGrown⟩ := grows other
    change _ ≤ (Function.update sys.written stream _ other).length
    rw [isGrown, List.length_append]
    exact Nat.le_add_right_of_le (kept.withinFile other)
  · intro other
    obtain ⟨more, isGrown⟩ := grows other
    change _ = (Function.update sys.written stream _ other).take _
    rw [isGrown, List.take_append_of_le_length (kept.withinFile other)]
    exact kept.onceEach other

theorem OutputKept.handle
    (kept : OutputKept host file sys)
    {event : TaskOutputData}
    {rest : List TaskOutputData}
    (next : sys.inFlight = event :: rest) :
    OutputKept host file
      { sys with
        inFlight := rest
        files := host.appendLog sys.files event.taskId event.data } := by
  obtain ⟨handled, isOnWay, isLogged⟩ := kept.handled
  have ownTask : event.taskId = sys.taskId := by
    have member : event ∈ sys.sent.map (·.event sys.taskId) := by
      rw [isOnWay, next]
      exact List.mem_append_right _ List.mem_cons_self
    obtain ⟨batch, _, rfl⟩ := List.mem_map.mp member
    rfl
  refine
    ⟨kept.located, kept.withinFile, kept.onceEach,
      kept.numbered, kept.counted, handled ++ [event], ?_, ?_⟩
  · rw [List.append_assoc]
    exact isOnWay.trans (congrArg (handled ++ ·) next)
  · dsimp only
    rw [ownTask, host.appendLog_self _ kept.located, Option.getD_some,
      String.toList_append, isLogged, List.flatMap_append]
    simp

/-- What a step does. -/
inductive Effect (host : LogHost) (sys : OutputSystem) :
    OutputAction → OutputSystem → Prop where
  | write (stream : OutputStream) (bytes : List UInt8) :
      Effect host sys (.write stream bytes)
        { sys with
          written :=
            Function.update sys.written stream
              (sys.written stream ++ bytes) }
  | handle
      {event : TaskOutputData}
      {rest : List TaskOutputData}
      (next : sys.inFlight = event :: rest) :
      Effect host sys .handle
        { sys with
          inFlight := rest
          files := host.appendLog sys.files event.taskId event.data }
  /-- The last read of the standard output. -/
  | flushed
      {opened : Bool}
      (isLast : sys.point = .flushing .stdout)
      (sendsNone : sys.sends? (.flush opened) = none) :
      Effect host sys (.flush opened) { sys with point := .flushing .stderr }
  /-- Any other turn of the agent. -/
  | turn
      {action : OutputAction}
      (exited : Bool)
      (point : ExecutionPoint)
      (tails : OutputStream → TailPoint)
      (sameFlushed : point.flushed = sys.point.flushed)
      (sendsOther :
        sys.point.flushed = true →
          ∀ batch ∈ sys.sends? action, batch.stream ≠ .stdout)
      (missesNothing : sys.MissesNothing action) :
      Effect host sys action
        { sys.send (sys.sends? action) with exited, point, tails }

/-- Every step has one of the effects. -/
theorem effect_of_step
    (stepped : Fires (OutputSystem.step? host) before action after) :
    Effect host before action after := by
  unfold Fires OutputSystem.step? at stepped
  cases action with
  | write stream bytes =>
    dsimp only at stepped
    split at stepped
    · cases stepped
    · cases stepped
      exact .write stream bytes
  | exit =>
    dsimp only at stepped
    split at stepped
    · cases stepped
    · cases stepped
      exact .turn _ _ _ rfl (fun _ => nofun) trivial
  | tail stream signaled opened =>
    dsimp only at stepped
    split at stepped
    · rename_i isWaiting
      have samePoint :
          (before.send
              (before.sends? (.tail stream signaled opened))).point =
            before.point :=
        before.send_point _
      have notFlushed : before.point.flushed ≠ true := by
        rw [isWaiting]
        decide
      unfold OutputSystem.tailOutputFile? at stepped
      dsimp only at stepped
      split at stepped
      · cases stepped
        exact
          .turn _ _ _ (congrArg _ samePoint)
            (fun flushed => (notFlushed flushed).elim) trivial
      · rename_i drained isPaused
        split at stepped
        · cases stepped
        · split at stepped
          · rename_i breaks
            obtain ⟨isSignaled, rfl⟩ := breaks
            cases stepped
            have sendsNone :
                before.sends? (.tail stream signaled opened) = none := by
              unfold OutputSystem.sends?
              cases opened with
              | false =>
                rfl
              | true =>
                exact if_pos ⟨isPaused, isSignaled⟩
            have effect : Effect host before (.tail stream signaled opened) _ :=
              .turn before.exited before.point
                (Function.update before.tails stream .done) rfl
                (fun flushed => (notFlushed flushed).elim) trivial
            rw [sendsNone] at effect
            exact effect
          · cases stepped
            exact
              .turn _ _ _ (congrArg _ samePoint)
                (fun flushed => (notFlushed flushed).elim) trivial
      · cases stepped
    · cases stepped
  | timeout =>
    dsimp only at stepped
    split at stepped
    · rename_i isWaiting
      cases stepped
      refine .turn _ _ _ ?_ (fun _ => nofun) trivial
      rw [isWaiting]
      rfl
    · cases stepped
  | cancelTail stream =>
    dsimp only at stepped
    split at stepped
    · cases stepped
      exact .turn _ _ _ rfl (fun _ => nofun) trivial
    · cases stepped
  | finish =>
    dsimp only at stepped
    split at stepped
    · rename_i ready
      cases stepped
      refine .turn _ _ _ ?_ (fun _ => nofun) trivial
      rcases ready.2 with ⟨isWaiting, _⟩ | isTimedOut
      · rw [isWaiting]
        rfl
      · rw [isTimedOut]
        rfl
    · cases stepped
  | flush opened =>
    unfold OutputSystem.flushAllOutputs? at stepped
    dsimp only at stepped
    split at stepped
    · rename_i stream isFlushing
      have isFlushed :
          ∀ {batch}, before.sends? (.flush opened) = some batch →
            batch.stream = stream := by
        intro batch isSent
        unfold OutputSystem.sends? at isSent
        cases opened with
        | false =>
          cases isSent
        | true =>
          dsimp only at isSent
          rw [isFlushing] at isSent
          exact (batch?_eq_some isSent).1
      split at stepped
      · rename_i sendsSome
        cases stepped
        refine .turn _ _ _ (congrArg _ (before.send_point _)) ?_ ?_
        · intro flushed batch isSent isStdout
          have isStream := isFlushed isSent
          rw [isFlushing, ← isStream, isStdout] at flushed
          cases flushed
        · intro notOpened
          subst notOpened
          cases sendsSome
      · rename_i sendsNone
        rw [Option.not_isSome_iff_eq_none] at sendsNone
        split at stepped
        · cases stepped
          exact .flushed isFlushing sendsNone
        · cases stepped
          have effect :
              Effect host before (.flush opened)
                { before.send (before.sends? (.flush opened)) with
                  exited := before.exited
                  point := .ended
                  tails := before.tails } := by
            refine .turn _ _ _ ?_ ?_ ?_
            · rw [isFlushing]
              rfl
            · intro _ batch isSent
              rw [sendsNone] at isSent
              cases isSent
            · intro _ isStdout
              rw [isFlushing] at isStdout
              cases isStdout
          rw [sendsNone] at effect
          exact effect
    · cases stepped
  | handle =>
    dsimp only at stepped
    split at stepped
    · cases stepped
    · rename_i event rest next
      cases stepped
      exact .handle next

theorem OutputKept.step
    (kept : OutputKept host file before)
    (effect : Effect host before action after) :
    OutputKept host file after := by
  cases effect with
  | write stream bytes =>
    exact kept.write stream bytes
  | handle next =>
    exact kept.handle next
  | flushed isLast sendsNone =>
    exact kept.moved _ _ _
  | turn exited point tails _ _ _ =>
    exact (kept.send action).moved exited point tails

theorem chunk_eq_nil_iff {stream : OutputStream} :
    sys.chunk stream = [] ↔
      (sys.written stream).length ≤ sys.offset stream := by
  unfold OutputSystem.chunk
  rw [List.take_eq_nil_iff, List.drop_eq_nil_iff]
  exact or_iff_right (by decide)

def ReadToEnd (sys : OutputSystem) : Prop :=
  sys.point.flushed = true → (sys.written .stdout).length ≤ sys.offset .stdout

theorem readToEnd_write
    (kept : OutputKept host file sys)
    (stream : OutputStream)
    (bytes : List UInt8) :
    ReadToEnd
        { sys with
          written :=
            Function.update sys.written stream
              (sys.written stream ++ bytes) } ↔
      ReadToEnd sys ∧ sys.MissesNothing (.write stream bytes) := by
  unfold ReadToEnd
  dsimp only
  by_cases isStdout : stream = .stdout
  · subst isStdout
    have within := kept.withinFile .stdout
    rw [Function.update_self, List.length_append]
    constructor
    · intro readAll
      refine ⟨fun flushed => ?_, fun _ flushed => ?_⟩
      · have all := readAll flushed
        omega
      · have all := readAll flushed
        exact List.eq_nil_of_length_eq_zero (by omega)
    · rintro ⟨readAll, writesNone⟩ flushed
      rw [writesNone rfl flushed]
      exact readAll flushed
  · rw [Function.update_of_ne (Ne.symm isStdout)]
    exact (and_iff_left fun same => (isStdout same).elim).symm

theorem readToEnd_flushed
    {opened : Bool}
    (isLast : sys.point = .flushing .stdout)
    (sendsNone : sys.sends? (.flush opened) = none) :
    ReadToEnd { sys with point := .flushing .stderr } ↔
      ReadToEnd sys ∧ sys.MissesNothing (.flush opened) := by
  have notBefore : ReadToEnd sys := by
    intro flushed
    rw [isLast] at flushed
    cases flushed
  have isEnd :
      ReadToEnd { sys with point := .flushing .stderr } ↔
        sys.chunk .stdout = [] := by
    rw [chunk_eq_nil_iff]
    exact ⟨fun readAll => readAll rfl, fun all _ => all⟩
  rw [isEnd, and_iff_right notBefore]
  constructor
  · exact fun found _ _ => found
  · intro missesNothing
    cases opened with
    | false =>
      exact missesNothing rfl isLast
    | true =>
      unfold OutputSystem.sends? at sendsNone
      dsimp only at sendsNone
      rw [isLast] at sendsNone
      unfold OutputSystem.batch? at sendsNone
      by_contra nonempty
      dsimp only at sendsNone
      rw [dif_pos nonempty] at sendsNone
      cases sendsNone

theorem readToEnd_step
    (kept : OutputKept host file before)
    (effect : Effect host before action after) :
    ReadToEnd after ↔ ReadToEnd before ∧ before.MissesNothing action := by
  cases effect with
  | write stream bytes =>
    exact readToEnd_write kept stream bytes
  | handle next =>
    exact (and_iff_left trivial).symm
  | flushed isLast sendsNone =>
    exact readToEnd_flushed isLast sendsNone
  | turn exited point tails sameFlushed sendsOther missesNothing =>
    rw [and_iff_left missesNothing]
    unfold ReadToEnd
    dsimp only
    rw [sameFlushed, OutputSystem.send_written]
    refine forall_congr' fun flushed => ?_
    cases sends : before.sends? action with
    | none =>
      rfl
    | some batch =>
      have other := sendsOther flushed batch sends
      change _ ≤ Function.update before.offset batch.stream _ _ ↔ _
      rw [Function.update_of_ne (Ne.symm other)]

def SentLines (sys : OutputSystem) : Prop :=
  ∀ batch ∈ sys.sent, batch.bytes.getLast? = some 10

theorem sentLines_step (effect : Effect host before action after) :
    SentLines after ↔ SentLines before ∧ before.SendsWholeLines action := by
  have isSent : after.sent = before.sent ++ (before.sends? action).toList := by
    cases effect with
    | write | handle =>
      exact (List.append_nil _).symm
    | flushed isLast sendsNone =>
      rw [sendsNone]
      exact (List.append_nil _).symm
    | turn =>
      exact before.send_sent _
  unfold SentLines OutputSystem.SendsWholeLines
  rw [isSent, List.forall_mem_append]
  simp

end Steps

/-- The steps on which the output keeps its lines: what is read ends with a
newline, and nothing is missed. -/
def OutputSystem.KeepsLines (sys : OutputSystem) (action : OutputAction) :
    Prop :=
  sys.SendsWholeLines action ∧ sys.MissesNothing action

instance (sys : OutputSystem) :
    (action : OutputAction) → Decidable (sys.MissesNothing action)
  | .flush _ => inferInstanceAs (Decidable (_ → _))
  | .write _ _ => inferInstanceAs (Decidable (_ → _))
  | .exit => inferInstanceAs (Decidable True)
  | .tail _ _ _ => inferInstanceAs (Decidable True)
  | .timeout => inferInstanceAs (Decidable True)
  | .cancelTail _ => inferInstanceAs (Decidable True)
  | .finish => inferInstanceAs (Decidable True)
  | .handle => inferInstanceAs (Decidable True)

instance (sys : OutputSystem) (action : OutputAction) :
    Decidable (sys.KeepsLines action) :=
  inferInstanceAs
    (Decidable
      ((∀ batch ∈ sys.sends? action, batch.bytes.getLast? = some 10) ∧ _))

instance (sys : OutputSystem) : Decidable sys.Finished :=
  inferInstanceAs (Decidable (_ ∧ _ ∧ _))

/-- A finished execution is faithful if it sent whole lines and read all. -/
theorem faithful_iff
    {host : LogHost}
    {file : String}
    {sys : OutputSystem}
    (kept : OutputKept host file sys)
    (finished : sys.Finished)
    (silent : sys.written .stderr = []) :
    sys.Faithful file ↔ SentLines sys ∧ ReadToEnd sys := by
  obtain ⟨_, isEnded, isHandled⟩ := finished
  have allStdout :
      sys.sent.filter (fun batch => decide (batch.stream = .stdout)) =
        sys.sent := by
    refine List.filter_eq_self.mpr fun batch member => ?_
    cases isStream : batch.stream with
    | stdout =>
      rfl
    | stderr =>
      have noBytes := kept.onceEach .stderr
      rw [silent, List.take_nil, List.flatMap_eq_nil_iff] at noBytes
      have isStderr :
          batch ∈ sys.sent.filter fun batch =>
            decide (batch.stream = .stderr) :=
        List.mem_filter.mpr ⟨member, decide_eq_true isStream⟩
      exact (batch.nonempty (noBytes batch isStderr)).elim
  have isSent := kept.onceEach .stdout
  rw [allStdout] at isSent
  have readToEnd :
      ReadToEnd sys ↔ sys.sent.flatMap (·.bytes) = sys.written .stdout := by
    unfold ReadToEnd
    rw [isEnded, isSent, List.take_eq_self_iff]
    exact forall_prop_of_true rfl
  have isLogged :
      ((sys.files file).getD "").toList =
        (sys.sent.map (·.bytes)).flatMap fun chunk =>
          lined (Utf8.decode chunk) := by
    obtain ⟨handled, isOnWay, isLogged⟩ := kept.handled
    rw [isHandled, List.append_nil] at isOnWay
    rw [isLogged, ← isOnWay, List.flatMap_map, List.flatMap_map]
    refine List.flatMap_congr fun batch _ => ?_
    exact toList_logText (Utf8.decode batch.bytes)
  have sentLines :
      SentLines sys ↔
        ((sys.files file).getD "").toList =
          Utf8.decode (sys.sent.flatMap (·.bytes)) := by
    have together := flatMap_lined_eq_iff (sys.sent.map (·.bytes))
    rw [← List.flatMap_def, ← isLogged, List.forall_mem_map] at together
    exact together.symm
  rw [sentLines, readToEnd]
  constructor
  · intro faithful
    refine ⟨?_, faithful.once⟩
    rw [faithful.once, faithful.logged, String.toList_ofList]
  · rintro ⟨logged, once⟩
    refine ⟨once, ?_, ?_⟩
    · rw [kept.numbered]
      exact List.pairwise_lt_range'
    · rw [once] at logged
      rw [← logged, String.ofList_toList]

/-- Every execution is faithful to what its script writes. -/
def OutputFaithful (host : LogHost) : Prop :=
  ∀ taskId file actions final,
    host.logFile taskId = some file →
    Run (Fires (OutputSystem.step? host)) { taskId } actions final →
    final.Finished →
    final.written .stderr = [] →
    final.Faithful file

/--
The log of a finished execution holds what its script has written if and only
if every read ended with a newline or found nothing, and nothing was missed.
-/
theorem faithful_iff_keepsLines
    {host : LogHost}
    {taskId file : String}
    {actions : List OutputAction}
    {final : OutputSystem}
    (located : host.logFile taskId = some file)
    (run : Run (Fires (OutputSystem.step? host)) { taskId } actions final)
    (finished : final.Finished)
    (silent : final.written .stderr = []) :
    final.Faithful file ↔
      Run (Guarded (Fires (OutputSystem.step? host)) OutputSystem.KeepsLines)
        { taskId } actions final := by
  have start : OutputKept host file { taskId } :=
    ⟨located, fun _ => le_rfl, fun _ => rfl, rfl, rfl, [], rfl, rfl⟩
  have stepPreserves :
      ∀ earlier before action after,
        Run (Fires (OutputSystem.step? host)) { taskId } earlier before →
        Fires (OutputSystem.step? host) before action after →
        (OutputKept host file before ∧
          (Run (Guarded (Fires (OutputSystem.step? host))
              OutputSystem.KeepsLines) { taskId } earlier before ↔
            SentLines before ∧ ReadToEnd before)) →
        OutputKept host file after ∧
          (Run (Guarded (Fires (OutputSystem.step? host))
              OutputSystem.KeepsLines) { taskId } (earlier ++ [action]) after ↔
            SentLines after ∧ ReadToEnd after) := by
    rintro earlier before action after leading stepped ⟨kept, same⟩
    have effect := effect_of_step stepped
    refine ⟨kept.step effect, ?_⟩
    rw [leading.guarded_concat_iff stepped, same, sentLines_step effect,
      readToEnd_step kept effect]
    exact and_and_and_comm
  have tracked :=
    run.traced stepPreserves ⟨start, iff_of_true (.nil _) ⟨nofun, nofun⟩⟩
  rw [tracked.2]
  exact faithful_iff tracked.1 finished silent

def openHost : LogHost where
  logsDir := "logs"
  locate path := some (Paths.Flavour.posix.text path)

/-- After the script: the process exits, both loops and the last reads find
nothing, and the server handles two events. -/
def drainedActions : List OutputAction :=
  [.exit, .tail .stdout false true, .tail .stdout true true,
    .tail .stdout true true, .tail .stderr false true,
    .tail .stderr true true, .finish, .flush true, .flush true, .handle,
    .handle]

def writesTwice (first second : List UInt8) : List OutputAction :=
  [.write .stdout first, .tail .stdout false true,
    .write .stdout second] ++ drainedActions

/-- An execution is over, and wrote nothing to its standard error. -/
def finishedSilently (sys : OutputSystem) : Bool :=
  decide sys.Finished && decide (sys.written .stderr = [])

/-- Two lines that are read one by one are logged as they are. -/
theorem writesTwice_faithful :
    ∃ final,
      Run
          (Guarded (Fires (OutputSystem.step? openHost))
            OutputSystem.KeepsLines)
          { taskId := "task-1" } (writesTwice [97, 10] [98, 10]) final ∧
        final.Faithful "logs/task-1.log" := by
  obtain ⟨final, run, reached⟩ :=
    exists_run_of_execute
      (show
        (execute
            (checked (OutputSystem.step? openHost) OutputSystem.KeepsLines)
            { taskId := "task-1" }
            (writesTwice [97, 10] [98, 10])).any finishedSilently =
          true by decide)
  obtain ⟨finished, silent⟩ := Bool.and_eq_true_iff.mp reached
  have guarded := run.guarded_of_checked
  refine ⟨final, guarded, ?_⟩
  exact
    (faithful_iff_keepsLines (by decide) guarded.unguarded
      (of_decide_eq_true finished) (of_decide_eq_true silent)).mpr guarded

/-- A character that is read in two halves is logged as two replacements. -/
theorem not_outputFaithful : ¬ OutputFaithful openHost := by
  intro claimed
  obtain ⟨final, run, reached⟩ :=
    exists_run_of_execute
      (show
        (execute (OutputSystem.step? openHost) { taskId := "task-1" }
            (writesTwice [0xC3] [0xA9, 10])).any (fun sys =>
              finishedSilently sys &&
                decide
                  ((sys.files "logs/task-1.log").getD "" ≠
                    String.ofList (Utf8.decode (sys.written .stdout)))) =
          true by decide)
  obtain ⟨isFinished, differs⟩ := Bool.and_eq_true_iff.mp reached
  obtain ⟨finished, silent⟩ := Bool.and_eq_true_iff.mp isFinished
  have faithful :=
    claimed "task-1" "logs/task-1.log" _ final (by decide) run
      (of_decide_eq_true finished) (of_decide_eq_true silent)
  exact of_decide_eq_true differs faithful.logged

end RpaPlatform.Tasks
