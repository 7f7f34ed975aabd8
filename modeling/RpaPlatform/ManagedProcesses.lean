import RpaPlatform.AgentRuntime

namespace RpaPlatform.Replica

open Agents (JsonObject Attempt)
open Tasks (Json)

/-!
# Managed processes

`AbstractProcess`, as far as what the agent reports of a process depends on
it.  A flag that is reset by every tick decides whether a process is reported
in a difference at all, and what was reported last decides which of its fields
are.
-/

/-! ### Data -/

inductive ProcessStatus where
  | unknown
  | accessDenied
  | restarting
  | running
  | success
  | failed
  | fileNotFound
  | timeOut
  | authError
  | brokenPipe
  | notepadFileError
deriving DecidableEq

namespace ProcessStatus

def value : ProcessStatus → Int
  | unknown => -1
  | accessDenied => 5
  | restarting => -9999
  | running => 259
  | success => 0
  | failed => 1
  | fileNotFound => 2
  | timeOut => 1067
  | authError => 128
  | brokenPipe => 109
  | notepadFileError => 459998

def all : List ProcessStatus :=
  [unknown, accessDenied, restarting, running, success, failed,
    fileNotFound, timeOut, authError, brokenPipe, notepadFileError]

def ofValue? (value : Int) : Option ProcessStatus :=
  all.find? fun status => status.value = value

end ProcessStatus

/-- What has been read and written; rates are known by their `repr`. -/
structure IoCounters where
  readBytes : Nat := 0
  writeBytes : Nat := 0
  otherBytes : Nat := 0
  readBps : String := "0.0"
  writeBps : String := "0.0"
  otherBps : String := "0.0"
deriving DecidableEq

/--
`ProcessTelemetry`; the processor's usage is known by its `repr`, and an exit
code by its value.
-/
structure ProcessTelemetry where
  pid : Int
  cpuUsage : String := "0.0"
  workingSet : Nat := 0
  privateBytes : Nat := 0
  handleCount : Nat := 0
  exitCode : Option Int := none
  ioCounters : IoCounters := {}
deriving DecidableEq

/-- `WindowSnapshotEntry`, as it is serialized. -/
structure WindowInfo where
  hwnd : Int
  windowTitle : Option String := none
  windowClass : Option String := none
  windowKind : String
  width : Int
  height : Int
  isPrimary : Bool
deriving DecidableEq

/-- The fields of `ProcessInfo` that a window snapshot sets. -/
structure WindowFields where
  hasWindow : Option Bool := none
  windowTitle : String := ""
  windowHwnd : Option Int := none
  windows : List WindowInfo := []
  captureTargetPid : Option Nat := none
  captureTargetKind : String := ""
deriving DecidableEq

/-- `ProcessInfo`, but for the pid; times are known by their `repr`. -/
structure ProcessInfo where
  ppid : Option Nat := none
  exe : String := ""
  exePath : String := ""
  imagePath : String := ""
  cmd : String := ""
  args : String := ""
  cwd : String := ""
  user : String := ""
  sessionId : Int := -1
  creationTime : String := "0.0"
  window : WindowFields := {}
deriving DecidableEq

/-- `AbstractProcess`; a `ManagedTask` is one that has a task. -/
structure ManagedProcess where
  /-- The pid, once there is one. -/
  pid : Nat := 0
  info : ProcessInfo := {}
  telemetry : Option ProcessTelemetry := none
  lastSendState : Option ProcessTelemetry := none
  status : Option ProcessStatus := none
  itChange : Bool := false
  downTime : Nat := 0
  isMonitored : Bool := false
  hasHandle : Bool := false
  nextUpdateLogicTime : Int := 0
  taskId : Option String := none

/-! ### What the system says -/

/-- The library functions that handle texts and paths. -/
structure SystemLibrary where
  lower : String → String
  strip : String → String
  join : String → String → String
  basename : String → String
  dirname : String → String

/-- What a tick reads of a process; reading the exit code may raise. -/
structure TickInput where
  now : Int
  exitCode : Option Int
  /-- `get_telemetry`: it raises, or gives nothing, or telemetry. -/
  telemetry : Option (Option ProcessTelemetry)

/-- How `OpenProcess` ends. -/
inductive Opening where
  | accessDenied
  | failed
  | opened
deriving DecidableEq

/-- What is read of a process when it starts. -/
structure StartInput where
  opening : Opening := .opened
  /-- `get_full_info`, which may raise or give no telemetry. -/
  full : Option (ProcessInfo × Option ProcessTelemetry)
  exitCode : Option Int := none

def ProcessInfo.getCmd
    (library : SystemLibrary)
    (info : ProcessInfo) : String :=
  let exeFull :=
    if info.imagePath ≠ "" ∧ ¬info.imagePath.startsWith "\\Device\\" then
      info.imagePath
    else if info.exePath ≠ "" then
      library.join info.exePath info.exe
    else
      info.exe
  let cmd := "\"" ++ exeFull ++ "\""
  library.strip (if info.args ≠ "" then cmd ++ " " ++ info.args else cmd)

/-- The command line is filled in where there is none. -/
def ProcessInfo.withCmd
    (library : SystemLibrary)
    (info : ProcessInfo) : ProcessInfo :=
  if info.cmd = "" then { info with cmd := info.getCmd library } else info

namespace ManagedProcess

variable (process : ManagedProcess)

def isRunning : Bool :=
  process.status = some .running

def setState (status : ProcessStatus) : ManagedProcess :=
  if process.status = some status then
    process
  else if process.status = some .accessDenied then
    { process with itChange := false }
  else
    { process with itChange := true, status := some status }

/-- `get_exit_code`, given that of the system; it may raise. -/
def exitCode? (ofSystem : Option Int) : Option Int :=
  if process.status = some .accessDenied then
    some ProcessStatus.accessDenied.value
  else if process.hasHandle then
    ofSystem
  else
    some ProcessStatus.failed.value

def checkState (exitCode : Option Int) : ManagedProcess :=
  match (process.exitCode? exitCode).bind ProcessStatus.ofValue? with
  | some status => process.setState status
  | none => process.setState .unknown

def ensureFallbackTelemetry (exitCode : Option Int) : ManagedProcess :=
  let known := process.telemetry.getD { pid := process.pid }
  { process with
    telemetry :=
      some
        { known with
          pid := process.pid
          exitCode :=
            (process.exitCode? exitCode).or
              (process.status.map ProcessStatus.value) }
    itChange := true }

/-- The fallback, unless there is telemetry. -/
def withTelemetry (exitCode : Option Int) : ManagedProcess :=
  if process.telemetry.isNone then
    process.ensureFallbackTelemetry exitCode
  else
    process

def markAccessDenied : ManagedProcess :=
  let unknown := "<Unknown - Access Denied>"
  { process with
    info :=
      { process.info with
        exe := if process.info.exe = "" then unknown else process.info.exe
        exePath :=
          if process.info.exePath = "" then unknown
          else process.info.exePath
        user :=
          if process.info.user = "" then "unknown" else process.info.user }
    telemetry :=
      some
        { pid := if process.pid = 0 then -1 else process.pid
          exitCode := some ProcessStatus.accessDenied.value }
    itChange := true }

/-- `set_pid`; the handle is closed. -/
def setPid (pid : Nat) : ManagedProcess :=
  if process.pid = pid then
    process
  else
    { process with pid, itChange := true, hasHandle := false }

/-- `AbstractProcess(exe, args, cwd, …)`. -/
def create
    (library : SystemLibrary)
    (exe args cwd : String)
    (nextUpdateLogicTime : Int) : ManagedProcess where
  info :=
    { exe := library.basename exe
      exePath := library.dirname exe
      cmd :=
        if args ≠ "" then
          library.strip ("\"" ++ exe ++ "\" " ++ args)
        else
          "\"" ++ exe ++ "\""
      args
      cwd := if cwd ≠ "" then cwd else library.dirname exe }
  nextUpdateLogicTime := nextUpdateLogicTime

/-- The telemetry could not be read when the process was started. -/
def startWithout
    (library : SystemLibrary)
    (exitCode : Option Int) : Attempt ManagedProcess :=
  let fallback :=
    { process with
      info := process.info.withCmd library }.ensureFallbackTelemetry
        exitCode
  match fallback.exitCode? exitCode with
  | none =>
    { changed := fallback, raised := true }
  | some code =>
    { changed :=
        fallback.setState
          (if code = ProcessStatus.running.value then .running
          else .failed)
      raised := false }

def onStart
    (library : SystemLibrary)
    (input : StartInput) : Attempt ManagedProcess :=
  if !process.hasHandle && input.opening = .accessDenied then
    { changed := process.markAccessDenied.setState .accessDenied
      raised := false }
  else if !process.hasHandle && input.opening = .failed then
    { changed := process.setState .failed, raised := false }
  else
    let opened := { process with hasHandle := true }
    match input.full with
    | some (info, telemetry) =>
      let started :=
        { opened with
          info := info.withCmd library
          telemetry }.setState .running
      { changed := { started with itChange := true }, raised := false }
    | none =>
      opened.startWithout library input.exitCode

/-- `on_stop`; that of a monitored process closes nothing. -/
def onStop : ManagedProcess :=
  if process.isMonitored then process
  else { process with hasHandle := false }

def onTick (input : TickInput) : ManagedProcess :=
  let checked :=
    { process with itChange := false }.checkState input.exitCode
  if checked.status = some .accessDenied then
    { checked with itChange := false, downTime := checked.downTime + 1 }
  else if !checked.isRunning && checked.isMonitored then
    { checked with downTime := checked.downTime + 1 }
  else if checked.nextUpdateLogicTime ≤ input.now then
    let updated := { checked with nextUpdateLogicTime := input.now + 1 }
    match if updated.hasHandle then input.telemetry else none with
    | some (some new) =>
      if some new ≠ updated.lastSendState then
        { updated with telemetry := some new, itChange := true }
      else
        updated
    | _ => updated.withTelemetry input.exitCode
  else
    checked

end ManagedProcess

/-! ### Reports -/

namespace IoCounters

def toJson (counters : IoCounters) : Json :=
  .obj
    [("read_bytes", .num counters.readBytes),
      ("write_bytes", .num counters.writeBytes),
      ("other_bytes", .num counters.otherBytes),
      ("read_bps", .float counters.readBps),
      ("write_bps", .float counters.writeBps),
      ("other_bps", .float counters.otherBps)]

end IoCounters

def optionJson {Value : Type} (toJson : Value → Json) :
    Option Value → Json
  | none => .null
  | some value => toJson value

def natJson (value : Nat) : Json :=
  .num value

def WindowInfo.toJson (window : WindowInfo) : Json :=
  .obj
    [("hwnd", .num window.hwnd),
      ("window_title", optionJson Json.str window.windowTitle),
      ("window_class", optionJson Json.str window.windowClass),
      ("window_kind", .str window.windowKind),
      ("width", .num window.width),
      ("height", .num window.height),
      ("is_primary", .bool window.isPrimary)]

/-- The fields that are sent with the first report of a process. -/
def ProcessInfo.fields (info : ProcessInfo) (isMonitored : Bool) :
    JsonObject :=
  [("exe", .str info.exe),
    ("exe_path", .str info.exePath),
    ("args", .str info.args),
    ("cmd", .str info.cmd),
    ("cwd", .str info.cwd),
    ("user", .str info.user),
    ("ppid", optionJson natJson info.ppid),
    ("sessionid", .num info.sessionId),
    ("creation_time", .float info.creationTime),
    ("is_monitored", .bool isMonitored),
    ("has_window", optionJson Json.bool info.window.hasWindow),
    ("window_title", .str info.window.windowTitle),
    ("window_hwnd", optionJson Json.num info.window.windowHwnd),
    ("windows", .arr (info.window.windows.map WindowInfo.toJson)),
    ("capture_target_pid", optionJson natJson info.window.captureTargetPid),
    ("capture_target_kind", .str info.window.captureTargetKind)]

namespace ProcessTelemetry

def memoryUsage (telemetry : ProcessTelemetry) : Json :=
  .obj
    [("working_set_size", natJson telemetry.workingSet),
      ("private_bytes", natJson telemetry.privateBytes)]

/-- All fields of telemetry. -/
def fields (telemetry : ProcessTelemetry) : JsonObject :=
  [("cpu_usage", .float telemetry.cpuUsage),
    ("memory_usage", telemetry.memoryUsage),
    ("handle_count", natJson telemetry.handleCount),
    ("io_counters", telemetry.ioCounters.toJson),
    ("exit_code", optionJson Json.num telemetry.exitCode)]

def changed (key : String) (isSame : Bool) (value : Json) : JsonObject :=
  if isSame then [] else [(key, value)]

/-- The fields in which telemetry differs from what was sent last. -/
def changes (telemetry last : ProcessTelemetry) : JsonObject :=
  changed "cpu_usage" (telemetry.cpuUsage = last.cpuUsage)
      (.float telemetry.cpuUsage) ++
    changed "memory_usage"
      (telemetry.workingSet = last.workingSet ∧
        telemetry.privateBytes = last.privateBytes)
      telemetry.memoryUsage ++
    changed "handle_count" (telemetry.handleCount = last.handleCount)
      (natJson telemetry.handleCount) ++
    changed "io_counters" (telemetry.ioCounters = last.ioCounters)
      telemetry.ioCounters.toJson ++
    changed "exit_code" (telemetry.exitCode = last.exitCode)
      (optionJson Json.num telemetry.exitCode)

end ProcessTelemetry

namespace ManagedProcess

/-- What is sent of a process that has telemetry. -/
def delta
    (process : ManagedProcess)
    (telemetry : ProcessTelemetry)
    (sync : Bool) : JsonObject :=
  let last := if sync then none else process.lastSendState
  let infoFields :=
    if last.isNone then process.info.fields process.isMonitored else []
  let telemetryFields :=
    match last with
    | none => telemetry.fields
    | some last => telemetry.changes last
  ("pid", natJson process.pid) :: infoFields ++ telemetryFields ++
    [("is_running", .bool process.isRunning)] ++
    (process.taskId.map fun taskId => ("task_id", .str taskId)).toList

/--
`to_json_only_change`: what is sent, if anything, and the process that
remembers it.
-/
def toJsonOnlyChange
    (process : ManagedProcess)
    (exitCode : Option Int)
    (sync : Bool) : Option JsonObject × ManagedProcess :=
  let ready := process.withTelemetry exitCode
  match ready.telemetry with
  | none => (none, ready)
  | some telemetry =>
    if !sync && !ready.itChange then
      (none, ready)
    else
      (some (ready.delta telemetry sync),
        { ready with lastSendState := ready.telemetry })

end ManagedProcess

end RpaPlatform.Replica
