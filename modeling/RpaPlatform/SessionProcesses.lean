import RpaPlatform.ManagedProcesses

namespace RpaPlatform.Replica

open Agents (Attempt)

/-!
# The sessions and processes of an agent

`SessionManager`, `UserSession` and `ProcessManager`, as far as they decide
which processes an agent manages and in which session.  Processes are objects:
one may be registered under several pids and in several sessions, so sessions
hold references and the objects are kept beside them.
-/

/-! ### Data -/

/-- A process object. -/
abbrev ProcessRef := Nat

/-- `UserSession`; no pid is registered or has been reported twice. -/
structure UserSession where
  sessionId : Nat
  procs : List (Nat × ProcessRef) := []
  lastReportedPids : List Nat := []
  distinct : (procs.map Prod.fst).Nodup := by exact List.nodup_nil
  distinctReported : lastReportedPids.Nodup := by exact List.nodup_nil

namespace UserSession

variable (session : UserSession)

def pids : List Nat :=
  session.procs.map Prod.fst

/-- `_procs[pid] = process`. -/
def register (pid : Nat) (ref : ProcessRef) : UserSession :=
  { session with
    procs := Dictionary.set pid ref session.procs
    distinct := Dictionary.nodup_keys_set pid ref session.distinct }

/-- The processes that are kept. -/
def keep (kept : Nat × ProcessRef → Bool) : UserSession :=
  { session with
    procs := session.procs.filter kept
    distinct :=
      session.distinct.sublist (List.filter_sublist.map Prod.fst) }

/-- `_procs.pop(pid, None)`. -/
def drop (pid : Nat) : UserSession :=
  session.keep fun entry => entry.1 ≠ pid

end UserSession

/-- The name of a session: its user, but for the system's session. -/
abbrev SessionName := Option String

/-- `SessionManager`, and the process objects there are. -/
structure SessionManager where
  system : UserSession := { sessionId := 0 }
  sessions : List (String × UserSession) := []
  processes : ProcessRef → ManagedProcess := fun _ => {}
  /-- The next process object. -/
  allocated : ProcessRef := 0

namespace SessionManager

variable (manager : SessionManager)

def named : List (SessionName × UserSession) :=
  (none, manager.system) ::
    manager.sessions.map fun entry => (some entry.1, entry.2)

def session? (name : SessionName) : Option UserSession :=
  manager.named.lookup name

/-- Change a session. -/
def modifySession
    (name : SessionName)
    (change : UserSession → UserSession) : SessionManager :=
  match name with
  | none =>
    { manager with system := change manager.system }
  | some username =>
    { manager with
      sessions :=
        manager.sessions.map fun entry =>
          if entry.1 = username then (entry.1, change entry.2)
          else entry }

/-- Change a process object. -/
def modifyProcess
    (ref : ProcessRef)
    (change : ManagedProcess → ManagedProcess) : SessionManager :=
  { manager with
    processes := fun other =>
      if other = ref then change (manager.processes other)
      else manager.processes other }

def allocate (process : ManagedProcess) : SessionManager :=
  { manager.modifyProcess manager.allocated fun _ => process with
    allocated := manager.allocated + 1 }

def pidsIn (name : SessionName) : List Nat :=
  (manager.session? name).elim [] UserSession.pids

def getProcess (name : SessionName) (pid : Nat) : Option ProcessRef :=
  (manager.session? name).bind fun session => session.procs.lookup pid

/-- `on_stop` of a process. -/
def stop (ref : ProcessRef) : SessionManager :=
  manager.modifyProcess ref ManagedProcess.onStop

/-! ### Starting and stopping processes -/

variable (library : SystemLibrary)

/-- `on_start` of a process. -/
def onStart
    (ref : ProcessRef)
    (input : StartInput) : Attempt SessionManager :=
  let started := (manager.processes ref).onStart library input
  { changed := manager.modifyProcess ref fun _ => started.changed
    raised := started.raised }

/-- A process that `CreateProcessAsUser` has created. -/
structure CreatedProcess where
  pid : Nat
  start : StartInput

/-- `start_process`, once `_create_process` has returned. -/
def startProcess
    (name : SessionName)
    (ref : ProcessRef)
    (created : CreatedProcess) : Attempt SessionManager :=
  let manager :=
    manager.modifyProcess ref fun process =>
      { process with pid := created.pid, hasHandle := true }
  let manager :=
    manager.modifySession name fun session =>
      session.register created.pid ref
  manager.onStart library ref created.start

def stopProcess
    (name : SessionName)
    (pid : Nat)
    (force : Bool) : SessionManager :=
  match manager.getProcess name pid with
  | none =>
    manager
  | some ref =>
    let manager :=
      if force && (manager.processes ref).isRunning then manager
      else manager.stop ref
    manager.modifySession name fun session => session.drop pid

def rebindProcess
    (name : SessionName)
    (oldPid newPid : Nat)
    (ref : ProcessRef) : SessionManager :=
  manager.modifySession name fun session =>
    (session.drop oldPid).register newPid ref

/-- The processes of a session that are not monitored are dropped. -/
def stopUnmonitored
    (name : SessionName)
    (dropped : Nat → Bool) : SessionManager :=
  let monitored := fun ref => (manager.processes ref).isMonitored
  let stopped := ((manager.session? name).elim [] (·.procs)).filter
    fun entry => dropped entry.1 && !monitored entry.2
  let manager := stopped.foldl (fun manager entry => manager.stop entry.2)
    manager
  manager.modifySession name fun session =>
    session.keep fun entry => !dropped entry.1 || monitored entry.2

def closeAllProcesses (name : SessionName) : SessionManager :=
  manager.stopUnmonitored name fun _ => true

def reconcileLiveProcesses
    (name : SessionName)
    (livePids : List Nat) : SessionManager :=
  manager.stopUnmonitored name fun pid => pid ∉ livePids

/-! ### Discovering sessions and processes -/

/-- One session of `_refresh_sessions`. -/
def refreshSession
    (sessionId : Nat)
    (username : Option String) : SessionManager :=
  if sessionId ∈ [0, 65536, 65537] then
    manager
  else
    match username with
    | none =>
      manager
    | some username =>
      if username = "" then
        manager
      else
        match manager.session? (some username) with
        | none =>
          { manager with
            sessions :=
              manager.sessions ++ [(username, { sessionId })] }
        | some session =>
          if session.sessionId ≠ sessionId then
            (manager.modifySession (some username) fun session =>
              { session with sessionId }).closeAllProcesses (some username)
          else
            manager

/-- What is found of a pid that runs. -/
structure DiscoveredPid where
  pid : Nat
  /-- `ProcessIdToSessionId`, which may raise. -/
  sessionId : Option Nat
  start : StartInput
  nextUpdateLogicTime : Int := 0

def sessionOf (sessionId : Nat) : SessionName :=
  ((manager.sessions.filter fun entry =>
    entry.2.sessionId = sessionId).getLast?).map Prod.fst

/-- One pid of `discover_processes_per_session`. -/
def discoverPid
    (managedPids : List Nat)
    (manager : SessionManager)
    (found : DiscoveredPid) : SessionManager :=
  if found.pid ∈ managedPids then
    manager
  else
    match found.sessionId with
    | none =>
      manager
    | some sessionId =>
      let name := manager.sessionOf sessionId
      if found.pid ∈ manager.pidsIn name then
        manager
      else
        let ref := manager.allocated
        let process :=
          (ManagedProcess.create library "unknown" "" ""
            found.nextUpdateLogicTime)
        let manager :=
          manager.allocate { process with pid := found.pid, itChange := true }
        let manager :=
          manager.modifySession name fun session =>
            session.register found.pid ref
        (manager.onStart library ref found.start).changed

def discoverProcessesPerSession
    (found : List DiscoveredPid) : SessionManager :=
  let pids := found.map DiscoveredPid.pid
  let reconciled :=
    (manager.named.map Prod.fst).foldl
      (fun manager name => manager.reconcileLiveProcesses name pids)
      manager
  let managedPids := reconciled.named.flatMap fun entry => entry.2.pids
  found.foldl (discoverPid library managedPids) reconciled

/-! ### Monitored processes -/

/-- `on_start` of a monitored process; enumerating pids may raise. -/
def onStartMonitored
    (ref : ProcessRef)
    (input : StartInput)
    (found : Option (List DiscoveredPid)) : Attempt SessionManager :=
  let started := manager.onStart library ref input
  if started.raised then
    started
  else
    let manager :=
      started.changed.modifyProcess ref fun process =>
        { process with downTime := 0 }
    match found with
    | none =>
      { changed := manager, raised := true }
    | some found =>
      { changed := manager.discoverProcessesPerSession library found
        raised := false }

/-- `start_process` of a monitored process. -/
def startMonitored
    (name : SessionName)
    (ref : ProcessRef)
    (created : CreatedProcess)
    (found : Option (List DiscoveredPid)) : Attempt SessionManager :=
  let manager :=
    manager.modifyProcess ref fun process =>
      { process with pid := created.pid, hasHandle := true }
  let manager :=
    manager.modifySession name fun session =>
      session.register created.pid ref
  manager.onStartMonitored library ref created.start found

/-- What the system says while a monitored process is restarted. -/
structure RestartInput where
  /-- `EnumProcesses` may raise. -/
  found : Option (List DiscoveredPid) := some []
  /-- `_create_process` may raise. -/
  created : Option CreatedProcess
  foundAfter : Option (List DiscoveredPid) := some []

def agentMarker : String :=
  "--agent_id_1234"

def contains (text part : String) : Bool :=
  decide (part.toList <:+: text.toList)

/-- A process that a monitored process is bound to. -/
def replaces (process other : ManagedProcess) : Bool :=
  library.lower other.info.exe = library.lower process.info.exe &&
    other.pid ≠ process.pid && other.isRunning &&
    contains other.info.args agentMarker

/-- `on_restart` of a monitored process. -/
def onRestart
    (name : SessionName)
    (ref : ProcessRef)
    (input : RestartInput) : Attempt SessionManager :=
  match input.found with
  | none =>
    { changed := manager, raised := true }
  | some found =>
    let manager := manager.discoverProcessesPerSession library found
    let process := manager.processes ref
    let registered := (manager.session? name).elim [] (·.procs)
    match registered.find? fun entry =>
        replaces library process (manager.processes entry.2) with
    | some (_, other) =>
      let newPid := (manager.processes other).pid
      let manager :=
        manager.modifyProcess ref fun process => process.setPid newPid
      { changed :=
          manager.rebindProcess name process.pid newPid ref
        raised := false }
    | none =>
      match input.created with
      | none =>
        { changed := manager, raised := true }
      | some created =>
        let started :=
          manager.startMonitored library name ref created input.foundAfter
        if started.raised then
          started
        else
          { changed :=
              started.changed.rebindProcess name process.pid
                (started.changed.processes ref).pid ref
            raised := false }

def runsSame (process other : ManagedProcess) : Bool :=
  other.info.exe = process.info.exe && other.isRunning &&
    other.info.args = process.info.args

def tryRestartProcess
    (name : SessionName)
    (pid : Nat)
    (input : RestartInput) : SessionManager :=
  match manager.getProcess name pid with
  | none =>
    manager
  | some ref =>
    let process := manager.processes ref
    let registered := (manager.session? name).elim [] (·.procs)
    if !process.isMonitored || process.isRunning then
      manager
    else
      match registered.find? fun entry =>
          runsSame process (manager.processes entry.2) with
      | some (_, other) =>
        manager.modifyProcess ref fun process =>
          process.setPid (manager.processes other).pid
      | none =>
        match input.created with
        | none =>
          manager
        | some created =>
          let started :=
            manager.startMonitored library name ref created input.foundAfter
          if started.raised then
            started.changed
          else
            started.changed.modifyProcess ref fun process =>
              { process with downTime := 0 }

/-! ### Ticks -/

/-- One process of `ProcessManager.on_start`. -/
def startRegistered
    (name : SessionName)
    (pid : Nat)
    (input : StartInput)
    (restart : RestartInput) : SessionManager :=
  match manager.getProcess name pid with
  | none =>
    manager
  | some ref =>
    let process := manager.processes ref
    if process.isRunning then
      manager
    else if process.isMonitored then
      manager.tryRestartProcess library name pid restart
    else
      (manager.onStart library ref input).changed

/-- A process that is down is restarted after a while. -/
def restartProcess
    (name : SessionName)
    (ref : ProcessRef)
    (input : RestartInput) : SessionManager :=
  let manager :=
    manager.modifyProcess ref fun process =>
      { process with status := some .restarting }
  let restarted := manager.onRestart library name ref input
  if restarted.raised then
    restarted.changed.modifyProcess ref fun process =>
      { process with status := some .failed }
  else
    restarted.changed

/-- One process of `ProcessManager.on_tick`. -/
def tickProcess
    (name : SessionName)
    (ref : ProcessRef)
    (input : TickInput)
    (restart : RestartInput) : SessionManager :=
  let before := manager.processes ref
  let process := before.onTick input
  let manager := manager.modifyProcess ref fun _ => process
  let dropped :=
    (manager.stop ref).modifySession name fun session =>
      session.drop process.pid
  if before.status = some .accessDenied then
    if 60 < process.downTime then dropped else manager
  else if process.pid ∉ manager.pidsIn name then
    manager
  else if process.isRunning then
    manager
  else if !process.isMonitored then
    dropped
  else if 5 ≤ process.downTime ∧ process.status ≠ some .accessDenied then
    manager.restartProcess library name ref restart
  else
    manager

/-! ### Windows -/

/-- What a snapshot says of a pid. -/
structure WindowData where
  windowKind : String := ""
  windowTitle : String := ""
  hwnd : Option Int := none
  windows : List WindowInfo := []

/-- The snapshot and the processes it is applied to. -/
structure WindowSnapshot where
  windowMap : List (Nat × WindowData)
  processMap : List (Nat × ManagedProcess)

namespace WindowSnapshot

variable (snapshot : WindowSnapshot)

/-- The console hosts that have a window, by their parents. -/
def consoleHostByParent : List (Nat × Nat) :=
  snapshot.processMap.foldl
    (fun hosts entry =>
      match entry.2.info.ppid with
      | none =>
        hosts
      | some ppid =>
        if library.lower entry.2.info.exe = "conhost.exe" &&
            (snapshot.processMap.lookup ppid).isSome &&
            (snapshot.windowMap.lookup entry.1).isSome then
          Dictionary.set ppid entry.1 hosts
        else
          hosts)
    []

/--
Look for a console host among a process and its ancestors.  No process is
visited twice, so the number of processes bounds the steps.
-/
def findConsoleHost
    (visited : List Nat)
    (pid : Nat) : Nat → Option Nat
  | 0 =>
    none
  | steps + 1 =>
    if pid ∈ visited then
      none
    else
      match (snapshot.consoleHostByParent library).lookup pid with
      | some host =>
        some host
      | none =>
        match (snapshot.processMap.lookup pid).bind (·.info.ppid) with
        | none =>
          none
        | some ppid =>
          findConsoleHost (pid :: visited) ppid steps

def resolveCaptureTarget (pid : Nat) : Option Nat × String :=
  match snapshot.windowMap.lookup pid with
  | some data =>
    if data.windowKind = "child-window" then
      (some pid, "child-window")
    else
      (some pid, "direct-window")
  | none =>
    match snapshot.findConsoleHost library [] pid
        (snapshot.processMap.length + 2) with
    | some host =>
      (some host, "console-host")
    | none =>
      (none, "")

/-- What the snapshot says of a process. -/
def windowFields (pid : Nat) : WindowFields :=
  let target := snapshot.resolveCaptureTarget library pid
  let data : WindowData :=
    (target.1.bind fun pid => snapshot.windowMap.lookup pid).getD {}
  { hasWindow := some target.1.isSome
    windowTitle := data.windowTitle
    windowHwnd := data.hwnd
    windows := data.windows
    captureTargetPid := target.1
    captureTargetKind := target.2 }

end WindowSnapshot

/-- The process changes if its windows do. -/
def setWindow
    (window : WindowFields)
    (process : ManagedProcess) : ManagedProcess :=
  if process.info.window = window then
    process
  else
    { process with
      info := { process.info with window }
      itChange := true }

def applyWindowSnapshot
    (name : SessionName)
    (windowMap : List (Nat × WindowData)) : SessionManager :=
  let registered := (manager.session? name).elim [] (·.procs)
  let processMap :=
    registered.foldl
      (fun refs entry =>
        Dictionary.set (manager.processes entry.2).pid entry.2 refs)
      ([] : List (Nat × ProcessRef))
  let snapshot : WindowSnapshot :=
    { windowMap
      processMap :=
        processMap.map fun entry => (entry.1, manager.processes entry.2) }
  processMap.foldl
    (fun manager entry =>
      manager.modifyProcess entry.2
        (setWindow (snapshot.windowFields library entry.1)))
    manager

end SessionManager

end RpaPlatform.Replica
