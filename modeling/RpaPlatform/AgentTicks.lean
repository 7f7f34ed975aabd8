import RpaPlatform.SessionProcesses

namespace RpaPlatform.Replica

open Agents (Attempt)

/-!
# What an agent does between two heartbeats

Sessions are discovered and change their ids; processes start, tick, are
restarted and stop; windows are looked at.  Whatever is done, sessions are
only added, and what a session has reported last is left alone: a report is
all that changes it.
-/

namespace SessionManager

/-! ### Actions -/

/-- What a program is started as. -/
inductive ProgramKind where
  | plain
  | monitored
  | task (taskId : String)

/-- A program that is to be started. -/
structure Program where
  kind : ProgramKind := .plain
  exe : String
  args : String := ""
  cwd : String := ""
  nextUpdateLogicTime : Int := 0

variable (library : SystemLibrary)

/-- The constructors of the process classes. -/
def Program.process (program : Program) : ManagedProcess :=
  let process :=
    ManagedProcess.create library program.exe program.args program.cwd
      program.nextUpdateLogicTime
  match program.kind with
  | .plain =>
    process
  | .task taskId =>
    { process with taskId := some taskId }
  | .monitored =>
    let args := process.info.args
    { process with
      isMonitored := true
      info :=
        { process.info with
          args :=
            if process.info.exe = "notepad.exe" then args
            else if args ≠ "" then args ++ " " ++ agentMarker
            else agentMarker } }

variable (manager : SessionManager)

/-- Start a program in a session. -/
def startProgram
    (name : SessionName)
    (program : Program)
    (created : CreatedProcess)
    (found : Option (List DiscoveredPid)) : SessionManager :=
  let ref := manager.allocated
  let manager := manager.allocate (program.process library)
  match program.kind with
  | .monitored =>
    (manager.startMonitored library name ref created found).changed
  | _ =>
    (manager.startProcess library name ref created).changed

/-- Start one process in some sessions, until that raises. -/
def startIn
    (ref : ProcessRef)
    (manager : SessionManager) :
    List (SessionName × CreatedProcess) → SessionManager
  | [] =>
    manager
  | (name, created) :: rest =>
    let started := manager.startProcess library name ref created
    if started.raised then started.changed
    else startIn ref started.changed rest

def logonProgram : Program where
  exe := "c:\\windows\\system32\\rundll32.exe"
  args := "user32.dll,LockWorkStation"

/-- `_login_user_session`, which starts one process in all sessions. -/
def loginUserSession
    (active : List (SessionName × CreatedProcess)) : SessionManager :=
  (manager.allocate (logonProgram.process library)).startIn library
    manager.allocated active

end SessionManager

/--
What an agent does.  The loops over sessions, processes and pids take one
action for each of them, so that ticks may be interleaved in any order.
-/
inductive AgentAction where
  | refresh (sessionId : Nat) (username : Option String)
  | discover (found : List SessionManager.DiscoveredPid)
  | startRegistered
      (name : SessionName)
      (pid : Nat)
      (input : StartInput)
      (restart : SessionManager.RestartInput)
  | tick
      (name : SessionName)
      (ref : ProcessRef)
      (input : TickInput)
      (restart : SessionManager.RestartInput)
  | start
      (name : SessionName)
      (program : SessionManager.Program)
      (created : SessionManager.CreatedProcess)
      (found : Option (List SessionManager.DiscoveredPid))
  | login (active : List (SessionName × SessionManager.CreatedProcess))
  | stop (name : SessionName) (pid : Nat) (force : Bool)
  | windows
      (name : SessionName)
      (windowMap : List (Nat × SessionManager.WindowData))

namespace SessionManager

/-- Take an action. -/
def act
    (library : SystemLibrary)
    (manager : SessionManager) : AgentAction → SessionManager
  | .refresh sessionId username =>
    manager.refreshSession sessionId username
  | .discover found =>
    manager.discoverProcessesPerSession library found
  | .startRegistered name pid input restart =>
    manager.startRegistered library name pid input restart
  | .tick name ref input restart =>
    manager.tickProcess library name ref input restart
  | .start name program created found =>
    manager.startProgram library name program created found
  | .login active =>
    manager.loginUserSession library active
  | .stop name pid force =>
    manager.stopProcess name pid force
  | .windows name windowMap =>
    manager.applyWindowSnapshot library name windowMap

/-! ### What has been reported is kept -/

def reportedPids (manager : SessionManager) : List (List Nat) :=
  manager.named.map fun entry => entry.2.lastReportedPids

section Frames

variable (manager : SessionManager)

@[simp]
theorem reportedPids_modifyProcess
    (ref : ProcessRef)
    (change : ManagedProcess → ManagedProcess) :
    (manager.modifyProcess ref change).reportedPids = manager.reportedPids :=
  rfl

@[simp]
theorem reportedPids_allocate (process : ManagedProcess) :
    (manager.allocate process).reportedPids = manager.reportedPids :=
  rfl

@[simp]
theorem reportedPids_stop (ref : ProcessRef) :
    (manager.stop ref).reportedPids = manager.reportedPids :=
  rfl

theorem reportedPids_modifySession
    (name : SessionName)
    {change : UserSession → UserSession}
    (leaves :
      ∀ session, (change session).lastReportedPids = session.lastReportedPids) :
    (manager.modifySession name change).reportedPids =
      manager.reportedPids := by
  cases name with
  | none =>
    simp [reportedPids, named, modifySession, leaves]
  | some username =>
    have kept :
        ∀ entry : String × UserSession,
          (if entry.1 = username then (entry.1, change entry.2)
            else entry).2.lastReportedPids =
            entry.2.lastReportedPids := by
      intro entry
      split
      · exact leaves entry.2
      · rfl
    simp [reportedPids, named, modifySession, Function.comp_def, kept]

theorem reportedPids_foldl
    {Item : Type}
    {change : SessionManager → Item → SessionManager}
    (leaves :
      ∀ manager item, (change manager item).reportedPids = manager.reportedPids)
    (items : List Item) :
    (items.foldl change manager).reportedPids = manager.reportedPids := by
  induction items generalizing manager with
  | nil =>
    rfl
  | cons item rest inductionHypothesis =>
    exact (inductionHypothesis _).trans (leaves manager item)

@[simp]
theorem reportedPids_register
    (name : SessionName)
    (pid : Nat)
    (ref : ProcessRef) :
    (manager.modifySession name fun session =>
        session.register pid ref).reportedPids = manager.reportedPids :=
  manager.reportedPids_modifySession name fun _ => rfl

@[simp]
theorem reportedPids_drop (name : SessionName) (pid : Nat) :
    (manager.modifySession name fun session =>
        session.drop pid).reportedPids = manager.reportedPids :=
  manager.reportedPids_modifySession name fun _ => rfl

variable (library : SystemLibrary)

@[simp]
theorem reportedPids_onStart (ref : ProcessRef) (input : StartInput) :
    (manager.onStart library ref input).changed.reportedPids =
      manager.reportedPids :=
  rfl

@[simp]
theorem reportedPids_startProcess
    (name : SessionName)
    (ref : ProcessRef)
    (created : CreatedProcess) :
    (manager.startProcess library name ref created).changed.reportedPids =
      manager.reportedPids := by
  simp [startProcess]

@[simp]
theorem reportedPids_stopProcess
    (name : SessionName)
    (pid : Nat)
    (force : Bool) :
    (manager.stopProcess name pid force).reportedPids =
      manager.reportedPids := by
  unfold stopProcess
  split
  · rfl
  · rw [reportedPids_drop]
    split <;> rfl

@[simp]
theorem reportedPids_rebindProcess
    (name : SessionName)
    (oldPid newPid : Nat)
    (ref : ProcessRef) :
    (manager.rebindProcess name oldPid newPid ref).reportedPids =
      manager.reportedPids :=
  manager.reportedPids_modifySession name fun _ => rfl

@[simp]
theorem reportedPids_stopUnmonitored
    (name : SessionName)
    (dropped : Nat → Bool) :
    (manager.stopUnmonitored name dropped).reportedPids =
      manager.reportedPids := by
  unfold stopUnmonitored
  dsimp only
  rw [reportedPids_modifySession]
  · rw [reportedPids_foldl]
    exact fun manager entry => manager.reportedPids_stop entry.2
  · exact fun _ => rfl

@[simp]
theorem reportedPids_discoverPid
    (managedPids : List Nat)
    (found : DiscoveredPid) :
    (discoverPid library managedPids manager found).reportedPids =
      manager.reportedPids := by
  unfold discoverPid
  split
  · rfl
  · split
    · rfl
    · dsimp only
      split
      · rfl
      · simp

@[simp]
theorem reportedPids_discoverProcessesPerSession
    (found : List DiscoveredPid) :
    (manager.discoverProcessesPerSession library found).reportedPids =
      manager.reportedPids := by
  unfold discoverProcessesPerSession
  dsimp only
  rw [reportedPids_foldl]
  · exact
      manager.reportedPids_foldl
        (fun manager name => manager.reportedPids_stopUnmonitored name _) _
  · exact fun manager => manager.reportedPids_discoverPid library _

section Ticks

variable
    (name : SessionName)
include name

@[simp]
theorem reportedPids_startMonitored
    (ref : ProcessRef)
    (created : CreatedProcess)
    (found : Option (List DiscoveredPid)) :
    (manager.startMonitored library name ref created
        found).changed.reportedPids = manager.reportedPids := by
  unfold startMonitored onStartMonitored
  dsimp only
  split
  · simp
  · split <;> simp

@[simp]
theorem reportedPids_onRestart
    (ref : ProcessRef)
    (input : RestartInput) :
    (manager.onRestart library name ref input).changed.reportedPids =
      manager.reportedPids := by
  unfold onRestart
  split
  · rfl
  · dsimp only
    split
    · simp
    · split
      · simp
      · split <;> simp

@[simp]
theorem reportedPids_tryRestartProcess
    (pid : Nat)
    (input : RestartInput) :
    (manager.tryRestartProcess library name pid input).reportedPids =
      manager.reportedPids := by
  unfold tryRestartProcess
  split
  · rfl
  · dsimp only
    split
    · rfl
    · split
      · simp
      · split
        · rfl
        · split <;> simp

@[simp]
theorem reportedPids_startRegistered
    (pid : Nat)
    (input : StartInput)
    (restart : RestartInput) :
    (manager.startRegistered library name pid input restart).reportedPids =
      manager.reportedPids := by
  unfold startRegistered
  split
  · rfl
  · dsimp only
    split
    · rfl
    · split <;> simp

@[simp]
theorem reportedPids_restartProcess
    (ref : ProcessRef)
    (input : RestartInput) :
    (manager.restartProcess library name ref input).reportedPids =
      manager.reportedPids := by
  unfold restartProcess
  dsimp only
  split <;> simp

@[simp]
theorem reportedPids_tickProcess
    (ref : ProcessRef)
    (input : TickInput)
    (restart : RestartInput) :
    (manager.tickProcess library name ref input restart).reportedPids =
      manager.reportedPids := by
  unfold tickProcess
  dsimp only
  split
  · split <;> simp
  · split
    · simp
    · split
      · simp
      · split
        · simp
        · split <;> simp

@[simp]
theorem reportedPids_startProgram
    (program : Program)
    (created : CreatedProcess)
    (found : Option (List DiscoveredPid)) :
    (manager.startProgram library name program created
        found).reportedPids = manager.reportedPids := by
  unfold startProgram
  dsimp only
  split <;> simp

end Ticks

@[simp]
theorem reportedPids_startIn
    (ref : ProcessRef)
    (active : List (SessionName × CreatedProcess)) :
    (manager.startIn library ref active).reportedPids =
      manager.reportedPids := by
  induction active generalizing manager with
  | nil =>
    rfl
  | cons first rest inductionHypothesis =>
    unfold startIn
    dsimp only
    split
    · simp
    · rw [inductionHypothesis]
      simp

@[simp]
theorem reportedPids_applyWindowSnapshot
    (name : SessionName)
    (windowMap : List (Nat × WindowData)) :
    (manager.applyWindowSnapshot library name windowMap).reportedPids =
      manager.reportedPids := by
  unfold applyWindowSnapshot
  dsimp only
  rw [reportedPids_foldl]
  exact fun manager entry => manager.reportedPids_modifyProcess entry.2 _

theorem reportedPids_refreshSession
    (sessionId : Nat)
    (username : Option String) :
    ∃ added,
      (manager.refreshSession sessionId username).reportedPids =
        manager.reportedPids ++ List.replicate added [] := by
  have same :
      ∀ {after : SessionManager},
        after.reportedPids = manager.reportedPids →
        ∃ added,
          after.reportedPids =
            manager.reportedPids ++ List.replicate added [] :=
    fun kept => ⟨0, by simpa using kept⟩
  unfold refreshSession
  split
  · exact same rfl
  · split
    · exact same rfl
    · split
      · exact same rfl
      · split
        · exact ⟨1, by simp [reportedPids, named]⟩
        · split
          · refine same ?_
            unfold closeAllProcesses
            rw [reportedPids_stopUnmonitored]
            exact manager.reportedPids_modifySession _ fun _ => rfl
          · exact same rfl

theorem reportedPids_act (action : AgentAction) :
    ∃ added,
      (act library manager action).reportedPids =
        manager.reportedPids ++ List.replicate added [] := by
  cases action with
  | refresh sessionId username =>
    exact manager.reportedPids_refreshSession sessionId username
  | _ =>
    exact ⟨0, by simp [act, loginUserSession]⟩

end Frames

end SessionManager

end RpaPlatform.Replica
