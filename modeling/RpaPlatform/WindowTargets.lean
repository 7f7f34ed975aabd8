import RpaPlatform.Ancestry
import RpaPlatform.SessionProcesses

namespace RpaPlatform.Replica.SessionManager

/-!
# Which window stands for a process

A process is captured through its own window; otherwise through that of the
console host of the first process on its chain of parents that has one.  The
chain may come back to where it has been, or leave the session.
-/

namespace WindowSnapshot

variable
    (library : SystemLibrary)
    (snapshot : WindowSnapshot)

def parentIn (pid : Nat) : Option Nat :=
  (snapshot.processMap.lookup pid).bind (·.info.ppid)

def hostOf (pid : Nat) : Option Nat :=
  (snapshot.consoleHostByParent library).lookup pid

/-- A console host with a window, which is a child of a process. -/
def HostsConsole (pid host : Nat) : Prop :=
  ∃ process,
    (host, process) ∈ snapshot.processMap ∧
      library.lower process.info.exe = "conhost.exe" ∧
      process.info.ppid = some pid ∧
      (snapshot.processMap.lookup pid).isSome ∧
      (snapshot.windowMap.lookup host).isSome

/-! ### Console hosts -/

/-- The parent that a process is the console host of. -/
def hosted? (entry : Nat × ManagedProcess) : Option Nat :=
  entry.2.info.ppid.filter fun ppid =>
    library.lower entry.2.info.exe = "conhost.exe" &&
      (snapshot.processMap.lookup ppid).isSome &&
      (snapshot.windowMap.lookup entry.1).isSome

def consoleHosts : List (Nat × Nat) :=
  snapshot.processMap.filterMap fun entry =>
    (snapshot.hosted? library entry).map fun ppid => (ppid, entry.1)

theorem consoleHostByParent_eq :
    snapshot.consoleHostByParent library =
      Dictionary.update [] (snapshot.consoleHosts library) := by
  rw [consoleHostByParent, consoleHosts, Dictionary.update,
    List.foldl_filterMap]
  apply congrArg (fun step => snapshot.processMap.foldl step [])
  funext hosts entry
  unfold hosted?
  cases entry.2.info.ppid with
  | none =>
    rfl
  | some ppid =>
    rw [Option.filter_some]
    dsimp only
    split <;> rfl

theorem mem_consoleHosts
    {pid host : Nat} :
    (pid, host) ∈ snapshot.consoleHosts library ↔
      snapshot.HostsConsole library pid host := by
  rw [consoleHosts, List.mem_filterMap]
  constructor
  · rintro ⟨⟨found, process⟩, member, isHost⟩
    obtain ⟨ppid, isParent, same⟩ := Option.map_eq_some_iff.mp isHost
    cases same
    obtain ⟨isParent, hosts⟩ := Option.filter_eq_some_iff.mp isParent
    simp only [Bool.and_eq_true, decide_eq_true_eq] at hosts
    exact ⟨process, member, hosts.1.1, isParent, hosts.1.2, hosts.2⟩
  · rintro ⟨process, member, isConsole, isParent, hasParent, hasWindow⟩
    refine ⟨(host, process), member, Option.map_eq_some_iff.mpr ?_⟩
    refine ⟨pid, Option.filter_eq_some_iff.mpr ⟨isParent, ?_⟩, rfl⟩
    simp only [isConsole, hasParent, hasWindow, decide_true, Bool.and_self]

theorem hostOf_eq_some
    {pid host : Nat}
    (found : snapshot.hostOf library pid = some host) :
    snapshot.HostsConsole library pid host := by
  rw [hostOf, consoleHostByParent_eq] at found
  rcases Dictionary.mem_update (Dictionary.mem_of_lookup found) with
    before | isHost
  · cases before
  · exact (snapshot.mem_consoleHosts library).mp isHost

theorem hostOf_eq_none
    {pid : Nat} :
    snapshot.hostOf library pid = none ↔
      ∀ host, ¬ snapshot.HostsConsole library pid host := by
  rw [hostOf, consoleHostByParent_eq]
  constructor
  · intro nothing host hosts
    obtain ⟨known, found, _⟩ :=
      Dictionary.lookup_update_of_mem
        (List.mem_map_of_mem ((snapshot.mem_consoleHosts library).mpr hosts)) []
    rw [nothing] at found
    cases found
  · intro nothing
    apply Dictionary.lookup_update_other
    intro member
    obtain ⟨⟨_, host⟩, isHost, rfl⟩ := List.mem_map.mp member
    exact nothing host ((snapshot.mem_consoleHosts library).mp isHost)

/-! ### The walk -/

theorem findConsoleHost_of_search
    {fuel : Nat}
    {visited : List Nat}
    {pid : Nat}
    {found : Option Nat}
    (stops :
      Ancestry.search snapshot.parentIn (snapshot.hostOf library) fuel
        visited pid = some found) :
    snapshot.findConsoleHost library visited pid fuel = found := by
  induction fuel generalizing visited pid with
  | zero =>
    cases stops
  | succ fuel inductionHypothesis =>
    rw [Ancestry.search] at stops
    rw [findConsoleHost]
    split at stops
    · rename_i seen
      rw [if_pos seen]
      exact Option.some.inj stops
    · rename_i isNew
      rw [if_neg isNew]
      cases isHost : snapshot.hostOf library pid with
      | some host =>
        rw [isHost] at stops
        rw [hostOf] at isHost
        rw [isHost]
        exact Option.some.inj stops
      | none =>
        rw [isHost] at stops
        rw [hostOf] at isHost
        rw [isHost]
        cases isParent : snapshot.parentIn pid with
        | none =>
          rw [isParent] at stops
          rw [parentIn] at isParent
          rw [isParent]
          exact Option.some.inj stops
        | some above =>
          rw [isParent] at stops
          rw [parentIn] at isParent
          rw [isParent]
          exact inductionHypothesis stops

theorem findConsoleHost_stops (pid : Nat) :
    ∃ found,
      Ancestry.search snapshot.parentIn (snapshot.hostOf library)
          (snapshot.processMap.length + 2) [] pid = some found ∧
        snapshot.findConsoleHost library [] pid
            (snapshot.processMap.length + 2) = found ∧
        Ancestry.FirstOnChain (snapshot.hostOf library) snapshot.parentIn
          pid found := by
  have listed :
      ∀ child, (snapshot.parentIn child).isSome →
        child ∈ snapshot.processMap.map Prod.fst := by
    intro child hasParent
    rw [parentIn] at hasParent
    cases found : snapshot.processMap.lookup child with
    | none =>
      rw [found] at hasParent
      cases hasParent
    | some process =>
      exact List.mem_map_of_mem (Dictionary.mem_of_lookup found)
  obtain ⟨found, stops, isFirst⟩ :=
    @Ancestry.search_finds Nat _ Nat _ _ _ listed pid
      (snapshot.processMap.length + 2) (by simp)
  exact
    ⟨found, stops, snapshot.findConsoleHost_of_search library stops, isFirst⟩

/-- What stands for a process: a pid, and the kind of its window. -/
inductive Stands (pid : Nat) : Option Nat × String → Prop where
  | own
      (data : WindowData)
      (window : snapshot.windowMap.lookup pid = some data) :
      Stands pid
        (some pid,
          if data.windowKind = "child-window" then "child-window"
          else "direct-window")
  | consoleHost
      (noWindow : snapshot.windowMap.lookup pid = none)
      (steps above host : Nat)
      (onChain : Ancestry.climb snapshot.parentIn steps pid = some above)
      (hosts : snapshot.HostsConsole library above host)
      (first :
        ∀ fewer < steps, ∀ below,
          Ancestry.climb snapshot.parentIn fewer pid = some below →
          ∀ other, ¬ snapshot.HostsConsole library below other) :
      Stands pid (some host, "console-host")
  | nothing
      (noWindow : snapshot.windowMap.lookup pid = none)
      (nowhere :
        ∀ steps above,
          Ancestry.climb snapshot.parentIn steps pid = some above →
          ∀ host, ¬ snapshot.HostsConsole library above host) :
      Stands pid (none, "")

theorem resolveCaptureTarget_stands (pid : Nat) :
    snapshot.Stands library pid
      (snapshot.resolveCaptureTarget library pid) := by
  unfold resolveCaptureTarget
  cases window : snapshot.windowMap.lookup pid with
  | some data =>
    have stands := @Stands.own library snapshot _ data window
    dsimp only
    split
    · rename_i isChild
      rwa [if_pos isChild] at stands
    · rename_i isDirect
      rwa [if_neg isDirect] at stands
  | none =>
    obtain ⟨found, _, isFound, isFirst⟩ :=
      snapshot.findConsoleHost_stops library pid
    rw [isFound]
    cases isFirst with
    | found steps above host onChain isHere first =>
      exact
        .consoleHost window steps above host onChain
          (snapshot.hostOf_eq_some library isHere)
          fun fewer isFewer below isBelow =>
            (snapshot.hostOf_eq_none library).mp
              (first fewer isFewer below isBelow)
    | missing nowhere =>
      exact
        .nothing window fun steps above isAbove =>
          (snapshot.hostOf_eq_none library).mp (nowhere steps above isAbove)

/-- The fields of a process that something stands for. -/
def fieldsOf (target : Option Nat × String) : WindowFields :=
  let data : WindowData :=
    (target.1.bind fun pid => snapshot.windowMap.lookup pid).getD {}
  { hasWindow := some target.1.isSome
    windowTitle := data.windowTitle
    windowHwnd := data.hwnd
    windows := data.windows
    captureTargetPid := target.1
    captureTargetKind := target.2 }

end WindowSnapshot

/-! ### Applying a snapshot -/

variable
    (library : SystemLibrary)
    (manager : SessionManager)
    (name : SessionName)
    (windowMap : List (Nat × WindowData))

def registered : List (Nat × ProcessRef) :=
  (manager.session? name).elim [] (·.procs)

/-- The processes of a session by the pids that they have. -/
def processRefs : List (Nat × ProcessRef) :=
  (manager.registered name).foldl
    (fun refs entry =>
      Dictionary.set (manager.processes entry.2).pid entry.2 refs)
    []

/-- A snapshot, with the processes that it is applied to. -/
def windowSnapshot : WindowSnapshot where
  windowMap := windowMap
  processMap :=
    (manager.processRefs name).map fun entry =>
      (entry.1, manager.processes entry.2)

theorem processRefs_eq :
    manager.processRefs name =
      Dictionary.update []
        ((manager.registered name).map fun entry =>
          ((manager.processes entry.2).pid, entry.2)) := by
  rw [processRefs, Dictionary.update, List.foldl_map]

theorem pid_of_mem_processRefs
    {entry : Nat × ProcessRef}
    (member : entry ∈ manager.processRefs name) :
    (manager.processes entry.2).pid = entry.1 := by
  rw [processRefs_eq] at member
  rcases Dictionary.mem_update member with before | isRegistered
  · cases before
  · obtain ⟨_, _, rfl⟩ := List.mem_map.mp isRegistered
    rfl

theorem nodup_processRefs :
    ((manager.processRefs name).map Prod.snd).Nodup := by
  have pids :
      ((manager.processRefs name).map Prod.snd).map
          (fun ref => (manager.processes ref).pid) =
        (manager.processRefs name).map Prod.fst := by
    rw [List.map_map]
    apply List.map_congr_left
    exact fun entry member => manager.pid_of_mem_processRefs name member
  apply List.Nodup.of_map fun ref => (manager.processes ref).pid
  rw [pids, processRefs_eq]
  exact Dictionary.nodup_keys_update (by simp) _

theorem exists_processRef
    {entry : Nat × ProcessRef}
    (member : entry ∈ manager.registered name) :
    ∃ other ∈ manager.registered name,
      (manager.processes other.2).pid = (manager.processes entry.2).pid ∧
        ((manager.processes entry.2).pid, other.2) ∈
          manager.processRefs name := by
  rw [processRefs_eq]
  have named :
      (manager.processes entry.2).pid ∈
        ((manager.registered name).map fun entry =>
          ((manager.processes entry.2).pid, entry.2)).map Prod.fst :=
    List.mem_map_of_mem (List.mem_map_of_mem member)
  obtain ⟨ref, found, isRegistered⟩ :=
    Dictionary.lookup_update_of_mem named []
  obtain ⟨other, isOther, same⟩ := List.mem_map.mp isRegistered
  obtain ⟨samePid, rfl⟩ := Prod.mk.inj same
  exact ⟨other, isOther, samePid, Dictionary.mem_of_lookup found⟩

theorem setWindow_eq
    (window : WindowFields)
    (process : ManagedProcess) :
    setWindow window process =
      { process with
        info := { process.info with window }
        itChange :=
          process.itChange || decide (process.info.window ≠ window) } := by
  unfold setWindow
  split
  · rename_i same
    subst same
    simp
  · rename_i different
    simp [different]

theorem processes_foldl_modify
    (change : Nat × ProcessRef → ManagedProcess → ManagedProcess)
    {entries : List (Nat × ProcessRef)}
    (distinct : (entries.map Prod.snd).Nodup) :
    let after :=
      entries.foldl
        (fun manager entry => manager.modifyProcess entry.2 (change entry))
        manager
    (∀ entry ∈ entries,
        after.processes entry.2 = change entry (manager.processes entry.2)) ∧
      ∀ ref ∉ entries.map Prod.snd,
        after.processes ref = manager.processes ref := by
  induction entries generalizing manager with
  | nil =>
    simp
  | cons first rest inductionHypothesis =>
    obtain ⟨isNew, distinct⟩ := List.nodup_cons.mp distinct
    obtain ⟨changed, kept⟩ :=
      inductionHypothesis (manager.modifyProcess first.2 (change first))
        distinct
    refine ⟨fun entry member => ?_, fun ref absent => ?_⟩
    · rcases List.mem_cons.mp member with rfl | later
      · exact (kept entry.2 isNew).trans (by simp [modifyProcess])
      · have different : entry.2 ≠ first.2 := fun same =>
          isNew (same ▸ List.mem_map_of_mem later)
        exact (changed entry later).trans (by simp [modifyProcess, different])
    · rw [List.map_cons, List.mem_cons, not_or] at absent
      exact (kept ref absent.2).trans (by simp [modifyProcess, absent.1])

/--
A snapshot is applied: every walk along a chain of parents stops; the process
that is known by a pid gets the windows of what stands for it, and is marked
as changed if they are others; nothing else changes, and every registered
process has a pid that a process is known by.
-/
def WindowsStand
    (library : SystemLibrary)
    (manager : SessionManager)
    (name : SessionName)
    (windowMap : List (Nat × WindowData)) : Prop :=
  let refs := manager.processRefs name
  let snapshot := manager.windowSnapshot name windowMap
  let after := manager.applyWindowSnapshot library name windowMap
  (∀ pid, ∃ found,
      Ancestry.search snapshot.parentIn (snapshot.hostOf library)
          (refs.length + 2) [] pid = some found ∧
        snapshot.findConsoleHost library [] pid (refs.length + 2) = found) ∧
    (∀ entry ∈ refs, ∃ target,
      snapshot.Stands library entry.1 target ∧
        let process := manager.processes entry.2
        let window := snapshot.fieldsOf target
        after.processes entry.2 =
          { process with
            info := { process.info with window }
            itChange :=
              process.itChange ||
                decide (process.info.window ≠ window) }) ∧
      (∀ ref ∉ refs.map Prod.snd,
        after.processes ref = manager.processes ref) ∧
        ∀ entry ∈ manager.registered name,
          ∃ other ∈ manager.registered name,
            (manager.processes other.2).pid =
                (manager.processes entry.2).pid ∧
              ((manager.processes entry.2).pid, other.2) ∈ refs

/-- Every window snapshot is applied as it should be. -/
theorem applyWindowSnapshot_stands :
    WindowsStand library manager name windowMap := by
  unfold WindowsStand
  intro refs snapshot after
  have counted : snapshot.processMap.length = refs.length := by
    simp [snapshot, windowSnapshot, refs]
  obtain ⟨changed, kept⟩ :=
    manager.processes_foldl_modify
      (fun entry => setWindow (snapshot.windowFields library entry.1))
      (manager.nodup_processRefs name)
  refine
    ⟨fun pid => ?_, fun entry member => ?_, kept, fun entry member =>
      manager.exists_processRef name member⟩
  · obtain ⟨found, stops, isFound, _⟩ :=
      snapshot.findConsoleHost_stops library pid
    rw [counted] at stops isFound
    exact ⟨found, stops, isFound⟩
  · refine ⟨_, snapshot.resolveCaptureTarget_stands library entry.1, ?_⟩
    exact (changed entry member).trans (setWindow_eq _ _)

end RpaPlatform.Replica.SessionManager
