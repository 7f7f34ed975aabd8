import RpaPlatform.ReplicaKeys

namespace RpaPlatform.Replica

open Agents (Attempt)

/-!
# Processes and the keys they are stored under

A session stores its processes by pid, and the pid of a process object changes
in place when the process is restarted.  Whoever changes it has to store the
object under its new pid and to remove the old entry.  What starts, ticks,
stops or finds processes without a restart leaves the entries of the objects
there are, but for those it removes, and adds new objects under their own pids.
-/

/-! ### Pids of processes -/

namespace ManagedProcess

variable (process : ManagedProcess)

@[simp]
theorem pid_setState (status : ProcessStatus) :
    (process.setState status).pid = process.pid := by
  unfold setState
  split
  · rfl
  · split <;> rfl

@[simp]
theorem pid_checkState (exitCode : Option Int) :
    (process.checkState exitCode).pid = process.pid := by
  unfold checkState
  split <;> simp

@[simp]
theorem pid_onStart (library : SystemLibrary) (input : StartInput) :
    (process.onStart library input).changed.pid = process.pid := by
  unfold onStart
  split
  · simp [markAccessDenied]
  · split
    · simp
    · dsimp only
      split
      · simp
      · unfold startWithout
        dsimp only
        split <;> simp [ensureFallbackTelemetry]

@[simp]
theorem pid_onStop : process.onStop.pid = process.pid := by
  unfold onStop
  split <;> rfl

@[simp]
theorem pid_setPid (pid : Nat) : (process.setPid pid).pid = pid := by
  unfold setPid
  split
  · assumption
  · rfl

@[simp]
theorem pid_onTick (input : TickInput) :
    (process.onTick input).pid = process.pid := by
  unfold onTick
  dsimp only
  split
  · simp
  · split
    · simp
    · split
      · split
        · split <;> simp
        · unfold withTelemetry
          split <;> simp [ensureFallbackTelemetry]
      · simp

end ManagedProcess

namespace SessionManager

/-! ### Entries -/

section Entries

variable (manager : SessionManager)

/-- All entries of the process tables: a session, a key and an object. -/
def entries : List (SessionName × Nat × ProcessRef) :=
  manager.named.flatMap fun session =>
    session.2.procs.map fun entry => (session.1, entry)

def pidOf (ref : ProcessRef) : Nat :=
  (manager.processes ref).pid

/--
Every key maps to an object whose pid it is, and no object is stored under two
keys.
-/
structure Keyed : Prop where
  pid :
    ∀ name key ref, (name, key, ref) ∈ manager.entries → manager.pidOf ref = key
  unique :
    ∀ name other key otherKey ref,
      (name, key, ref) ∈ manager.entries →
      (other, otherKey, ref) ∈ manager.entries →
      key = otherKey

/-- All keys, but perhaps one, are the pids of objects that exist. -/
def KeyedBut (stale : Option (SessionName × Nat)) : Prop :=
  ∀ name key ref,
    (name, key, ref) ∈ manager.entries →
    ref < manager.allocated ∧
      (manager.pidOf ref = key ∨ stale = some (name, key))

@[simp]
theorem allocated_modifySession
    (name : SessionName)
    (change : UserSession → UserSession) :
    (manager.modifySession name change).allocated = manager.allocated := by
  cases name <;> rfl

@[simp]
theorem processes_modifySession
    (name : SessionName)
    (change : UserSession → UserSession) :
    (manager.modifySession name change).processes = manager.processes := by
  cases name <;> rfl

@[simp]
theorem pidOf_modifySession
    (name : SessionName)
    (change : UserSession → UserSession)
    (ref : ProcessRef) :
    (manager.modifySession name change).pidOf ref = manager.pidOf ref := by
  simp [pidOf]

@[simp]
theorem pidOf_modifyProcess_self
    (ref : ProcessRef)
    (change : ManagedProcess → ManagedProcess) :
    (manager.modifyProcess ref change).pidOf ref =
      (change (manager.processes ref)).pid := by
  simp [pidOf, modifyProcess]

@[simp]
theorem allocated_allocate (process : ManagedProcess) :
    (manager.allocate process).allocated = manager.allocated + 1 :=
  rfl

@[simp]
theorem pidOf_allocate (process : ManagedProcess) (ref : ProcessRef) :
    (manager.allocate process).pidOf ref =
      if ref = manager.allocated then process.pid else manager.pidOf ref := by
  simp only [allocate, pidOf, modifyProcess]
  split <;> rfl

variable {manager}

theorem mem_entries
    {name : SessionName}
    {key : Nat}
    {ref : ProcessRef} :
    (name, key, ref) ∈ manager.entries ↔
      ∃ session, (name, session) ∈ manager.named ∧ (key, ref) ∈ session.procs := by
  simp only [entries, List.mem_flatMap, List.mem_map, Prod.mk.injEq]
  constructor
  · rintro ⟨⟨_, session⟩, isNamed, _, member, rfl, rfl⟩
    exact ⟨session, isNamed, member⟩
  · rintro ⟨session, isNamed, member⟩
    exact ⟨(name, session), isNamed, (key, ref), member, rfl, rfl⟩

theorem mem_entries_modifySession
    {name other : SessionName}
    {change : UserSession → UserSession}
    {key : Nat}
    {ref : ProcessRef}
    (stored : (other, key, ref) ∈ (manager.modifySession name change).entries) :
    ∃ session,
      (other, session) ∈ manager.named ∧
        (other ≠ name ∧ (key, ref) ∈ session.procs ∨
          other = name ∧ (key, ref) ∈ (change session).procs) := by
  obtain ⟨session, isNamed, member⟩ := mem_entries.mp stored
  cases name with
  | none =>
    rcases List.mem_cons.mp isNamed with same | later
    · obtain ⟨rfl, rfl⟩ := Prod.mk.inj same
      exact ⟨manager.system, List.mem_cons_self, .inr ⟨rfl, member⟩⟩
    · refine ⟨session, List.mem_cons_of_mem _ later, .inl ⟨?_, member⟩⟩
      rintro rfl
      simp at later
  | some username =>
    rcases List.mem_cons.mp isNamed with same | later
    · obtain ⟨rfl, rfl⟩ := Prod.mk.inj same
      exact ⟨_, List.mem_cons_self, .inl ⟨by simp, member⟩⟩
    · simp only [modifySession, List.map_map, List.mem_map,
        Function.comp_apply, Prod.mk.injEq] at later
      obtain ⟨entry, found, rfl, rfl⟩ := later
      have named : (some entry.1, entry.2) ∈ manager.named :=
        List.mem_cons_of_mem _ (List.mem_map_of_mem found)
      by_cases same : entry.1 = username
      · rw [if_pos same] at member ⊢
        exact ⟨entry.2, named, .inr ⟨by rw [same], member⟩⟩
      · rw [if_neg same] at member ⊢
        exact ⟨entry.2, named, .inl ⟨by simpa using same, member⟩⟩

theorem mem_entries_register
    {name other : SessionName}
    {pid key : Nat}
    {started ref : ProcessRef}
    (stored :
      (other, key, ref) ∈
        (manager.modifySession name fun session =>
          session.register pid started).entries) :
    key = pid ∧ ref = started ∨ (other, key, ref) ∈ manager.entries := by
  obtain ⟨session, isNamed, ⟨_, member⟩ | ⟨_, member⟩⟩ :=
    mem_entries_modifySession stored
  · exact .inr (mem_entries.mpr ⟨session, isNamed, member⟩)
  · rcases Dictionary.mem_set member with same | earlier
    · exact .inl (Prod.mk.inj same)
    · exact .inr (mem_entries.mpr ⟨session, isNamed, earlier⟩)

theorem KeyedBut.keyed (keys : manager.KeyedBut none) : manager.Keyed := by
  have pid :
      ∀ name key ref,
        (name, key, ref) ∈ manager.entries →
        manager.pidOf ref = key := by
    intro name key ref stored
    simpa using (keys name key ref stored).2
  refine ⟨pid, ?_⟩
  intro name other key otherKey ref stored otherStored
  exact (pid name key ref stored).symm.trans (pid other otherKey ref otherStored)

theorem KeyedBut.weaken
    (keys : manager.KeyedBut none)
    (stale : Option (SessionName × Nat)) :
    manager.KeyedBut stale := by
  intro name key ref stored
  obtain ⟨exists_, isKey⟩ := keys name key ref stored
  exact ⟨exists_, .inl (by simpa using isKey)⟩

variable
    {stale : Option (SessionName × Nat)}
    {ref : ProcessRef}
    {pid : Nat}

theorem KeyedBut.modifyProcess
    (keys : manager.KeyedBut none)
    {change : ManagedProcess → ManagedProcess}
    (changes : (change (manager.processes ref)).pid = pid)
    (others :
      ∀ name key,
        (name, key, ref) ∈ manager.entries →
        pid = key ∨ stale = some (name, key)) :
    (manager.modifyProcess ref change).KeyedBut stale := by
  intro name key other stored
  obtain ⟨isAllocated, isKey⟩ := keys name key other stored
  refine ⟨isAllocated, ?_⟩
  by_cases same : other = ref
  · subst same
    simpa [changes] using others name key stored
  · exact .inl (by simpa [pidOf, SessionManager.modifyProcess, same] using isKey)

theorem KeyedBut.register
    (keys : manager.KeyedBut stale)
    (name : SessionName)
    (isAllocated : ref < manager.allocated)
    (isPid : manager.pidOf ref = pid) :
    (manager.modifySession name fun session =>
      session.register pid ref).KeyedBut stale := by
  intro other key found stored
  simp only [allocated_modifySession, pidOf_modifySession]
  rcases mem_entries_register stored with ⟨rfl, rfl⟩ | earlier
  · exact ⟨isAllocated, .inl isPid⟩
  · exact keys other key found earlier

theorem KeyedBut.rebind
    {name : SessionName}
    {oldPid : Nat}
    (keys : manager.KeyedBut (some (name, oldPid)))
    (isAllocated : ref < manager.allocated)
    (isPid : manager.pidOf ref = pid) :
    (manager.rebindProcess name oldPid pid ref).KeyedBut none := by
  intro other key found stored
  simp only [rebindProcess, allocated_modifySession, pidOf_modifySession,
    reduceCtorEq, or_false] at stored ⊢
  have unlessStale :
      ∀ session,
        (other, session) ∈ manager.named →
        (key, found) ∈ session.procs →
        (name, oldPid) ≠ (other, key) →
        found < manager.allocated ∧ manager.pidOf found = key := by
    intro session isNamed member different
    simpa [different] using
      keys other key found (mem_entries.mpr ⟨session, isNamed, member⟩)
  obtain ⟨session, isNamed, ⟨elsewhere, member⟩ | ⟨_, member⟩⟩ :=
    mem_entries_modifySession stored
  · refine unlessStale session isNamed member ?_
    exact fun same => elsewhere (Prod.mk.inj same).1.symm
  · rcases Dictionary.mem_set member with same | kept
    · obtain ⟨rfl, rfl⟩ := Prod.mk.inj same
      exact ⟨isAllocated, isPid⟩
    · obtain ⟨earlier, isKept⟩ := List.mem_filter.mp kept
      refine unlessStale session isNamed earlier ?_
      rintro same
      simp [(Prod.mk.inj same).2] at isKept

/-! ### What leaves the objects there are -/

/--
The objects that were there keep their pids, and no entry of theirs is added;
a new object is only stored under its own pid.
-/
structure Grows (before after : SessionManager) : Prop where
  allocated : before.allocated ≤ after.allocated
  pid : ∀ ref < before.allocated, after.pidOf ref = before.pidOf ref
  entries :
    ∀ name key ref,
      (name, key, ref) ∈ after.entries →
      (name, key, ref) ∈ before.entries ∨
        before.allocated ≤ ref ∧ ref < after.allocated ∧ after.pidOf ref = key

theorem KeyedBut.grows
    {after : SessionManager}
    (keys : manager.KeyedBut stale)
    (grows : Grows manager after) :
    after.KeyedBut stale := by
  intro name key ref stored
  rcases grows.entries name key ref stored with earlier | ⟨_, isNew, isPid⟩
  · obtain ⟨isAllocated, isKey⟩ := keys name key ref earlier
    rw [grows.pid ref isAllocated]
    exact ⟨isAllocated.trans_le grows.allocated, isKey⟩
  · exact ⟨isNew, .inl isPid⟩

namespace Grows

variable {middle after : SessionManager}

theorem refl (manager : SessionManager) : Grows manager manager :=
  ⟨Nat.le_refl _, fun _ _ => rfl, fun _ _ _ => .inl⟩

theorem trans
    (first : Grows manager middle)
    (second : Grows middle after) :
    Grows manager after where
  allocated := first.allocated.trans second.allocated
  pid ref isAllocated :=
    (second.pid ref (isAllocated.trans_le first.allocated)).trans
      (first.pid ref isAllocated)
  entries name key ref stored := by
    rcases second.entries name key ref stored with
      earlier | ⟨isLater, isNew, isPid⟩
    · rcases first.entries name key ref earlier with
        initial | ⟨isLater, isNew, isPid⟩
      · exact .inl initial
      · refine .inr ⟨isLater, isNew.trans_le second.allocated, ?_⟩
        exact (second.pid ref isNew).trans isPid
    · exact .inr ⟨first.allocated.trans isLater, isNew, isPid⟩

theorem modifyProcess
    (ref : ProcessRef)
    {change : ManagedProcess → ManagedProcess}
    (keeps : (change (manager.processes ref)).pid = manager.pidOf ref) :
    Grows manager (manager.modifyProcess ref change) where
  allocated := Nat.le_refl _
  pid other _ := by
    by_cases same : other = ref
    · simpa [pidOf, SessionManager.modifyProcess, same] using keeps
    · simp [pidOf, SessionManager.modifyProcess, same]
  entries _ _ _ := .inl

theorem modifySession
    (name : SessionName)
    {change : UserSession → UserSession}
    (shrinks : ∀ session, (change session).procs ⊆ session.procs) :
    Grows manager (manager.modifySession name change) where
  allocated := by simp
  pid := by simp
  entries other key ref stored := by
    obtain ⟨session, isNamed, ⟨_, member⟩ | ⟨_, member⟩⟩ :=
      mem_entries_modifySession stored
    · exact .inl (mem_entries.mpr ⟨session, isNamed, member⟩)
    · exact .inl (mem_entries.mpr ⟨session, isNamed, shrinks session member⟩)

theorem foldl
    {Item : Type}
    {change : SessionManager → Item → SessionManager}
    (each : ∀ manager item, Grows manager (change manager item))
    (items : List Item)
    (manager : SessionManager) :
    Grows manager (items.foldl change manager) := by
  induction items generalizing manager with
  | nil =>
    exact refl manager
  | cons item rest inductionHypothesis =>
    exact (each manager item).trans (inductionHypothesis _)

end Grows

end Entries

section Frames

variable
    (library : SystemLibrary)
    (manager : SessionManager)

theorem grows_stop (ref : ProcessRef) : Grows manager (manager.stop ref) := by
  refine .modifyProcess ref ?_
  exact ManagedProcess.pid_onStop _

theorem grows_onStart (ref : ProcessRef) (input : StartInput) :
    Grows manager (manager.onStart library ref input).changed := by
  unfold onStart
  dsimp only
  refine .modifyProcess ref ?_
  exact ManagedProcess.pid_onStart _ library input

theorem grows_drop (name : SessionName) (pid : Nat) :
    Grows manager
      (manager.modifySession name fun session => session.drop pid) :=
  .modifySession name fun _ => List.filter_subset_self _

theorem grows_stopProcess
    (name : SessionName)
    (pid : Nat)
    (force : Bool) :
    Grows manager (manager.stopProcess name pid force) := by
  unfold stopProcess
  split
  · exact .refl manager
  · refine Grows.trans ?_ (grows_drop _ name pid)
    split
    · exact .refl manager
    · exact manager.grows_stop _

theorem grows_stopUnmonitored
    (name : SessionName)
    (dropped : Nat → Bool) :
    Grows manager (manager.stopUnmonitored name dropped) := by
  unfold stopUnmonitored
  refine Grows.trans ?_ (.modifySession name fun _ => List.filter_subset_self _)
  refine .foldl ?_ _ manager
  exact fun manager entry => manager.grows_stop entry.2

theorem grows_refreshSession
    (sessionId : Nat)
    (username : Option String) :
    Grows manager (manager.refreshSession sessionId username) := by
  unfold refreshSession
  split
  · exact .refl manager
  · split
    · exact .refl manager
    · split
      · exact .refl manager
      · split
        · refine ⟨Nat.le_refl _, fun _ _ => rfl, ?_⟩
          intro name key ref stored
          exact .inl (by simpa [SessionManager.entries, named] using stored)
        · split
          · refine Grows.trans ?_ (grows_stopUnmonitored _ _ _)
            exact .modifySession _ fun _ => List.Subset.refl _
          · exact .refl manager

theorem grows_discoverPid
    (managedPids : List Nat)
    (found : DiscoveredPid) :
    Grows manager (discoverPid library managedPids manager found) := by
  unfold discoverPid
  split
  · exact .refl manager
  · split
    · exact .refl manager
    · dsimp only
      split
      · exact .refl manager
      · refine Grows.trans ?_ (grows_onStart library _ _ _)
        refine ⟨?_, ?_, ?_⟩
        · simp
        · intro ref isAllocated
          simp [isAllocated.ne]
        · intro name key ref stored
          rcases mem_entries_register stored with ⟨rfl, rfl⟩ | earlier
          · exact .inr ⟨Nat.le_refl _, by simp, by simp⟩
          · exact .inl earlier

theorem grows_discoverProcessesPerSession (found : List DiscoveredPid) :
    Grows manager (manager.discoverProcessesPerSession library found) := by
  refine Grows.trans ?_ (.foldl (fun manager => ?_) found _)
  · exact .foldl (fun manager name => manager.grows_stopUnmonitored name _) _
      manager
  · exact manager.grows_discoverPid library _

theorem grows_onStartMonitored
    (ref : ProcessRef)
    (input : StartInput)
    (found : Option (List DiscoveredPid)) :
    Grows manager (manager.onStartMonitored library ref input found).changed := by
  have started := manager.grows_onStart library ref input
  unfold onStartMonitored
  dsimp only
  split
  · exact started
  · have reset :
        ∀ manager : SessionManager,
          Grows manager
            (manager.modifyProcess ref fun process =>
              { process with downTime := 0 }) :=
      fun manager => .modifyProcess ref rfl
    refine started.trans ((reset _).trans ?_)
    split
    · exact .refl _
    · exact grows_discoverProcessesPerSession library _ _

end Frames

/-! ### Operations -/

/--
What is done to process tables.  The loops over processes take one action for
each of them; what raises before it changes anything is no action.
-/
inductive ProcessAction where
  /-- An object is constructed. -/
  | construct (process : ManagedProcess)
  | refresh (sessionId : Nat) (username : Option String)
  | discover (found : List DiscoveredPid)
  | start
      (name : SessionName)
      (ref : ProcessRef)
      (created : CreatedProcess)
      (found : Option (List DiscoveredPid))
  | stop (name : SessionName) (pid : Nat) (force : Bool)
  | tryRestart (name : SessionName) (pid : Nat) (input : RestartInput)
  | rebind (name : SessionName) (oldPid newPid : Nat) (ref : ProcessRef)
  | tick
      (name : SessionName)
      (ref : ProcessRef)
      (input : TickInput)
      (restart : RestartInput)
  | startRegistered
      (name : SessionName)
      (pid : Nat)
      (input : StartInput)
      (restart : RestartInput)
  | reconcile (name : SessionName) (livePids : List Nat)
  | restart (name : SessionName) (ref : ProcessRef) (input : RestartInput)

/-- The object that an operation is called with. -/
def ProcessAction.process? : ProcessAction → Option ProcessRef
  | .start _ ref _ _ => some ref
  | .rebind _ _ _ ref => some ref
  | .tick _ ref _ _ => some ref
  | .restart _ ref _ => some ref
  | _ => none

section Operations

variable
    (library : SystemLibrary)
    (manager : SessionManager)

/-- Perform an operation. -/
def operate : ProcessAction → SessionManager
  | .construct process =>
    manager.allocate process
  | .refresh sessionId username =>
    manager.refreshSession sessionId username
  | .discover found =>
    manager.discoverProcessesPerSession library found
  | .start name ref created found =>
    if (manager.processes ref).isMonitored then
      (manager.startMonitored library name ref created found).changed
    else
      (manager.startProcess library name ref created).changed
  | .stop name pid force =>
    manager.stopProcess name pid force
  | .tryRestart name pid input =>
    manager.tryRestartProcess library name pid input
  | .rebind name oldPid newPid ref =>
    manager.rebindProcess name oldPid newPid ref
  | .tick name ref input restart =>
    manager.tickProcess library name ref input restart
  | .startRegistered name pid input restart =>
    manager.startRegistered library name pid input restart
  | .reconcile name livePids =>
    manager.reconcileLiveProcesses name livePids
  | .restart name ref input =>
    (manager.onRestart library name ref input).changed

/-- Operations are performed on objects that exist. -/
def operate? (action : ProcessAction) : Option SessionManager :=
  if action.process?.all (· < manager.allocated) then
    some (manager.operate library action)
  else
    none

def storedOnlyUnder (ref : ProcessRef) (key : Nat) : Bool :=
  manager.entries.all fun entry => entry.2.2 ≠ ref || entry.2.1 = key

def storedOnlyIn (name : SessionName) (ref : ProcessRef) : Bool :=
  manager.entries.all fun entry => entry.2.2 ≠ ref || entry.1 = name

/--
Whether `on_start` of a monitored process raises: neither its telemetry nor
its exit code can be read, or the pids cannot be enumerated.
-/
def startRaises
    (ref : ProcessRef)
    (created : CreatedProcess)
    (found : Option (List DiscoveredPid)) : Bool :=
  (manager.processes ref).status ≠ some .accessDenied &&
      created.start.full.isNone && created.start.exitCode.isNone ||
    found.isNone

/--
A restart that is done by the process itself keeps the keys right if the
object is stored in no other session and its start does not raise, or if its
pid remains what it is stored under.
-/
def restartKeeps
    (name : SessionName)
    (ref : ProcessRef)
    (input : RestartInput) : Bool :=
  match input.found with
  | none =>
    true
  | some found =>
    let manager := manager.discoverProcessesPerSession library found
    let process := manager.processes ref
    let registered := (manager.session? name).elim [] (·.procs)
    if registered.any fun entry =>
        replaces library process (manager.processes entry.2) then
      manager.storedOnlyIn name ref
    else
      input.created.all fun created =>
        manager.storedOnlyUnder ref created.pid ||
          manager.storedOnlyIn name ref &&
            !manager.startRaises ref created input.foundAfter

/--
A restart that is tried by the manager keeps the keys right if no process is
taken over, and the new process has the pid of the old one.
-/
def tryRestartKeeps
    (name : SessionName)
    (pid : Nat)
    (input : RestartInput) : Bool :=
  (manager.getProcess name pid).all fun ref =>
    let process := manager.processes ref
    let registered := (manager.session? name).elim [] (·.procs)
    !process.isMonitored || process.isRunning ||
      (registered.all fun entry =>
          !runsSame process (manager.processes entry.2)) &&
        input.created.all fun created => created.pid = pid

/-- Whether a tick restarts a process. -/
def tickRestarts
    (name : SessionName)
    (ref : ProcessRef)
    (input : TickInput) : Bool :=
  let before := manager.processes ref
  let process := before.onTick input
  before.status ≠ some .accessDenied && process.pid ∈ manager.pidsIn name &&
    !process.isRunning && process.isMonitored && 5 ≤ process.downTime

/-- Whether an operation keeps the keys right. -/
def keeps : ProcessAction → Bool
  | .start _ ref created _ =>
    manager.storedOnlyUnder ref created.pid
  | .tryRestart name pid input =>
    manager.tryRestartKeeps name pid input
  | .rebind _ _ newPid ref =>
    manager.pidOf ref = newPid
  | .tick name ref input restart =>
    !manager.tickRestarts name ref input ||
      ((manager.modifyProcess ref fun _ =>
          (manager.processes ref).onTick input).modifyProcess ref
        fun process =>
          { process with status := some .restarting }).restartKeeps library
        name ref restart
  | .startRegistered name pid _ restart =>
    manager.tryRestartKeeps name pid restart
  | .restart name ref input =>
    manager.restartKeeps library name ref input
  | _ =>
    true

/-! ### Every operation that keeps the keys right -/

/-- An object that a session has created a process for, before it starts. -/
def adopt (name : SessionName) (ref : ProcessRef) (pid : Nat) : SessionManager :=
  (manager.modifyProcess ref fun process =>
      { process with pid, hasHandle := true }).modifySession name
    fun session => session.register pid ref

variable {manager}

theorem pidOf_adopt (name : SessionName) (ref : ProcessRef) (pid : Nat) :
    (manager.adopt name ref pid).pidOf ref = pid := by
  simp [adopt]

variable {ref : ProcessRef}

theorem KeyedBut.adopt
    {stale : Option (SessionName × Nat)}
    (keys : manager.KeyedBut none)
    (isAllocated : ref < manager.allocated)
    {pid : Nat}
    (others :
      ∀ name key,
        (name, key, ref) ∈ manager.entries →
        pid = key ∨ stale = some (name, key))
    (name : SessionName) :
    (manager.adopt name ref pid).KeyedBut stale := by
  refine KeyedBut.register (keys.modifyProcess rfl others) name isAllocated ?_
  simp

variable {name : SessionName}

variable {pid : Nat}

theorem key_of_storedOnlyUnder
    (only : manager.storedOnlyUnder ref pid = true)
    {key : Nat}
    (stored : (name, key, ref) ∈ manager.entries) :
    pid = key := by
  have test := List.all_eq_true.mp only _ stored
  simpa using (by simpa using test : key = pid).symm

theorem name_of_storedOnlyIn
    {name other : SessionName}
    (only : manager.storedOnlyIn name ref = true)
    {key : Nat}
    (stored : (other, key, ref) ∈ manager.entries) :
    other = name := by
  simpa using List.all_eq_true.mp only _ stored

theorem KeyedBut.others
    (keys : manager.KeyedBut none)
    (only : manager.storedOnlyIn name ref = true)
    (pid : Nat) :
    ∀ other key,
      (other, key, ref) ∈ manager.entries →
      pid = key ∨ some (name, manager.pidOf ref) = some (other, key) := by
  intro other key stored
  rw [name_of_storedOnlyIn only stored, keys.keyed.pid other key ref stored]
  exact .inr rfl

theorem raised_startMonitored
    (name : SessionName)
    (ref : ProcessRef)
    (created : CreatedProcess)
    (found : Option (List DiscoveredPid)) :
    (manager.startMonitored library name ref created found).raised =
      manager.startRaises ref created found := by
  have started :
      (((manager.adopt name ref created.pid).processes ref).onStart library
          created.start).raised =
        ((manager.processes ref).status ≠ some .accessDenied &&
          created.start.full.isNone && created.start.exitCode.isNone) := by
    cases full : created.start.full with
    | some read =>
      simp [adopt, modifyProcess, ManagedProcess.onStart, full]
    | none =>
      by_cases denied : (manager.processes ref).status = some .accessDenied <;>
        cases exits : created.start.exitCode <;>
          simp [adopt, modifyProcess, ManagedProcess.onStart,
            ManagedProcess.startWithout, ManagedProcess.exitCode?,
            ManagedProcess.ensureFallbackTelemetry, full, denied, exits]
  change
    ((manager.adopt name ref created.pid).onStartMonitored library ref
      created.start found).raised = _
  unfold onStartMonitored startRaises
  rw [← started]
  dsimp only [SessionManager.onStart]
  split
  · rename_i raised
    simp [raised]
  · rename_i silent
    cases found <;> simp [silent]

theorem KeyedBut.startMonitored
    {stale : Option (SessionName × Nat)}
    (keys : manager.KeyedBut none)
    (isAllocated : ref < manager.allocated)
    {created : CreatedProcess}
    (others :
      ∀ name key,
        (name, key, ref) ∈ manager.entries →
        created.pid = key ∨ stale = some (name, key))
    (name : SessionName)
    (found : Option (List DiscoveredPid)) :
    (manager.startMonitored library name ref created found).changed.KeyedBut
      stale :=
  (keys.adopt isAllocated others name).grows
    (grows_onStartMonitored library _ ref created.start found)

theorem allocated_startMonitored
    (name : SessionName)
    (ref : ProcessRef)
    (created : CreatedProcess)
    (found : Option (List DiscoveredPid)) :
    manager.allocated ≤
      (manager.startMonitored library name ref created
        found).changed.allocated := by
  have same :
      (manager.adopt name ref created.pid).allocated = manager.allocated :=
    allocated_modifySession _ name _
  rw [← same]
  exact (grows_onStartMonitored library _ ref created.start found).allocated

theorem KeyedBut.onRestart
    (keys : manager.KeyedBut none)
    (isAllocated : ref < manager.allocated)
    {input : RestartInput}
    (keeps : manager.restartKeeps library name ref input = true) :
    (manager.onRestart library name ref input).changed.KeyedBut none := by
  unfold restartKeeps at keeps
  unfold SessionManager.onRestart
  split
  · exact keys
  · rename_i found isFound
    simp only [isFound] at keeps
    have grows := manager.grows_discoverProcessesPerSession library found
    have discovered := keys.grows grows
    have isOld := isAllocated.trans_le grows.allocated
    dsimp only at keeps ⊢
    split
    · rename_i entry isReplaced
      rw [if_pos] at keeps
      · refine KeyedBut.rebind ?_ isOld (by simp)
        exact discovered.modifyProcess (ManagedProcess.pid_setPid _ _)
          (discovered.others keeps _)
      · exact List.any_eq_true.mpr
          ⟨_, List.mem_of_find?_eq_some isReplaced,
            by simpa using List.find?_some isReplaced⟩
    · rename_i notReplaced
      rw [if_neg (by simpa using notReplaced)] at keeps
      split
      · exact discovered
      · rename_i created isCreated
        simp only [isCreated, Option.all_some, Bool.or_eq_true,
          Bool.and_eq_true, Bool.not_eq_true',
          ← raised_startMonitored library name] at keeps
        split
        · rename_i raised
          have only := keeps.resolve_right (by simp [raised])
          exact discovered.startMonitored library isOld
            (fun _ _ stored => .inl (key_of_storedOnlyUnder only stored)) name _
        · refine KeyedBut.rebind ?_ ?_ rfl
          · refine discovered.startMonitored library isOld ?_ name _
            rcases keeps with only | ⟨only, _⟩
            · exact fun _ _ stored => .inl (key_of_storedOnlyUnder only stored)
            · exact discovered.others only created.pid
          · exact isOld.trans_le (allocated_startMonitored library ..)

theorem mem_entries_of_getProcess
    (isFound : manager.getProcess name pid = some ref) :
    (name, pid, ref) ∈ manager.entries := by
  obtain ⟨session, isNamed, isRegistered⟩ :=
    Option.bind_eq_some_iff.mp isFound
  exact mem_entries.mpr
    ⟨session, Dictionary.mem_of_lookup isNamed,
      Dictionary.mem_of_lookup isRegistered⟩

theorem KeyedBut.tryRestartProcess
    (keys : manager.KeyedBut none)
    {input : RestartInput}
    (keeps : manager.tryRestartKeeps name pid input = true) :
    (manager.tryRestartProcess library name pid input).KeyedBut none := by
  unfold tryRestartKeeps at keeps
  unfold SessionManager.tryRestartProcess
  split
  · exact keys
  · rename_i ref isFound
    have isStored := mem_entries_of_getProcess isFound
    simp only [isFound, Option.all_some] at keeps
    dsimp only
    split
    · exact keys
    · rename_i isDown
      have kept := (Bool.or_eq_true _ _).mp keeps |>.resolve_left isDown
      obtain ⟨noneSame, samePid⟩ := (Bool.and_eq_true _ _).mp kept
      split
      · rename_i entry isSame
        have same := List.find?_some isSame
        have other :=
          List.all_eq_true.mp noneSame _ (List.mem_of_find?_eq_some isSame)
        simp [same] at other
      · split
        · exact keys
        · rename_i created isCreated
          simp only [isCreated, Option.all_some, decide_eq_true_eq] at samePid
          have others :
              ∀ other key,
                (other, key, ref) ∈ manager.entries →
                created.pid = key ∨ none = some (other, key) := by
            intro other key stored
            rw [samePid]
            exact .inl (keys.keyed.unique _ _ _ _ ref isStored stored)
          have started :=
            keys.startMonitored library (keys name pid ref isStored).1 others
              name input.foundAfter
          split
          · exact started
          · exact started.grows (.modifyProcess ref rfl)

theorem KeyedBut.restartProcess
    (keys : manager.KeyedBut none)
    (isAllocated : ref < manager.allocated)
    {input : RestartInput}
    (keeps :
      (manager.modifyProcess ref fun process =>
          { process with status := some .restarting }).restartKeeps library
        name ref input = true) :
    (manager.restartProcess library name ref input).KeyedBut none := by
  have restarted :=
    (keys.grows (.modifyProcess ref rfl)).onRestart library isAllocated keeps
  unfold SessionManager.restartProcess
  dsimp only
  split
  · exact restarted.grows (.modifyProcess ref rfl)
  · exact restarted

theorem KeyedBut.tickProcess
    (keys : manager.KeyedBut none)
    (isAllocated : ref < manager.allocated)
    {input : TickInput}
    {restart : RestartInput}
    (keeps : manager.keeps library (.tick name ref input restart) = true) :
    (manager.tickProcess library name ref input restart).KeyedBut none := by
  unfold SessionManager.tickProcess
  dsimp only
  have grows :
      Grows manager
        (manager.modifyProcess ref fun _ =>
          (manager.processes ref).onTick input) :=
    .modifyProcess ref (ManagedProcess.pid_onTick _ input)
  have ticked := keys.grows grows
  have dropped := fun pid =>
    ticked.grows ((grows_stop _ ref).trans (grows_drop _ name pid))
  split
  · split
    · exact dropped _
    · exact ticked
  · rename_i notDenied
    split
    · exact ticked
    · rename_i isRegistered
      split
      · exact ticked
      · rename_i isDown
        split
        · exact dropped _
        · rename_i isMonitored
          split
          · rename_i isLong
            refine ticked.restartProcess library isAllocated ?_
            have restarts : manager.tickRestarts name ref input = true := by
              simp only [tickRestarts, Bool.and_eq_true, decide_eq_true_eq]
              exact ⟨⟨⟨⟨notDenied, not_not.mp isRegistered⟩,
                by simpa using isDown⟩, by simpa using isMonitored⟩, isLong.1⟩
            simpa [SessionManager.keeps, restarts] using keeps
          · exact ticked

theorem KeyedBut.startRegistered
    (keys : manager.KeyedBut none)
    {input : StartInput}
    {restart : RestartInput}
    (keeps : manager.tryRestartKeeps name pid restart = true) :
    (manager.startRegistered library name pid input restart).KeyedBut none := by
  unfold SessionManager.startRegistered
  split
  · exact keys
  · dsimp only
    split
    · exact keys
    · split
      · exact keys.tryRestartProcess library keeps
      · exact keys.grows (grows_onStart library _ _ _)

theorem KeyedBut.start
    (keys : manager.KeyedBut none)
    {name : SessionName}
    {ref : ProcessRef}
    (isAllocated : ref < manager.allocated)
    {created : CreatedProcess}
    (only : manager.storedOnlyUnder ref created.pid = true)
    (found : Option (List DiscoveredPid)) :
    (manager.operate library (.start name ref created found)).KeyedBut
      none := by
  have others :
      ∀ name key,
        (name, key, ref) ∈ manager.entries →
        created.pid = key ∨ none = some (name, key) :=
    fun _ _ stored => .inl (key_of_storedOnlyUnder only stored)
  dsimp only [SessionManager.operate]
  split
  · exact keys.startMonitored library isAllocated others name found
  · exact (keys.adopt isAllocated others name).grows
      (grows_onStart library _ ref created.start)

theorem KeyedBut.operate
    (keys : manager.KeyedBut none)
    {action : ProcessAction}
    (onExisting : action.process?.all (· < manager.allocated) = true)
    (keeps : manager.keeps library action = true) :
    (manager.operate library action).KeyedBut none := by
  have isAllocated :
      ∀ ref, action.process? = some ref → ref < manager.allocated := by
    intro ref isCalled
    simpa [isCalled] using onExisting
  cases action with
  | construct process =>
    refine keys.grows ⟨by simp [SessionManager.operate], ?_, fun _ _ _ => .inl⟩
    intro ref isOld
    simp [SessionManager.operate, isOld.ne]
  | refresh sessionId username =>
    exact keys.grows (manager.grows_refreshSession sessionId username)
  | discover found =>
    exact keys.grows (manager.grows_discoverProcessesPerSession library found)
  | start name ref created found =>
    exact keys.start library (isAllocated ref rfl) keeps found
  | stop name pid force =>
    exact keys.grows (manager.grows_stopProcess name pid force)
  | tryRestart name pid input =>
    exact keys.tryRestartProcess library keeps
  | rebind name oldPid newPid ref =>
    exact (keys.weaken _).rebind (isAllocated ref rfl) (of_decide_eq_true keeps)
  | tick name ref input restart =>
    exact keys.tickProcess library (isAllocated ref rfl) keeps
  | startRegistered name pid input restart =>
    exact keys.startRegistered library keeps
  | reconcile name livePids =>
    refine keys.grows ?_
    exact manager.grows_stopUnmonitored name fun pid => pid ∉ livePids
  | restart name ref input =>
    exact keys.onRestart library (isAllocated ref rfl) keeps

end Operations

/-! ### Runs -/

open Transition

theorem keyedBut_empty : ({} : SessionManager).KeyedBut none := by
  intro name key ref stored
  simp [entries, named] at stored

theorem keyed_of_run
    (library : SystemLibrary)
    {actions : List ProcessAction}
    {final : SessionManager}
    (run :
      Run
        (Guarded (Fires (operate? library)) fun manager action =>
          manager.keeps library action = true)
        {} actions final) :
    final.Keyed := by
  have stepKeeps :
      ∀ before action after,
        Guarded (Fires (operate? library))
          (fun manager action => manager.keeps library action = true)
          before action after →
        before.KeyedBut none →
        after.KeyedBut none := by
    rintro before action after ⟨taken, keeps⟩ keys
    unfold Fires operate? at taken
    split at taken
    · rename_i onExisting
      obtain rfl := Option.some.inj taken
      exact keys.operate library onExisting keeps
    · cases taken
  exact (run.preserves stepKeeps keyedBut_empty).keyed

def readable : StartInput where
  full := some ({ exe := "app.exe", args := agentMarker }, none)

def restarted : RestartInput where
  created := some { pid := 11, start := readable }

/-- A monitored process is started, and stops. -/
def startsAndStops : List ProcessAction :=
  [.construct
      { info := { exe := "app.exe", args := agentMarker }
        isMonitored := true },
    .start none 0 { pid := 10, start := readable } (some []),
    .tick none 0 { now := 0, exitCode := some 1, telemetry := none }
      { created := none }]

theorem keyed_of_run_restart :
    ∃ final,
      Run
          (Guarded (Fires (operate? asciiSystemLibrary)) fun manager action =>
            manager.keeps asciiSystemLibrary action = true)
          {} (startsAndStops ++ [.restart none 0 restarted]) final ∧
        final.Keyed ∧ final.entries = [(none, 11, 0)] := by
  have tested :
      (execute
          (checked (operate? asciiSystemLibrary) fun manager action =>
            manager.keeps asciiSystemLibrary action = true)
          {} (startsAndStops ++ [.restart none 0 restarted])).any
        (fun manager => manager.entries = [(none, 11, 0)]) = true := by
    decide
  obtain ⟨final, run, stored⟩ := exists_run_of_execute tested
  exact ⟨final, run.guarded_of_checked,
    keyed_of_run asciiSystemLibrary run.guarded_of_checked,
    of_decide_eq_true stored⟩

theorem not_keyed_of_tryRestart :
    ¬∀ actions final,
      Run (Fires (operate? asciiSystemLibrary)) {} actions final →
      final.Keyed := by
  intro always
  have tested :
      (execute (operate? asciiSystemLibrary) {}
          (startsAndStops ++ [.tryRestart none 10 restarted])).any
        (fun manager =>
          manager.entries = [(none, 10, 0), (none, 11, 0)]) = true := by
    decide
  obtain ⟨final, run, stored⟩ := exists_run_of_execute tested
  have bothKeys := of_decide_eq_true stored
  have same :=
    (always _ final run).unique none none 10 11 0 (by simp [bothKeys])
      (by simp [bothKeys])
  cases same

end SessionManager

end RpaPlatform.Replica
