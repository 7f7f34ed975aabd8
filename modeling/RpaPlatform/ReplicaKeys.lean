import RpaPlatform.HeartbeatDamage
import RpaPlatform.ReplicaRuns

namespace RpaPlatform.Replica

open Agents (TextLibrary)
open Transition

/-!
# Which sessions and processes the server knows

A difference names neither the sessions that have lost their id nor the
processes that have not changed, and a process that does not run is dropped
although the agent still manages it.  As long as sessions keep their ids and
every managed process runs when it is reported or was told of before, the
server knows the sessions and the pids of the agent after every heartbeat.
-/

/-! ### Agreement -/

/-- The pids under which the server holds records of a session. -/
def heldPid
    (setting : ReplicaSetting)
    (replication : Replication)
    (key pid : String) : Bool :=
  ((Agents.processesOf
    (Agents.sessionAt (replication.held setting) key)).lookup pid).isSome

/-- The server has the agent's sessions, and of each session its pids. -/
structure KeysAgree
    (setting : ReplicaSetting)
    (replication : Replication) : Prop where
  sessions :
    ∀ key,
      Agents.isSessionKey key = true ∧
          ((replication.held setting).lookup key).isSome = true ↔
        ∃ entry ∈ replication.agent.named, key = entry.2.key
  pids :
    ∀ entry ∈ replication.agent.named,
      ∀ key,
        heldPid setting replication entry.2.key key = true ↔
          ∃ pid ∈ entry.2.pids, key = pidKey pid

/--
Sessions keep their ids, and in a difference every process that is reported
runs and every other one has been told of before.
-/
def KeepsKeys
    (replication : Replication) : ReplicaAction → Prop
  | .act _ =>
    True
  | .beat input _ _ =>
    KeepsIds replication.agent input.sync (replication.told.getD []) ∧
      (input.sync = false →
        ∀ presented ∈ replication.agent.found input,
          ∀ entry ∈ presented.processes,
            if entry.2.itChange then entry.2.isRunning = true
            else
              (toldOf (replication.told.getD [])
                presented.session.sessionId entry.1).isSome = true)

instance
    (agent : SessionManager)
    (sync : Bool)
    (told : List Told) :
    Decidable (KeepsIds agent sync told) :=
  decidable_of_iff
    (agent.sessionIds.Nodup ∧
      (sync = false → told.map Told.sessionId <+: agent.sessionIds))
    ⟨fun keeps => ⟨keeps.1, keeps.2⟩, fun keeps => ⟨keeps.distinct, keeps.kept⟩⟩

instance (replication : Replication) :
    (action : ReplicaAction) → Decidable (KeepsKeys replication action)
  | .act _ =>
    inferInstanceAs (Decidable True)
  | .beat _ _ _ =>
    inferInstanceAs (Decidable (_ ∧ _))

/-! ### Runs -/

section Runs

variable {setting : ReplicaSetting}

def showsAnything (_ : Agents.JsonObject) (_ : Content) : Prop :=
  True

theorem tellsAll_of_keepsKeys
    {replication : Replication}
    {action : ReplicaAction}
    (keeps : KeepsKeys replication action) :
    TellsAll showsAnything replication action := by
  cases action with
  | act action =>
    trivial
  | beat input systemMetrics now =>
    refine ⟨keeps.1, fun presented found entry member => ?_⟩
    obtain ⟨telemetry, has⟩ :=
      Option.isSome_iff_exists.mp
        (replication.agent.isSome_telemetry_found input found member)
    exact tells_of has (fun _ => trivial) fun _ _ _ _ _ => trivial

theorem isSome_content?_iff
    {presented : SessionManager.PresentedSession}
    (samePids : presented.processes.map Prod.fst = presented.session.pids)
    (has : ∀ entry ∈ presented.processes, entry.2.telemetry.isSome = true)
    {sync : Bool}
    {told : List Told}
    (keeps :
      sync = false →
      ∀ entry ∈ presented.processes,
        if entry.2.itChange then entry.2.isRunning = true
        else
          (toldOf told presented.session.sessionId entry.1).isSome = true)
    (pid : Nat) :
    ((tellSession sync told presented).content? pid).isSome = true ↔
      pid ∈ presented.session.pids := by
  refine ⟨isSome_content?_tellSession samePids, fun managed => ?_⟩
  rw [← samePids] at managed
  cases found : presented.processes.lookup pid with
  | none =>
    exact absurd managed (Dictionary.lookup_eq_none_iff.mp found)
  | some process =>
    have isContent : process.content?.isSome = true := by
      have isTelemetry := has _ (Dictionary.mem_of_lookup found)
      simpa [ManagedProcess.content?] using isTelemetry
    unfold tellSession
    dsimp only
    rw [found, Option.bind_some]
    cases sync with
    | true =>
      exact isContent
    | false =>
      have kept := keeps rfl _ (Dictionary.mem_of_lookup found)
      dsimp only at kept
      unfold tellProcess
      cases flagged : process.itChange with
      | true =>
        rw [flagged, if_pos rfl] at kept
        simp [kept, isContent]
      | false =>
        rw [flagged, if_neg Bool.false_ne_true] at kept
        simpa using kept

theorem isSome_lookup_iff
    {shows : Agents.JsonObject → Content → Prop}
    {processes : Agents.JsonObject}
    {content? : Nat → Option Content}
    (holds : HoldsProcesses shows processes content?)
    (key : String) :
    (processes.lookup key).isSome = true ↔
      ∃ pid, (content? pid).isSome = true ∧ key = pidKey pid := by
  constructor
  · intro present
    obtain ⟨record, found⟩ := Option.isSome_iff_exists.mp present
    obtain ⟨pid, rfl⟩ := holds.pids key record found
    have held := holds.records pid
    rw [found] at held
    obtain ⟨_, content, _, isTold, _⟩ := exists_of_holdsRecord held
    exact ⟨pid, Option.isSome_iff_exists.mpr ⟨content, isTold⟩, rfl⟩
  · rintro ⟨pid, isTold, rfl⟩
    have held := holds.records pid
    obtain ⟨content, isContent⟩ := Option.isSome_iff_exists.mp isTold
    cases found : processes.lookup (pidKey pid) with
    | some record =>
      rfl
    | none =>
      rw [found, isContent] at held
      exact held.elim

/--
After every heartbeat of a run that begins with a full sync, the server knows
the sessions of the agent and the pids of each of them.
-/
theorem keysAgree_of_run
    {start after : Replication}
    (untold : start.told = none)
    (sessions : Agents.HoldsSessions (start.held setting))
    {actions : List ReplicaAction}
    {input : ReportInput}
    {systemMetrics : Option Agents.JsonObject}
    {now : Int}
    (run :
      Run (Guarded (Fires (Replication.step? setting)) KeepsKeys) start
        (actions ++ [.beat input systemMetrics now]) after) :
    KeysAgree setting after := by
  obtain ⟨before, keeps, isAgent, holds⟩ :=
    holdsTold_of_run (fun _ _ => tellsAll_of_keepsKeys) untold sessions run
  refine ⟨fun key => ⟨?_, ?_⟩, ?_⟩
  · rintro ⟨isSession, present⟩
    obtain ⟨session, told, rfl⟩ := holds.sessions key isSession present
    obtain ⟨presented, found, rfl⟩ := List.mem_map.mp told
    obtain ⟨entry, member, isMarked⟩ :=
      before.agent.exists_named_of_found input found
    rw [isAgent]
    refine ⟨entry, member, ?_⟩
    rw [isMarked]
    rfl
  · rintro ⟨entry, member, rfl⟩
    rw [isAgent] at member
    obtain ⟨presented, found, isMarked⟩ :=
      before.agent.exists_found_of_named input member
    obtain ⟨fields, _, stored, _⟩ :=
      holds.stored _ (List.mem_map_of_mem found)
    rw [isMarked]
    refine ⟨isSessionKey_sessionKey _, ?_⟩
    exact Option.isSome_iff_exists.mpr ⟨_, stored⟩
  · intro entry member key
    rw [isAgent] at member
    obtain ⟨presented, found, isMarked⟩ :=
      before.agent.exists_found_of_named input member
    have held := holds.processes (List.mem_map_of_mem found)
    unfold heldPid
    rw [isMarked]
    refine (isSome_lookup_iff held key).trans ?_
    have isTold :=
      isSome_content?_iff (before.agent.pids_found input found)
        (fun _ => before.agent.isSome_telemetry_found input found)
        fun isDifference => keeps.2 isDifference presented found
    constructor
    · rintro ⟨pid, told, rfl⟩
      exact ⟨pid, (isTold pid).mp told, rfl⟩
    · rintro ⟨pid, managed, rfl⟩
      exact ⟨pid, (isTold pid).mpr managed, rfl⟩

end Runs

/-! ### A run that keeps the keys, and one that does not -/

/-- The library functions, as far as ASCII texts are concerned. -/
def asciiSystemLibrary : SystemLibrary where
  lower text := String.ofList (text.toList.map Char.toLower)
  strip := Agents.strip
  join directory name := directory ++ "\\" ++ name
  basename text :=
    String.ofList (text.toList.reverse.takeWhile (· ≠ '\\')).reverse
  dirname text :=
    String.ofList (text.toList.reverse.dropWhile (· ≠ '\\')).tail.reverse

def plainSetting : ReplicaSetting where
  system := asciiSystemLibrary
  text := Agents.decimalTextLibrary
  clientId := "agent-1"

/-- A heartbeat when no exit code can be read. -/
def plainBeat (sync : Bool) : ReplicaAction :=
  .beat
    { sync
      exitCode := fun _ => none
      labels := fun _ => ⟨"Console", "HOST\\robot", "Active"⟩ }
    none 0

def seeSession (sessionId : Nat) : ReplicaAction :=
  .act (.refresh sessionId (some "robot"))

/-- A program is started under a pid. -/
def startProgram (pid : Nat) : ReplicaAction :=
  .act (.start (some "robot") { exe := "c:\\robot.exe" }
      { pid
        start :=
          { full := some ({ exe := "robot.exe" }, some { pid }) } }
      none)

theorem holdsSessions_nothing :
    Agents.HoldsSessions (({} : Replication).held plainSetting) := by
  have nothing : ({} : Replication).held plainSetting = [] := rfl
  rw [nothing]
  exact fun _ _ _ => nofun

/-- A program that has been started is reported by a difference. -/
theorem startProgram_keysAgree :
    ∃ after : Replication,
      KeysAgree plainSetting after ∧
        (after.agent.named.map fun entry =>
            (entry.2.sessionId, entry.2.pids)) =
          [(0, []), (2, [7])] := by
  obtain ⟨after, run, isManaged⟩ :=
    @exists_run_of_execute _ _
      (checked (Replication.step? plainSetting) KeepsKeys) {}
      ([seeSession 2, plainBeat true, startProgram 7] ++ [plainBeat false])
      (fun after =>
        (after.agent.named.map fun entry =>
            (entry.2.sessionId, entry.2.pids)) =
          [(0, []), (2, [7])])
      (by decide +kernel)
  refine ⟨after, ?_, of_decide_eq_true isManaged⟩
  exact keysAgree_of_run rfl holdsSessions_nothing run.guarded_of_checked

/-- A user who gets another session leaves the old one with the server. -/
theorem not_keysAgree :
    ¬ ∀ {setting : ReplicaSetting} {start after : Replication}
        {actions : List ReplicaAction} {input : ReportInput}
        {systemMetrics : Option Agents.JsonObject} {now : Int},
        start.told = none →
        Agents.HoldsSessions (start.held setting) →
        Run (Fires (Replication.step? setting)) start
          (actions ++ [.beat input systemMetrics now]) after →
        KeysAgree setting after := by
  intro agrees
  obtain ⟨after, run, isHeld⟩ :=
    @exists_run_of_execute _ _ (Replication.step? plainSetting) {}
      ([seeSession 2, plainBeat true, seeSession 3] ++ [plainBeat false])
      (fun after =>
        ((after.held plainSetting).lookup "session:2").isSome &&
          after.agent.named.all fun entry => entry.2.key ≠ "session:2")
      (by decide +kernel)
  rw [Bool.and_eq_true] at isHeld
  have keysAgree := agrees rfl holdsSessions_nothing run
  obtain ⟨entry, member, isKey⟩ :=
    (keysAgree.sessions "session:2").mp ⟨by decide +kernel, isHeld.1⟩
  have other := List.all_eq_true.mp isHeld.2 entry member
  exact of_decide_eq_true other isKey.symm

end RpaPlatform.Replica
