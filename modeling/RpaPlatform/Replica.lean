import RpaPlatform.AgentPresence
import RpaPlatform.AgentReports
import RpaPlatform.RecordMerging

namespace RpaPlatform.Replica

open Agents (JsonObject HeartbeatData Monitoring TextLibrary)
open Tasks (Json)
open Transition

/-!
# An agent and what the server holds of it

A heartbeat tells the server of a process all there is to know, or nothing, or
that it does not run any more; on the wire it is a full record or a difference
against what was sent of that process last.  What the server has been told is
kept beside the two as a history, so that what the server holds can be compared
with it.
-/

/-! ### What the server is told -/

/-- What the server is to show of a process. -/
structure Content where
  exe : String
  exePath : String
  args : String
  cmd : String
  user : String
  ppid : Option Nat
  window : WindowFields
  cpuUsage : String
  workingSet : Nat
  privateBytes : Nat
  handleCount : Nat
  ioCounters : IoCounters
  exitCode : Option Int
deriving DecidableEq

/-- What there is to show of a process with some telemetry. -/
def ManagedProcess.contentWith
    (process : ManagedProcess)
    (telemetry : ProcessTelemetry) : Content where
  exe := process.info.exe
  exePath := process.info.exePath
  args := process.info.args
  cmd := process.info.cmd
  user := process.info.user
  ppid := process.info.ppid
  window := process.info.window
  cpuUsage := telemetry.cpuUsage
  workingSet := telemetry.workingSet
  privateBytes := telemetry.privateBytes
  handleCount := telemetry.handleCount
  ioCounters := telemetry.ioCounters
  exitCode := telemetry.exitCode

def ManagedProcess.content? (process : ManagedProcess) : Option Content :=
  process.telemetry.map process.contentWith

/-- What the server has been told of the processes of a session. -/
structure Told where
  sessionId : Nat
  content? : Nat → Option Content

/-- What the server has been told of the session with an id. -/
def toldOf (told : List Told) (sessionId : Nat) (pid : Nat) :
    Option Content :=
  (told.find? fun session => session.sessionId = sessionId).bind
    fun session => session.content? pid

/-- What a heartbeat tells of a process; one that has stopped is dropped. -/
def tellProcess
    (sync : Bool)
    (before : Option Content)
    (process : ManagedProcess) : Option Content :=
  if sync then process.content?
  else if !process.itChange then before
  else if process.isRunning then process.content?
  else none

/-- What the server has been told of a session after a heartbeat. -/
def tellSession
    (sync : Bool)
    (told : List Told)
    (presented : SessionManager.PresentedSession) : Told where
  sessionId := presented.session.sessionId
  content? := fun pid =>
    (presented.processes.lookup pid).bind
      (tellProcess sync (toldOf told presented.session.sessionId pid))

/-! ### The system -/

/-- An agent, the server, and what the agent has told it since a full sync. -/
structure Replication where
  agent : SessionManager := {}
  server : Monitoring := {}
  told : Option (List Told) := none

/-- What happens. -/
inductive ReplicaAction where
  | act (action : AgentAction)
  | beat
      (input : ReportInput)
      (systemMetrics : Option JsonObject)
      (now : Int)

/-- The libraries, and the agent's id. -/
structure ReplicaSetting where
  system : SystemLibrary
  text : TextLibrary
  clientId : String

namespace Replication

/-- The heartbeat of an agent. -/
def heartbeat
    (setting : ReplicaSetting)
    (agent : SessionManager)
    (input : ReportInput)
    (systemMetrics : Option JsonObject) : HeartbeatData where
  agentStatus := some (agent.getStatus input).1
  systemMetrics := systemMetrics
  sync := input.sync
  clientId := setting.clientId

/-- Agents act and send heartbeats, the first of which is a full sync. -/
def step?
    (setting : ReplicaSetting)
    (replication : Replication) : ReplicaAction → Option Replication
  | .act action =>
    some
      { replication with
        agent := replication.agent.act setting.system action }
  | .beat input systemMetrics now =>
    if replication.told.isNone && !input.sync then
      none
    else
      some
        { agent := (replication.agent.getStatus input).2
          server :=
            (Agents.mergeHeartbeat setting.text
              (heartbeat setting replication.agent input systemMetrics)
              now replication.server).changed
          told :=
            some
              ((replication.agent.found input).map
                (tellSession input.sync (replication.told.getD []))) }

/-- What the server holds of the agent. -/
def held
    (setting : ReplicaSetting)
    (replication : Replication) : JsonObject :=
  replication.server.runtime.stateOf
    (if setting.clientId = "" then "unknown_agent" else setting.clientId)

end Replication

/-! ### What the server holds -/

section Holding

variable (shows : JsonObject → Content → Prop)

/-- A record is held if it has been told, and shows what has been told. -/
def HoldsRecord : Option Json → Option Content → Prop
  | none, none => True
  | some (.obj fields), some content => shows fields content
  | _, _ => False

/-- The records of a session are those of the processes that were told. -/
structure HoldsProcesses
    (processes : JsonObject)
    (content? : Nat → Option Content) : Prop where
  pids :
    ∀ key record, processes.lookup key = some record → ∃ pid, key = pidKey pid
  records :
    ∀ pid, HoldsRecord shows (processes.lookup (pidKey pid)) (content? pid)

/-- The sessions of a state are those that were told. -/
structure HoldsTold (state : JsonObject) (told : List Told) : Prop where
  sessions :
    ∀ key,
      Agents.isSessionKey key = true →
      (state.lookup key).isSome = true →
      ∃ session ∈ told, key = sessionKey session.sessionId
  stored :
    ∀ session ∈ told,
      ∃ fields processes,
        state.lookup (sessionKey session.sessionId) = some (.obj fields) ∧
          fields.lookup "processes" = some (.obj processes) ∧
          HoldsProcesses shows processes session.content?

end Holding

/-- What was told of a process was reported by its session. -/
def Remembers (agent : SessionManager) (told : List Told) : Prop :=
  ∃ last added,
    agent.reportedPids = last ++ List.replicate added [] ∧
      List.Forall₂
        (fun pids (session : Told) =>
          ∀ pid, (session.content? pid).isSome = true → pid ∈ pids)
        last told

def SessionManager.sessionIds (manager : SessionManager) : List Nat :=
  manager.named.map fun entry => entry.2.sessionId

/--
No two sessions share an id, and none has another id than at the heartbeat
before.
-/
structure KeepsIds
    (agent : SessionManager)
    (sync : Bool)
    (told : List Told) : Prop where
  distinct : agent.sessionIds.Nodup
  kept : sync = false → told.map Told.sessionId <+: agent.sessionIds

/-- A record comes to show what a heartbeat tells of its process. -/
def Tells
    (shows : JsonObject → Content → Prop)
    (sync : Bool)
    (before : Option Content)
    (process : ManagedProcess) : Prop :=
  if sync then
    HoldsRecord shows ((process.news true).map Json.obj)
      (tellProcess true before process)
  else
    ∀ stored,
      HoldsRecord shows stored before →
      HoldsRecord shows
        (Agents.mergedRecord stored ((process.news false).map Json.obj))
        (tellProcess false before process)

/-! ### Keys -/

theorem sessionKey_injective
    {sessionId other : Nat}
    (same : sessionKey sessionId = sessionKey other) :
    sessionId = other := by
  refine pidKey_injective ?_
  simpa [sessionKey, pidKey] using same

theorem isSessionKey_sessionKey (sessionId : Nat) :
    Agents.isSessionKey (sessionKey sessionId) = true := by
  have visible : (sessionKey sessionId).startsWith "__" = false := by
    rw [String.startsWith_string_eq_false_iff]
    simp [sessionKey]
  simp [Agents.isSessionKey, visible]

/-! ### Processes -/

section Processes

variable
    {shows : JsonObject → Content → Prop}
    {process : ManagedProcess}
    {telemetry : ProcessTelemetry}

theorem lookup_changed
    {key other : String}
    (different : other ≠ key)
    (isSame : Bool)
    (value : Json) :
    (ProcessTelemetry.changed key isSame value).lookup other = none := by
  cases isSame with
  | true =>
    rfl
  | false =>
    have otherKey : (other == key) = false := by
      simpa using different
    simp [ProcessTelemetry.changed, List.lookup_cons, otherKey]

theorem lookup_isRunning_delta
    (process : ManagedProcess)
    (telemetry : ProcessTelemetry)
    (sync : Bool) :
    (process.delta telemetry sync).lookup "is_running" =
      some (.bool process.isRunning) := by
  have noInfo :
      (process.info.fields process.isMonitored).lookup "is_running" = none := by
    simp [ProcessInfo.fields, List.lookup_cons]
  have noTelemetry : telemetry.fields.lookup "is_running" = none := by
    simp [ProcessTelemetry.fields, List.lookup_cons]
  have noChanges :
      ∀ last, (telemetry.changes last).lookup "is_running" = none := by
    intro last
    simp [ProcessTelemetry.changes, List.lookup_append, lookup_changed]
  unfold ManagedProcess.delta
  dsimp only
  generalize (if sync then none else process.lastSendState) = last
  cases last with
  | none =>
    simp [List.lookup_cons, List.lookup_append, noInfo, noTelemetry]
  | some last =>
    simp [List.lookup_cons, List.lookup_append, noChanges]

theorem reportsStopped_delta
    (process : ManagedProcess)
    (telemetry : ProcessTelemetry)
    (sync : Bool) :
    Agents.reportsStopped (.obj (process.delta telemetry sync)) =
      !process.isRunning := by
  unfold Agents.reportsStopped
  dsimp only
  rw [lookup_isRunning_delta]

/--
What a record comes to show is what is told, if full records do and if
differences of processes that run do.
-/
theorem tells_of
    {sync : Bool}
    {before : Option Content}
    (has : process.telemetry = some telemetry)
    (full :
      sync = true →
      shows (process.delta telemetry true) (process.contentWith telemetry))
    (difference :
      sync = false →
      process.itChange = true →
      process.isRunning = true →
      ∀ stored, HoldsRecord shows stored before → shows
          (match stored with
          | some (.obj fields) =>
            Dictionary.update fields (process.delta telemetry false)
          | _ => process.delta telemetry false)
          (process.contentWith telemetry)) :
    Tells shows sync before process := by
  have isContent : process.content? = some (process.contentWith telemetry) := by
    simp [ManagedProcess.content?, has]
  cases sync with
  | true =>
    have news : process.news true = some (process.delta telemetry true) := by
      simp [ManagedProcess.news, has]
    unfold Tells tellProcess
    rw [if_pos rfl, if_pos rfl, news, isContent]
    exact full rfl
  | false =>
    unfold Tells
    rw [if_neg Bool.false_ne_true]
    intro stored holds
    cases flagged : process.itChange with
    | false =>
      have silent : process.news false = none := by
        simp [ManagedProcess.news, has, flagged]
      rw [silent]
      simpa [tellProcess, flagged, Agents.mergedRecord] using holds
    | true =>
      have news :
          process.news false = some (process.delta telemetry false) := by
        simp [ManagedProcess.news, has, flagged]
      rw [news]
      cases running : process.isRunning with
      | false =>
        simp [tellProcess, flagged, running, Agents.mergedRecord,
          reportsStopped_delta, HoldsRecord]
      | true =>
        have shown := difference rfl flagged running stored holds
        have told :
            tellProcess false before process =
              some (process.contentWith telemetry) := by
          simp [tellProcess, flagged, running, isContent]
        rw [told]
        simp only [Option.map_some, Agents.mergedRecord,
          reportsStopped_delta, running, Bool.not_true,
          Bool.false_eq_true, if_false]
        revert shown
        cases stored with
        | none =>
          exact id
        | some record =>
          cases record with
          | obj fields =>
            exact id
          | _ =>
            exact id

end Processes

/-! ### Sessions -/

section Sessions

variable {shows : JsonObject → Content → Prop}

theorem exists_of_holdsRecord
    {record : Json}
    {content? : Option Content}
    (holds : HoldsRecord shows (some record) content?) :
    ∃ fields content,
      record = .obj fields ∧ content? = some content ∧
        shows fields content := by
  cases content? with
  | none =>
    cases record <;> exact holds.elim
  | some content =>
    cases record with
    | obj fields =>
      exact ⟨fields, content, rfl, rfl, holds⟩
    | _ =>
      exact holds.elim

theorem HoldsProcesses.objects
    {processes : JsonObject}
    {content? : Nat → Option Content}
    (holds : HoldsProcesses shows processes content?) :
    Agents.HoldsObjects processes := by
  intro key record found
  obtain ⟨pid, rfl⟩ := holds.pids key record found
  have held := holds.records pid
  rw [found] at held
  obtain ⟨fields, _, rfl, _⟩ := exists_of_holdsRecord held
  rfl

theorem holdsProcesses_nil :
    HoldsProcesses shows [] fun _ => none where
  pids := fun _ _ => nofun
  records := fun _ => trivial

theorem holdsProcesses_sync
    {presented : SessionManager.PresentedSession}
    (samePids : presented.processes.map Prod.fst = presented.session.pids)
    (told : List Told)
    (tells :
      ∀ entry ∈ presented.processes,
        Tells shows true
          (toldOf told presented.session.sessionId entry.1) entry.2) :
    HoldsProcesses shows (presented.reported true)
      (tellSession true told presented).content? where
  pids := by
    intro key record found
    obtain ⟨pid, fields, isEntry⟩ :=
      SessionManager.mem_reported (Dictionary.mem_of_lookup found)
    exact ⟨pid, (Prod.mk.inj isEntry).1⟩
  records := by
    intro pid
    unfold tellSession
    dsimp only
    rw [SessionManager.lookup_reported samePids]
    cases found : presented.processes.lookup pid with
    | none =>
      simp [HoldsRecord]
    | some process =>
      exact tells _ (Dictionary.mem_of_lookup found)

/-- A difference changes what is held to what has been told. -/
theorem holdsProcesses_difference
    {presented : SessionManager.PresentedSession}
    (samePids : presented.processes.map Prod.fst = presented.session.pids)
    {told : List Told}
    (tells :
      ∀ entry ∈ presented.processes,
        Tells shows false
          (toldOf told presented.session.sessionId entry.1) entry.2)
    (remembers :
      ∀ pid,
        (toldOf told presented.session.sessionId pid).isSome = true →
        pid ∈ presented.session.lastReportedPids)
    {before after : JsonObject}
    (holds :
      HoldsProcesses shows before (toldOf told presented.session.sessionId))
    (becomes :
      ∀ key,
        after.lookup key =
          Agents.mergedRecord (before.lookup key)
            ((presented.reported false).lookup key)) :
    HoldsProcesses shows after (tellSession false told presented).content? where
  pids := by
    intro key record found
    rw [becomes] at found
    cases reported : (presented.reported false).lookup key with
    | none =>
      rw [reported] at found
      exact holds.pids key record found
    | some info =>
      obtain ⟨pid, fields, isEntry⟩ :=
        SessionManager.mem_reported (Dictionary.mem_of_lookup reported)
      exact ⟨pid, (Prod.mk.inj isEntry).1⟩
  records := by
    intro pid
    have held := holds.records pid
    unfold tellSession
    dsimp only
    rw [becomes, SessionManager.lookup_reported samePids]
    cases found : presented.processes.lookup pid with
    | some process =>
      exact tells _ (Dictionary.mem_of_lookup found) _ held
    | none =>
      dsimp only [Option.bind_none]
      by_cases gone : pid ∈ presented.session.lastReportedPids
      · rw [if_pos ⟨rfl, gone⟩]
        exact trivial
      · rw [if_neg fun isGone => gone isGone.2]
        have untold : toldOf told presented.session.sessionId pid = none := by
          by_contra isTold
          exact gone (remembers pid (Option.isSome_iff_ne_none.mpr isTold))
        rwa [untold] at held

end Sessions

/-! ### Reports -/

section Reports

variable {agent : SessionManager} {input : ReportInput}

theorem sessionIds_found (agent : SessionManager) (input : ReportInput) :
    (agent.found input).map (fun presented => presented.session.sessionId) =
      agent.sessionIds := by
  have sessions :=
    agent.sessions_presentedSessions input [] agent.named
  have ids := congrArg (List.map UserSession.sessionId) sessions
  rw [List.map_map, List.map_map] at ids
  exact ids

def statusOf (agent : SessionManager) (input : ReportInput) : JsonObject :=
  (agent.found input).map fun presented =>
    (presented.session.key, Json.obj (presented.summary input.sync))

theorem nodup_statusOf (distinct : agent.sessionIds.Nodup) :
    ((statusOf agent input).map Prod.fst).Nodup := by
  have keys :
      (statusOf agent input).map Prod.fst =
        agent.sessionIds.map sessionKey := by
    rw [← sessionIds_found agent input, statusOf, List.map_map, List.map_map]
    rfl
  rw [keys]
  exact distinct.map fun _ _ => sessionKey_injective

theorem getStatus_of_distinct (distinct : agent.sessionIds.Nodup) :
    (agent.getStatus input).1 = statusOf agent input := by
  rw [agent.getStatus_eq input]
  exact
    Dictionary.update_of_distinct
      (nodup_statusOf distinct : ((statusOf agent input).map _).Nodup)

theorem reportsSessions_statusOf (distinct : agent.sessionIds.Nodup) :
    Agents.ReportsSessions (statusOf agent input) where
  distinct := nodup_statusOf distinct
  sessions := by
    intro entry member
    obtain ⟨presented, _, rfl⟩ := List.mem_map.mp member
    exact ⟨isSessionKey_sessionKey _, _, rfl⟩

variable {presented : SessionManager.PresentedSession}

theorem lookup_statusOf
    (distinct : agent.sessionIds.Nodup)
    (member : presented ∈ agent.found input) :
    (statusOf agent input).lookup presented.session.key =
      some (.obj (presented.summary input.sync)) :=
  Dictionary.lookup_of_mem (nodup_statusOf distinct)
    (List.mem_map.mpr ⟨presented, member, rfl⟩)

theorem exists_of_mem_statusOf
    {key : String}
    {value : Json}
    (member : (key, value) ∈ statusOf agent input) :
    ∃ presented ∈ agent.found input,
      key = presented.session.key ∧
        value = .obj (presented.summary input.sync) := by
  obtain ⟨presented, found, isEntry⟩ := List.mem_map.mp member
  obtain ⟨isKey, isValue⟩ := Prod.mk.inj isEntry
  exact ⟨presented, found, isKey.symm, isValue.symm⟩

theorem listsProcesses_summary
    (samePids : presented.processes.map Prod.fst = presented.session.pids)
    (sync : Bool) :
    Agents.ListsProcesses (presented.summary sync)
      (presented.reported sync) where
  processes := by
    unfold SessionManager.PresentedSession.summary UserSession.summary
    rw [Dictionary.lookup_unpack]
    rfl
  distinct := SessionManager.nodup_reported samePids sync
  objects := by
    intro entry member
    obtain ⟨pid, fields, rfl⟩ := SessionManager.mem_reported member
    exact ⟨fields, rfl⟩

theorem processes_of_processCount
    (samePids : presented.processes.map Prod.fst = presented.session.pids)
    {sync : Bool}
    (counted :
      ((presented.summary sync).lookup "process_count").any
        Agents.equalsZero = true) :
    presented.processes = [] := by
  have isCount :
      (presented.summary sync).lookup "process_count" =
        some (natJson presented.session.procs.length) := by
    unfold SessionManager.PresentedSession.summary UserSession.summary
    rw [Dictionary.lookup_unpack]
    rfl
  rw [isCount] at counted
  have none : presented.session.procs = [] := by
    simpa [natJson, Agents.equalsZero] using counted
  unfold UserSession.pids at samePids
  rw [none] at samePids
  exact List.map_eq_nil_iff.mp samePids

end Reports

end RpaPlatform.Replica
