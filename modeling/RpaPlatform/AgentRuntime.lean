import RpaPlatform.AgentRegistry

namespace RpaPlatform.Agents

open Tasks (Json)

/-!
# The runtime state of agents

What the server keeps in memory about its agents: the merged state of each
one, its connection, its processes at the last heartbeat, and the telemetry
that heartbeats feed.  A heartbeat is merged step by step; where a step
raises, what has been changed before stays changed.
-/

/-- The library functions that handle texts and values. -/
structure TextLibrary where
  lower : String → String
  casefold : String → String
  /-- `int` of a text. -/
  int : String → Option Int
  /-- `str` of a value that is not a text. -/
  str : Json → String
  /-- `dict.update` with a value that is not a dictionary. -/
  updatePairs : JsonObject → Json → Option JsonObject
  /-- The text that a column stores of a value that is not a text. -/
  columnText : Json → Option String

def isZeroFloat (repr : String) : Bool :=
  repr = "0.0" || repr = "-0.0"

/-- Whether a value counts as true. -/
def truthy : Json → Bool
  | .null => false
  | .bool value => value
  | .num value => value ≠ 0
  | .float repr => !isZeroFloat repr
  | .str value => value ≠ ""
  | .arr items => !items.isEmpty
  | .obj fields => !fields.isEmpty

/-- Whether a value equals zero. -/
def equalsZero : Json → Bool
  | .bool value => !value
  | .num value => value = 0
  | .float repr => isZeroFloat repr
  | _ => false

/-- A change that may have raised on its way. -/
structure Attempt (Changed : Type) where
  changed : Changed
  raised : Bool

structure HeartbeatData where
  agentStatus : Option JsonObject := none
  systemMetrics : Option JsonObject := none
  sync : Bool := false
  clientId : String := ""

/-- What is remembered of a process from the last heartbeat. -/
structure ProcessState where
  running : Json
  exe : Json
  sessionId : Json

/-- `AgentRuntime`; sockets are numbered. -/
structure AgentRuntime where
  latestStats : List (String × JsonObject) := []
  activeAgents : List (String × Nat) := []
  prevProcessStates : List (String × List (String × ProcessState)) := []

/-- A sample in the ring buffer. -/
structure Sample where
  ts : Int
  cpu : Json
  memWs : Json
  memPb : Json
  handles : Json
  ioReadBps : Json
  ioWriteBps : Json
  exe : Json
  sessionId : Json

/-- `events.type`. -/
inductive EventType where
  | start
  | stop
  | fail
  | disappeared

/-- A row of `events`. -/
structure EventRow where
  ts : Int
  agentId : String
  sessionId : Json
  pid : Int
  type : EventType
  exe : Json
  detail : Option String := none

/-- The ring buffer and the event log. -/
structure Telemetry where
  samples : List ((String × Int) × List Sample) := []
  events : List EventRow := []

/-! ### Merging sessions -/

section Merging

variable (library : TextLibrary)

/-- The process reports that it has stopped. -/
def reportsStopped : Json → Bool
  | .obj fields =>
    match fields.lookup "is_running" with
    | some (.bool running) => !running
    | _ => false
  | _ => false

/-- Merge what is reported of one process. -/
def mergeProcess
    (processes : JsonObject)
    (pid : String)
    (info : Json) : Option JsonObject :=
  if reportsStopped info then
    some (Dictionary.erase pid processes)
  else
    match processes.lookup pid with
    | none =>
      some (Dictionary.set pid info processes)
    | some (.obj fields) =>
      match info with
      | .obj changes =>
        some (Dictionary.set pid
          (.obj (Dictionary.update fields changes)) processes)
      | _ =>
        (library.updatePairs fields info).map fun fields =>
          Dictionary.set pid (.obj fields) processes
    | some _ =>
      none

/-- Merge what is reported of some processes. -/
def mergeProcesses (current : Json) : JsonObject → Attempt Json
  | [] =>
    { changed := current, raised := false }
  | (pid, info) :: rest =>
    match current with
    | .obj processes =>
      match mergeProcess library processes pid info with
      | none => { changed := current, raised := true }
      | some merged => mergeProcesses (.obj merged) rest
    | _ =>
      { changed := current, raised := true }

/-- Merge the processes of a session that are reported as a difference. -/
def mergeDifference
    (target data : JsonObject)
    (incoming : Json) : Attempt JsonObject :=
  let current := (target.lookup "processes").getD (.obj [])
  let target := Dictionary.set "processes" current target
  if !truthy incoming && (data.lookup "process_count").any equalsZero then
    match current with
    | .obj _ =>
      { changed := Dictionary.set "processes" (.obj []) target
        raised := false }
    | .arr _ =>
      { changed := Dictionary.set "processes" (.arr []) target
        raised := false }
    | _ =>
      { changed := target, raised := true }
  else
    match incoming with
    | .obj processes =>
      let merged := mergeProcesses library current processes
      { changed := Dictionary.set "processes" merged.changed target
        raised := merged.raised }
    | _ =>
      { changed := target, raised := true }

/-- Merge what is reported of a session. -/
def mergeSession
    (isSync : Bool)
    (target data : JsonObject) : Attempt JsonObject :=
  let target :=
    Dictionary.update target (data.filter fun field => field.1 ≠ "processes")
  let incoming := (data.lookup "processes").getD (.obj [])
  if isSync then
    match incoming with
    | .obj processes =>
      { changed := Dictionary.set "processes" (.obj processes) target
        raised := false }
    | _ =>
      { changed := target, raised := true }
  else
    mergeDifference library target data incoming

/-- Merge what is reported of some sessions. -/
def mergeSessions
    (isSync : Bool)
    (state : JsonObject) : JsonObject → Attempt JsonObject
  | [] =>
    { changed := state, raised := false }
  | (key, .obj data) :: rest =>
    match (state.lookup key).getD (.obj []) with
    | .obj target =>
      let merged := mergeSession library isSync target data
      let state := Dictionary.set key (.obj merged.changed) state
      if merged.raised then
        { changed := state, raised := true }
      else
        mergeSessions isSync state rest
    | _ =>
      { changed := state, raised := true }
  | _ :: rest =>
    mergeSessions isSync state rest

def isObject : Json → Bool
  | .obj _ => true
  | _ => false

/-- Drop the sessions that a full report does not name. -/
def dropStale (state status : JsonObject) : JsonObject :=
  state.filter fun entry =>
    entry.1.startsWith "__" ||
      status.any fun session =>
        session.1 = entry.1 && isObject session.2

/-- The value of `__agent_connection`. -/
def connectionState (connected : Bool) (now : Int) : Json :=
  .obj [("connected", .bool connected), ("last_seen", .num now)]

/-- The part of `merge_heartbeat` that changes the agent's own state. -/
def mergeAgentState
    (payload : HeartbeatData)
    (now : Int)
    (state : JsonObject) : Attempt JsonObject :=
  let status := payload.agentStatus.getD []
  let state :=
    Dictionary.set "__agent_connection" (connectionState true now) state
  let state :=
    match payload.systemMetrics with
    | some metrics =>
      Dictionary.set "__agent_metrics" (.obj metrics) state
    | none =>
      state
  let state := if payload.sync then dropStale state status else state
  mergeSessions library payload.sync state status

/-- A state with the metrics of a heartbeat, as it is merged. -/
def withMetrics (payload : HeartbeatData) (state : JsonObject) : JsonObject :=
  match payload.systemMetrics with
  | some metrics =>
    Dictionary.set "__agent_metrics" (.obj metrics) state
  | none =>
    state

theorem lookup_withMetrics
    (payload : HeartbeatData)
    {key : String}
    (notMetrics : key ≠ "__agent_metrics")
    (state : JsonObject) :
    (withMetrics payload state).lookup key = state.lookup key := by
  unfold withMetrics
  split
  · exact Dictionary.lookup_set_other notMetrics _ _
  · rfl

end Merging

/-! ### Telemetry -/

section Ingesting

variable (library : TextLibrary) (agentId : String) (now : Int)

def fieldOr (fields : JsonObject) (key : String) (default : Json) : Json :=
  (fields.lookup key).getD default

/-- A field of a value that may be a dictionary. -/
def nestedOr
    (fields : JsonObject)
    (outer key : String)
    (default : Json) : Json :=
  match fieldOr fields outer (.obj []) with
  | .obj inner => fieldOr inner key default
  | _ => default

def orValue (value default : Json) : Json :=
  if truthy value then value else default

/-- The sample that a process is pushed as. -/
def sampleOf (sessionId : Json) (process : JsonObject) : Sample where
  ts := now
  cpu :=
    orValue (fieldOr process "cpu_usage" (.float "0.0")) (.float "0.0")
  memWs :=
    orValue
      (nestedOr process "memory_usage" "working_set_size" (.num 0))
      (.num 0)
  memPb :=
    orValue (nestedOr process "memory_usage" "private_bytes" (.num 0)) (.num 0)
  handles := orValue (fieldOr process "handle_count" (.num 0)) (.num 0)
  ioReadBps :=
    orValue
      (nestedOr process "io_counters" "read_bps" (.float "0.0"))
      (.float "0.0")
  ioWriteBps :=
    orValue
      (nestedOr process "io_counters" "write_bps" (.float "0.0"))
      (.float "0.0")
  exe := fieldOr process "exe" (.str "unknown")
  sessionId := sessionId

def Telemetry.push
    (telemetry : Telemetry)
    (pid : Int)
    (sample : Sample) : Telemetry :=
  let pushed := (telemetry.samples.lookup (agentId, pid)).getD []
  { telemetry with
    samples :=
      Dictionary.set (agentId, pid) (pushed ++ [sample])
        telemetry.samples }

/-- Push the processes of a session. -/
def ingestProcesses
    (sessionId : Json)
    (telemetry : Telemetry) : JsonObject → Attempt Telemetry
  | [] =>
    { changed := telemetry, raised := false }
  | (pidText, .obj process) :: rest =>
    match library.int pidText with
    | none =>
      { changed := telemetry, raised := true }
    | some pid =>
      ingestProcesses sessionId
        (telemetry.push agentId pid (sampleOf now sessionId process))
        rest
  | _ :: rest =>
    ingestProcesses sessionId telemetry rest

def ingestHeartbeat (telemetry : Telemetry) : JsonObject → Attempt Telemetry
  | [] =>
    { changed := telemetry, raised := false }
  | (key, .obj session) :: rest =>
    if key.startsWith "__" then
      ingestHeartbeat telemetry rest
    else
      match fieldOr session "processes" (.obj []) with
      | .obj processes =>
        let ingested :=
          ingestProcesses library agentId now
            (fieldOr session "session_id" (.num 0)) telemetry
            processes
        if ingested.raised then
          ingested
        else
          ingestHeartbeat ingested.changed rest
      | _ =>
        { changed := telemetry, raised := true }
  | _ :: rest =>
    ingestHeartbeat telemetry rest

/-- What has been detected so far. -/
structure Detection where
  current : List (String × ProcessState) := []
  telemetry : Telemetry

def Telemetry.recordEvent
    (telemetry : Telemetry)
    (event : EventRow) : Telemetry :=
  { telemetry with events := telemetry.events ++ [event] }

/-- Compare a process with what was remembered of it. -/
def detectProcess
    (previous : List (String × ProcessState))
    (sessionId : Json)
    (detection : Detection)
    (pidText : String)
    (process : JsonObject) : Attempt Detection :=
  let running := fieldOr process "is_running" (.bool false)
  let exe := fieldOr process "exe" (.str "unknown")
  let current :=
    Dictionary.set pidText { running, exe, sessionId } detection.current
  let detection := { detection with current }
  let record := fun (type : EventType) (detail : Option String) =>
    match library.int pidText with
    | none =>
      { changed := detection, raised := true }
    | some pid =>
      { changed :=
          { detection with
            telemetry :=
              detection.telemetry.recordEvent
                { ts := now, agentId, sessionId, pid, type, exe
                  detail } }
        raised := false : Attempt Detection }
  match previous.lookup pidText with
  | none =>
    if truthy running then
      record .start none
    else
      { changed := detection, raised := false }
  | some was =>
    if truthy was.running && !truthy running then
      let exitCode := fieldOr process "exit_code" (.num (-1))
      record (if equalsZero exitCode then .stop else .fail)
        (some ("exit_code=" ++ library.str exitCode))
    else
      { changed := detection, raised := false }

/-- Compare the processes of a session. -/
def detectProcesses
    (previous : List (String × ProcessState))
    (sessionId : Json)
    (detection : Detection) : JsonObject → Attempt Detection
  | [] =>
    { changed := detection, raised := false }
  | (pidText, .obj process) :: rest =>
    let detected :=
      detectProcess library agentId now previous sessionId detection
        pidText process
    if detected.raised then
      detected
    else
      detectProcesses previous sessionId detected.changed rest
  | _ :: rest =>
    detectProcesses previous sessionId detection rest

/-- Compare the sessions of an agent. -/
def detectSessions
    (previous : List (String × ProcessState))
    (detection : Detection) : JsonObject → Attempt Detection
  | [] =>
    { changed := detection, raised := false }
  | (key, .obj session) :: rest =>
    if key.startsWith "__" then
      detectSessions previous detection rest
    else
      match fieldOr session "processes" (.obj []) with
      | .obj processes =>
        let detected :=
          detectProcesses library agentId now previous
            (fieldOr session "session_id" (.num 0)) detection
            processes
        if detected.raised then
          detected
        else
          detectSessions previous detected.changed rest
      | _ =>
        { changed := detection, raised := true }
  | _ :: rest =>
    detectSessions previous detection rest

/-- Record the processes that are not reported any more. -/
def detectDisappeared
    (current : List (String × ProcessState))
    (telemetry : Telemetry) :
    List (String × ProcessState) → Attempt Telemetry
  | [] =>
    { changed := telemetry, raised := false }
  | (pidText, was) :: rest =>
    if (current.lookup pidText).isNone && truthy was.running then
      match library.int pidText with
      | none =>
        { changed := telemetry, raised := true }
      | some pid =>
        detectDisappeared current
          (telemetry.recordEvent
            { ts := now, agentId, pid, type := .disappeared
              sessionId := was.sessionId
              exe := was.exe })
          rest
    else
      detectDisappeared current telemetry rest

/-- The runtime state, with the telemetry it feeds. -/
structure Monitoring where
  runtime : AgentRuntime := {}
  telemetry : Telemetry := {}

def detectEvents
    (state : JsonObject)
    (monitoring : Monitoring) : Attempt Monitoring :=
  let known := monitoring.runtime.prevProcessStates
  let previous := (known.lookup agentId).getD []
  let runtime :=
    { monitoring.runtime with
      prevProcessStates := Dictionary.set agentId previous known }
  let detected :=
    detectSessions library agentId now previous
      { telemetry := monitoring.telemetry } state
  if detected.raised then
    { changed := { runtime, telemetry := detected.changed.telemetry }
      raised := true }
  else
    let recorded :=
      detectDisappeared library agentId now detected.changed.current
        detected.changed.telemetry previous
    if recorded.raised then
      { changed := { runtime, telemetry := recorded.changed }
        raised := true }
    else
      { changed :=
          { runtime :=
              { runtime with
                prevProcessStates :=
                  Dictionary.set agentId detected.changed.current known }
            telemetry := recorded.changed }
        raised := false }

end Ingesting

def HeartbeatData.agentId (payload : HeartbeatData) : String :=
  if payload.clientId = "" then "unknown_agent" else payload.clientId

def mergeHeartbeat
    (library : TextLibrary)
    (payload : HeartbeatData)
    (now : Int)
    (monitoring : Monitoring) : Attempt Monitoring :=
  let agentId := payload.agentId
  let stats := monitoring.runtime.latestStats
  let merged :=
    mergeAgentState library payload now ((stats.lookup agentId).getD [])
  let runtime :=
    { monitoring.runtime with
      latestStats := Dictionary.set agentId merged.changed stats }
  if merged.raised then
    { changed := { monitoring with runtime }, raised := true }
  else
    let ingested :=
      ingestHeartbeat library agentId now monitoring.telemetry
        merged.changed
    if ingested.raised then
      { changed := { runtime, telemetry := ingested.changed }
        raised := true }
    else
      detectEvents library agentId now merged.changed
        { runtime, telemetry := ingested.changed }

/-! ### Connections -/

namespace AgentRuntime

/-- `mark_agent_connection_state`, of an agent that is connected. -/
def markConnected
    (runtime : AgentRuntime)
    (agentId : String)
    (now : Int) : AgentRuntime :=
  let state := (runtime.latestStats.lookup agentId).getD []
  { runtime with
    latestStats :=
      Dictionary.set agentId
        (Dictionary.set "__agent_connection" (connectionState true now) state)
        runtime.latestStats }

/-- `register_agent`, up to the closing of an earlier connection. -/
def registerAgent
    (runtime : AgentRuntime)
    (agentId : String)
    (socket : Nat)
    (now : Int) : AgentRuntime :=
  { runtime with
    activeAgents := Dictionary.set agentId socket runtime.activeAgents
    : AgentRuntime }.markConnected agentId now

def present : Option Json → Option Json
  | some .null => none
  | value => value

def resetAgentRuntimeState
    (runtime : AgentRuntime)
    (agentId : String)
    (now : Int) : Attempt AgentRuntime :=
  let forgotten :=
    { runtime with
      prevProcessStates :=
        Dictionary.erase agentId runtime.prevProcessStates }
  match runtime.latestStats.lookup agentId with
  | none =>
    { changed := forgotten, raised := false }
  | some state =>
    let metrics := present (state.lookup "__agent_metrics")
    let preserved := fun (connection : Option Json) =>
      { changed :=
          { forgotten with
            latestStats :=
              Dictionary.set agentId
                (if metrics.isSome || connection.isSome then
                  [("__agent_metrics", metrics.getD .null),
                    ("__agent_connection", connection.getD .null)]
                else
                  [])
                runtime.latestStats }
        raised := false : Attempt AgentRuntime }
    match present (state.lookup "__agent_connection") with
    | none =>
      preserved none
    | some (.obj connection) =>
      preserved
        (some (.obj
          (Dictionary.set "last_seen" (.num now)
            (Dictionary.set "connected" (.bool false) connection))))
    | some _ =>
      { changed := runtime, raised := true }

/-- `unregister_agent`; the result tells whether the agent was reset. -/
def unregisterAgent
    (runtime : AgentRuntime)
    (clientId : Option String)
    (socket : Nat)
    (now : Int) : Attempt AgentRuntime × Bool :=
  match clientId.filter (· ≠ "") with
  | none =>
    ({ changed := runtime, raised := false }, false)
  | some agentId =>
    match runtime.activeAgents.lookup agentId with
    | none =>
      (runtime.resetAgentRuntimeState agentId now, true)
    | some current =>
      if current ≠ socket then
        ({ changed := runtime, raised := false }, false)
      else
        ({ runtime with
            activeAgents :=
              Dictionary.erase agentId runtime.activeAgents
            : AgentRuntime }.resetAgentRuntimeState agentId now,
          true)

end AgentRuntime

/-! ### Entries of one agent -/

/-- The ring buffer and the event log hold the same of other agents. -/
structure Telemetry.SpareOthers
    (owner : String)
    (before after : Telemetry) : Prop where
  samples :
    ∀ {other : String} {pid : Int},
      other ≠ owner →
      after.samples.lookup (other, pid) = before.samples.lookup (other, pid)
  events :
    ∀ {other : String},
      other ≠ owner →
      (after.events.filter fun event => event.agentId = other) =
        before.events.filter fun event => event.agentId = other

/-- The runtime maps hold the same of other agents. -/
structure AgentRuntime.SpareOthers
    (owner : String)
    (before after : AgentRuntime) : Prop where
  latestStats :
    ∀ {other : String},
      other ≠ owner →
      after.latestStats.lookup other = before.latestStats.lookup other
  activeAgents :
    ∀ {other : String},
      other ≠ owner →
      after.activeAgents.lookup other = before.activeAgents.lookup other
  prevProcessStates :
    ∀ {other : String},
      other ≠ owner →
      after.prevProcessStates.lookup other =
        before.prevProcessStates.lookup other

/-- What is kept of other agents than the owner is the same. -/
structure Monitoring.SpareOthers
    (owner : String)
    (before after : Monitoring) : Prop where
  runtime : AgentRuntime.SpareOthers owner before.runtime after.runtime
  telemetry : Telemetry.SpareOthers owner before.telemetry after.telemetry

section Isolation

variable
    {library : TextLibrary}
    {owner : String}
    {now : Int}

theorem Telemetry.SpareOthers.refl (telemetry : Telemetry) :
    SpareOthers owner telemetry telemetry :=
  ⟨fun _ => rfl, fun _ => rfl⟩

theorem Telemetry.SpareOthers.trans
    {first second third : Telemetry}
    (earlier : SpareOthers owner first second)
    (later : SpareOthers owner second third) :
    SpareOthers owner first third where
  samples different :=
    (later.samples different).trans (earlier.samples different)
  events different :=
    (later.events different).trans (earlier.events different)

theorem AgentRuntime.SpareOthers.refl (runtime : AgentRuntime) :
    SpareOthers owner runtime runtime :=
  ⟨fun _ => rfl, fun _ => rfl, fun _ => rfl⟩

theorem AgentRuntime.SpareOthers.trans
    {first second third : AgentRuntime}
    (earlier : SpareOthers owner first second)
    (later : SpareOthers owner second third) :
    SpareOthers owner first third where
  latestStats different :=
    (later.latestStats different).trans (earlier.latestStats different)
  activeAgents different :=
    (later.activeAgents different).trans (earlier.activeAgents different)
  prevProcessStates different :=
    (later.prevProcessStates different).trans
      (earlier.prevProcessStates different)

theorem Monitoring.SpareOthers.refl (monitoring : Monitoring) :
    SpareOthers owner monitoring monitoring :=
  ⟨.refl _, .refl _⟩

theorem Monitoring.SpareOthers.trans
    {first second third : Monitoring}
    (earlier : SpareOthers owner first second)
    (later : SpareOthers owner second third) :
    SpareOthers owner first third :=
  ⟨earlier.runtime.trans later.runtime, earlier.telemetry.trans later.telemetry⟩

theorem Telemetry.spareOthers_push
    (telemetry : Telemetry)
    (pid : Int)
    (sample : Sample) :
    SpareOthers owner telemetry (telemetry.push owner pid sample) where
  samples different := by
    apply Dictionary.lookup_set_other
    intro same
    exact different (congrArg Prod.fst same)
  events _ :=
    rfl

theorem Telemetry.spareOthers_recordEvent
    (telemetry : Telemetry)
    {event : EventRow}
    (own : event.agentId = owner) :
    SpareOthers owner telemetry (telemetry.recordEvent event) where
  samples _ :=
    rfl
  events different := by
    have notOther : ¬ event.agentId = _ :=
      fun same => different (same.symm.trans own)
    simp [recordEvent, List.filter_append, notOther]

theorem ingestProcesses_spareOthers
    (sessionId : Json)
    (telemetry : Telemetry)
    (processes : JsonObject) :
    Telemetry.SpareOthers owner telemetry
      (ingestProcesses library owner now sessionId telemetry
        processes).changed := by
  induction processes generalizing telemetry with
  | nil =>
    exact .refl telemetry
  | cons entry rest inductionHypothesis =>
    obtain ⟨pidText, value⟩ := entry
    cases value with
    | obj process =>
      rw [ingestProcesses]
      split
      · exact .refl telemetry
      · exact (telemetry.spareOthers_push _ _).trans (inductionHypothesis _)
    | _ =>
      exact inductionHypothesis telemetry

theorem ingestHeartbeat_spareOthers
    (telemetry : Telemetry)
    (state : JsonObject) :
    Telemetry.SpareOthers owner telemetry
      (ingestHeartbeat library owner now telemetry state).changed := by
  induction state generalizing telemetry with
  | nil =>
    exact .refl telemetry
  | cons entry rest inductionHypothesis =>
    obtain ⟨key, value⟩ := entry
    cases value with
    | obj session =>
      rw [ingestHeartbeat]
      split
      · exact inductionHypothesis telemetry
      · split
        · dsimp only
          split
          · exact ingestProcesses_spareOthers _ telemetry _
          · exact
              (ingestProcesses_spareOthers _ telemetry _).trans
                (inductionHypothesis _)
        · exact .refl telemetry
    | _ =>
      exact inductionHypothesis telemetry

theorem detectProcess_spareOthers
    (previous : List (String × ProcessState))
    (sessionId : Json)
    (detection : Detection)
    (pidText : String)
    (process : JsonObject) :
    Telemetry.SpareOthers owner detection.telemetry
      (detectProcess library owner now previous sessionId detection pidText
        process).changed.telemetry := by
  have recorded :
      ∀ event : EventRow,
        event.agentId = owner →
        Telemetry.SpareOthers owner detection.telemetry
          (detection.telemetry.recordEvent event) :=
    fun _ own => detection.telemetry.spareOthers_recordEvent own
  unfold detectProcess
  dsimp only
  split
  · split
    · split
      · exact .refl _
      · exact recorded _ rfl
    · exact .refl _
  · split
    · split
      · exact .refl _
      · exact recorded _ rfl
    · exact .refl _

theorem detectProcesses_spareOthers
    (previous : List (String × ProcessState))
    (sessionId : Json)
    (detection : Detection)
    (processes : JsonObject) :
    Telemetry.SpareOthers owner detection.telemetry
      (detectProcesses library owner now previous sessionId detection
        processes).changed.telemetry := by
  induction processes generalizing detection with
  | nil =>
    exact .refl _
  | cons entry rest inductionHypothesis =>
    obtain ⟨pidText, value⟩ := entry
    cases value with
    | obj process =>
      rw [detectProcesses]
      split
      · exact detectProcess_spareOthers previous sessionId detection
          pidText process
      · exact
          (detectProcess_spareOthers previous sessionId detection
              pidText process).trans
            (inductionHypothesis _)
    | _ =>
      exact inductionHypothesis detection

theorem detectSessions_spareOthers
    (previous : List (String × ProcessState))
    (detection : Detection)
    (state : JsonObject) :
    Telemetry.SpareOthers owner detection.telemetry
      (detectSessions library owner now previous detection
        state).changed.telemetry := by
  induction state generalizing detection with
  | nil =>
    exact .refl _
  | cons entry rest inductionHypothesis =>
    obtain ⟨key, value⟩ := entry
    cases value with
    | obj session =>
      rw [detectSessions]
      split
      · exact inductionHypothesis detection
      · split
        · dsimp only
          split
          · exact detectProcesses_spareOthers previous _ detection _
          · exact
              (detectProcesses_spareOthers previous _ detection
                  _).trans
                (inductionHypothesis _)
        · exact .refl _
    | _ =>
      exact inductionHypothesis detection

theorem detectDisappeared_spareOthers
    (current : List (String × ProcessState))
    (telemetry : Telemetry)
    (previous : List (String × ProcessState)) :
    Telemetry.SpareOthers owner telemetry
      (detectDisappeared library owner now current telemetry
        previous).changed := by
  induction previous generalizing telemetry with
  | nil =>
    exact .refl telemetry
  | cons entry rest inductionHypothesis =>
    obtain ⟨pidText, was⟩ := entry
    rw [detectDisappeared]
    split
    · split
      · exact .refl telemetry
      · refine .trans ?_ (inductionHypothesis _)
        exact telemetry.spareOthers_recordEvent rfl
    · exact inductionHypothesis telemetry

theorem detectEvents_spareOthers
    (state : JsonObject)
    (monitoring : Monitoring) :
    Monitoring.SpareOthers owner monitoring
      (detectEvents library owner now state monitoring).changed := by
  have remembered :
      ∀ processes,
        AgentRuntime.SpareOthers owner monitoring.runtime
          { monitoring.runtime with
            prevProcessStates :=
              Dictionary.set owner processes
                monitoring.runtime.prevProcessStates } :=
    fun processes =>
      ⟨fun _ => rfl, fun _ => rfl,
        fun different =>
          Dictionary.lookup_set_other different processes _⟩
  let detection : Detection := { telemetry := monitoring.telemetry }
  unfold detectEvents
  dsimp only
  split
  · exact ⟨remembered _, detectSessions_spareOthers _ detection state⟩
  · split <;>
      exact
        ⟨remembered _,
          (detectSessions_spareOthers _ detection state).trans
            (detectDisappeared_spareOthers _ _ _)⟩

theorem mergeHeartbeat_spareOthers
    (payload : HeartbeatData)
    (now : Int)
    (monitoring : Monitoring) :
    Monitoring.SpareOthers payload.agentId monitoring
      (mergeHeartbeat library payload now monitoring).changed := by
  have merged :
      ∀ state,
        AgentRuntime.SpareOthers payload.agentId monitoring.runtime
          { monitoring.runtime with
            latestStats :=
              Dictionary.set payload.agentId state
                monitoring.runtime.latestStats } :=
    fun state =>
      ⟨fun different =>
          Dictionary.lookup_set_other different state _,
        fun _ => rfl, fun _ => rfl⟩
  unfold mergeHeartbeat
  dsimp only
  split
  · exact ⟨merged _, .refl _⟩
  · split
    · exact ⟨merged _, ingestHeartbeat_spareOthers monitoring.telemetry _⟩
    · refine .trans ?_ (detectEvents_spareOthers _ _)
      exact ⟨merged _, ingestHeartbeat_spareOthers monitoring.telemetry _⟩

theorem markConnected_spareOthers (runtime : AgentRuntime) :
    AgentRuntime.SpareOthers owner runtime
      (runtime.markConnected owner now) where
  latestStats different :=
    Dictionary.lookup_set_other different _ _
  activeAgents _ :=
    rfl
  prevProcessStates _ :=
    rfl

theorem registerAgent_spareOthers
    (runtime : AgentRuntime)
    (socket : Nat) :
    AgentRuntime.SpareOthers owner runtime
      (runtime.registerAgent owner socket now) := by
  refine .trans ?_ (markConnected_spareOthers _)
  exact ⟨fun _ => rfl,
    fun different => Dictionary.lookup_set_other different socket _,
    fun _ => rfl⟩

theorem resetAgentRuntimeState_spareOthers (runtime : AgentRuntime) :
    AgentRuntime.SpareOthers owner runtime
      (runtime.resetAgentRuntimeState owner now).changed := by
  unfold AgentRuntime.resetAgentRuntimeState
  dsimp only
  split
  · exact ⟨fun _ => rfl, fun _ => rfl,
      fun different => Dictionary.lookup_erase_other different _⟩
  · split
    · exact
        ⟨fun different => Dictionary.lookup_set_other different _ _,
          fun _ => rfl,
          fun different => Dictionary.lookup_erase_other different _⟩
    · exact
        ⟨fun different => Dictionary.lookup_set_other different _ _,
          fun _ => rfl,
          fun different => Dictionary.lookup_erase_other different _⟩
    · exact .refl runtime

theorem unregisterAgent_spareOthers
    (runtime : AgentRuntime)
    (socket : Nat) :
    AgentRuntime.SpareOthers owner runtime
      (runtime.unregisterAgent (some owner) socket now).1.changed := by
  unfold AgentRuntime.unregisterAgent
  split
  · exact .refl runtime
  · rename_i agentId named
    have same : some owner = some agentId :=
      (Option.filter_eq_some_iff.mp named).1
    cases same
    split
    · exact resetAgentRuntimeState_spareOthers runtime
    · split
      · exact .refl runtime
      · refine .trans ?_ (resetAgentRuntimeState_spareOthers _)
        exact ⟨fun _ => rfl,
          fun different => Dictionary.lookup_erase_other different _,
          fun _ => rfl⟩

end Isolation

end RpaPlatform.Agents
