import RpaPlatform.HeartbeatMerging

namespace RpaPlatform.Agents

open Tasks (Json)

/-!
# What is detected in a healthy state

The processes of a merged state are looked at one after the other: each is
remembered under its pid, and compared with what was remembered at the last
heartbeat.  In a healthy state nothing of this raises, so that what is
remembered and what is recorded are functions of the listed processes.
-/

/-- A process that a session of the merged state lists. -/
structure Listed where
  sessionId : Json
  pidText : String
  process : JsonObject

namespace Listed

/-- `is_running` of a listed process. -/
def running (listed : Listed) : Json :=
  fieldOr listed.process "is_running" (.bool false)

/-- `exe` of a listed process. -/
def exe (listed : Listed) : Json :=
  fieldOr listed.process "exe" (.str "unknown")

/-- `exit_code` of a listed process. -/
def exitCode (listed : Listed) : Json :=
  fieldOr listed.process "exit_code" (.num (-1))

/-- What is remembered of a listed process. -/
def remembered (listed : Listed) : String × ProcessState :=
  (listed.pidText,
    { running := listed.running
      exe := listed.exe
      sessionId := listed.sessionId })

end Listed

/-- The processes that a session lists. -/
def listedProcesses
    (sessionId : Json)
    (processes : JsonObject) : List Listed :=
  processes.filterMap fun entry =>
    match entry.2 with
    | .obj process => some { sessionId, pidText := entry.1, process }
    | _ => none

/-- The processes that an entry of a state lists. -/
def listedIn (key : String) (value : Json) : List Listed :=
  match value with
  | .obj session =>
    if isSessionKey key then
      listedProcesses (fieldOr session "session_id" (.num 0))
        (mappingFields (fieldOr session "processes" (.obj [])))
    else
      []
  | _ => []

def listed (state : JsonObject) : List Listed :=
  state.flatMap fun entry => listedIn entry.1 entry.2

def snapshot (state : JsonObject) : List (String × ProcessState) :=
  Dictionary.update [] ((listed state).map Listed.remembered)

section Events

variable (library : TextLibrary) (agentId : String) (now : Int)

/-- The event of a process that is listed. -/
def Listed.event?
    (previous : List (String × ProcessState))
    (listed : Listed) : Option EventRow :=
  let row := fun (type : EventType) (detail : Option String) =>
    { ts := now
      agentId
      sessionId := listed.sessionId
      pid := (library.int listed.pidText).getD 0
      type
      exe := listed.exe
      detail : EventRow }
  match previous.lookup listed.pidText with
  | none =>
    if truthy listed.running then some (row .start none) else none
  | some was =>
    if truthy was.running && !truthy listed.running then
      some
        (row (if equalsZero listed.exitCode then .stop else .fail)
          (some ("exit_code=" ++ library.str listed.exitCode)))
    else
      none

/-- The event of a process that was remembered. -/
def disappearance?
    (current : List (String × ProcessState))
    (entry : String × ProcessState) : Option EventRow :=
  if (current.lookup entry.1).isNone && truthy entry.2.running then
    some
      { ts := now
        agentId
        pid := (library.int entry.1).getD 0
        type := .disappeared
        sessionId := entry.2.sessionId
        exe := entry.2.exe }
  else
    none

/-- The events of a heartbeat that leaves a state. -/
def detectedEvents
    (previous : List (String × ProcessState))
    (state : JsonObject) : List EventRow :=
  (listed state).filterMap
      (Listed.event? library agentId now previous) ++
    previous.filterMap (disappearance? library agentId now (snapshot state))

/-- Events are added to the event log. -/
def Telemetry.recordEvents
    (telemetry : Telemetry)
    (events : List EventRow) : Telemetry :=
  { telemetry with events := telemetry.events ++ events }

/-- What has been detected after some more processes. -/
def Detection.observe
    (previous : List (String × ProcessState))
    (detection : Detection)
    (processes : List Listed) : Detection where
  current :=
    Dictionary.update detection.current (processes.map Listed.remembered)
  telemetry :=
    detection.telemetry.recordEvents
      (processes.filterMap (Listed.event? library agentId now previous))

end Events

section Detecting

variable {library : TextLibrary} {agentId : String} {now : Int}

theorem Telemetry.recordEvents_recordEvents
    (telemetry : Telemetry)
    (earlier later : List EventRow) :
    (telemetry.recordEvents earlier).recordEvents later =
      telemetry.recordEvents (earlier ++ later) := by
  simp [recordEvents]

theorem Telemetry.recordEvent_eq
    (telemetry : Telemetry)
    (event : EventRow) :
    telemetry.recordEvent event = telemetry.recordEvents [event] :=
  rfl

theorem Telemetry.recordEvents_nil (telemetry : Telemetry) :
    telemetry.recordEvents [] = telemetry := by
  simp [recordEvents]

theorem Detection.observe_append
    (previous : List (String × ProcessState))
    (detection : Detection)
    (first second : List Listed) :
    (detection.observe library agentId now previous first).observe library
        agentId now previous second =
      detection.observe library agentId now previous (first ++ second) := by
  simp [observe, Telemetry.recordEvents_recordEvents, Dictionary.update]

theorem Detection.observe_nil
    (previous : List (String × ProcessState))
    (detection : Detection) :
    detection.observe library agentId now previous [] = detection := by
  simp [observe, Telemetry.recordEvents_nil, Dictionary.update]

theorem detectProcess_eq
    (previous : List (String × ProcessState))
    (detection : Detection)
    {listed : Listed}
    (numbered : (library.int listed.pidText).isSome = true) :
    detectProcess library agentId now previous listed.sessionId detection
        listed.pidText listed.process =
      { changed :=
          detection.observe library agentId now previous [listed]
        raised := false } := by
  obtain ⟨pid, isPid⟩ := Option.isSome_iff_exists.mp numbered
  unfold detectProcess Detection.observe
  simp only [List.map_cons, List.map_nil, List.filterMap_cons,
    List.filterMap_nil, Listed.event?, isPid, Option.getD_some]
  cases previous.lookup listed.pidText with
  | none =>
    dsimp only
    by_cases running : truthy listed.running = true
    · rw [if_pos running]
      rw [if_pos (show truthy (fieldOr _ _ _) = true from running)]
      rfl
    · rw [if_neg running]
      rw [if_neg (show ¬ truthy (fieldOr _ _ _) = true from running),
        Telemetry.recordEvents_nil]
      rfl
  | some was =>
    dsimp only
    by_cases ended : (truthy was.running && !truthy listed.running) = true
    · rw [if_pos ended]
      rw [if_pos (show (truthy _ && !truthy (fieldOr _ _ _)) = true from ended)]
      rfl
    · rw [if_neg ended]
      rw [if_neg
        (show ¬ (truthy _ && !truthy (fieldOr _ _ _)) = true from ended),
        Telemetry.recordEvents_nil]
      rfl

theorem detectProcesses_eq
    (previous : List (String × ProcessState))
    (sessionId : Json)
    (detection : Detection)
    {processes : JsonObject}
    (keepable : ∀ entry ∈ processes, Keepable library entry.1 entry.2) :
    detectProcesses library agentId now previous sessionId detection
        processes =
      { changed :=
          detection.observe library agentId now previous
            (listedProcesses sessionId processes)
        raised := false } := by
  induction processes generalizing detection with
  | nil =>
    rw [detectProcesses]
    exact congrArg (Attempt.mk · false) (detection.observe_nil _).symm
  | cons first rest inductionHypothesis =>
    obtain ⟨pidText, value⟩ := first
    have keepableRest := (List.forall_mem_cons.mp keepable).2
    cases value with
    | obj process =>
      have numbered : (library.int pidText).isSome = true :=
        (keepable _ List.mem_cons_self).symm
      have detected :=
        @detectProcess_eq library agentId now previous detection
          { sessionId, pidText, process } numbered
      dsimp only at detected
      rw [detectProcesses, detected]
      dsimp only
      rw [if_neg Bool.false_ne_true, inductionHypothesis _ keepableRest,
        Detection.observe_append]
      rfl
    | _ =>
      exact inductionHypothesis detection keepableRest

theorem listed_cons
    (key : String)
    (value : Json)
    (rest : JsonObject) :
    listed ((key, value) :: rest) = listedIn key value ++ listed rest :=
  List.flatMap_cons

theorem listedIn_hidden
    {key : String}
    (isHidden : ¬ isSessionKey key = true)
    (value : Json) : listedIn key value = [] := by
  cases value with
  | obj session =>
    exact if_neg isHidden
  | _ =>
    rfl

theorem detectSessions_eq
    (previous : List (String × ProcessState))
    (detection : Detection)
    {state : JsonObject}
    (healthy : HealthyState library state) :
    detectSessions library agentId now previous detection state =
      { changed :=
          detection.observe library agentId now previous (listed state)
        raised := false } := by
  induction state generalizing detection with
  | nil =>
    rw [detectSessions]
    exact congrArg (Attempt.mk · false) (detection.observe_nil _).symm
  | cons first rest inductionHypothesis =>
    obtain ⟨key, value⟩ := first
    have healthyRest : HealthyState library rest :=
      fun entry member => healthy entry (List.mem_cons_of_mem _ member)
    by_cases isSession : isSessionKey key = true
    · obtain ⟨session, isObject, processes, isProcesses, keepable⟩ :=
        healthy _ List.mem_cons_self isSession
      obtain rfl : value = .obj session := isObject
      have lists :
          listedIn key (.obj session) =
            listedProcesses (fieldOr session "session_id" (.num 0))
              processes := by
        simp [listedIn, isSession, isProcesses, mappingFields]
      rw [detectSessions, if_neg (by simpa [isSessionKey] using isSession),
        isProcesses]
      dsimp only
      rw [detectProcesses_eq previous _ detection keepable]
      dsimp only
      rw [if_neg Bool.false_ne_true,
        inductionHypothesis _ healthyRest, Detection.observe_append,
        listed_cons, lists]
    · have skipped :
          detectSessions library agentId now previous detection
              ((key, value) :: rest) =
            detectSessions library agentId now previous detection rest := by
        cases value with
        | obj session =>
          rw [detectSessions, if_pos (by simpa [isSessionKey] using isSession)]
        | _ =>
          rfl
      rw [skipped, inductionHypothesis _ healthyRest, listed_cons,
        listedIn_hidden isSession, List.nil_append]

theorem detectDisappeared_eq
    (current : List (String × ProcessState))
    (telemetry : Telemetry)
    {previous : List (String × ProcessState)}
    (numbered : ∀ entry ∈ previous, (library.int entry.1).isSome = true) :
    detectDisappeared library agentId now current telemetry previous =
      { changed :=
          telemetry.recordEvents
            (previous.filterMap (disappearance? library agentId now current))
        raised := false } := by
  induction previous generalizing telemetry with
  | nil =>
    rw [detectDisappeared]
    exact congrArg (Attempt.mk · false) telemetry.recordEvents_nil.symm
  | cons first rest inductionHypothesis =>
    obtain ⟨pidText, was⟩ := first
    obtain ⟨pid, isPid⟩ :=
      Option.isSome_iff_exists.mp (numbered _ List.mem_cons_self)
    have numberedRest := (List.forall_mem_cons.mp numbered).2
    rw [detectDisappeared, List.filterMap_cons, disappearance?]
    by_cases disappeared :
        ((current.lookup pidText).isNone && truthy was.running) = true
    · rw [if_pos disappeared, if_pos disappeared, isPid]
      dsimp only
      rw [inductionHypothesis _ numberedRest, Telemetry.recordEvent_eq,
        Telemetry.recordEvents_recordEvents]
      rfl
    · rw [if_neg disappeared, if_neg disappeared,
        inductionHypothesis _ numberedRest]

theorem int_listed
    {state : JsonObject}
    (healthy : HealthyState library state) :
    ∀ process ∈ listed state, (library.int process.pidText).isSome = true := by
  intro process member
  obtain ⟨⟨key, value⟩, stored, inEntry⟩ := List.mem_flatMap.mp member
  by_cases isSession : isSessionKey key = true
  · obtain ⟨session, isObject, processes, isProcesses, keepable⟩ :=
      healthy _ stored isSession
    obtain rfl : value = .obj session := isObject
    unfold listedIn at inEntry
    dsimp only at inEntry
    rw [if_pos isSession, isProcesses] at inEntry
    obtain ⟨⟨pidText, info⟩, reported, isListed⟩ :=
      List.mem_filterMap.mp inEntry
    have kept := keepable _ reported
    cases info with
    | obj fields =>
      cases isListed
      exact kept.symm
    | _ =>
      cases isListed
  · dsimp only at inEntry
    rw [listedIn_hidden isSession] at inEntry
    cases inEntry

theorem int_snapshot
    {state : JsonObject}
    (healthy : HealthyState library state) :
    ∀ entry ∈ snapshot state, (library.int entry.1).isSome = true := by
  intro entry member
  rcases Dictionary.mem_update member with before | observed
  · cases before
  · obtain ⟨process, isListed, rfl⟩ := List.mem_map.mp observed
    exact int_listed healthy process isListed

theorem detectEvents_eq
    {state : JsonObject}
    {monitoring : Monitoring}
    (healthy : HealthyState library state)
    (numbered :
      ∀ entry ∈ monitoring.runtime.remembered agentId,
        (library.int entry.1).isSome = true) :
    detectEvents library agentId now state monitoring =
      { changed :=
          { runtime :=
              { monitoring.runtime with
                prevProcessStates :=
                  Dictionary.set agentId (snapshot state)
                    monitoring.runtime.prevProcessStates }
            telemetry :=
              monitoring.telemetry.recordEvents
                (detectedEvents library agentId now
                  (monitoring.runtime.remembered agentId) state) }
        raised := false } := by
  have detected :=
    @detectSessions_eq library agentId now
      (monitoring.runtime.remembered agentId)
      { telemetry := monitoring.telemetry } state healthy
  have recorded :=
    fun telemetry =>
      @detectDisappeared_eq library agentId now (snapshot state) telemetry
        _ numbered
  unfold AgentRuntime.remembered at detected recorded ⊢
  unfold detectEvents
  dsimp only
  rw [detected]
  unfold Detection.observe
  dsimp only
  rw [if_neg Bool.false_ne_true]
  unfold snapshot at recorded
  rw [recorded, Telemetry.recordEvents_recordEvents]
  dsimp only
  rw [if_neg Bool.false_ne_true]
  rfl

/-! ### Heartbeats that merge -/

theorem ingestProcesses_merges
    (sessionId : Json)
    (telemetry : Telemetry)
    {processes : JsonObject}
    (keepable : ∀ entry ∈ processes, Keepable library entry.1 entry.2) :
    (ingestProcesses library agentId now sessionId telemetry
        processes).raised = false ∧
      (ingestProcesses library agentId now sessionId telemetry
        processes).changed.events = telemetry.events := by
  induction processes generalizing telemetry with
  | nil =>
    exact ⟨rfl, rfl⟩
  | cons first rest inductionHypothesis =>
    obtain ⟨pidText, value⟩ := first
    have keepableRest := (List.forall_mem_cons.mp keepable).2
    cases value with
    | obj process =>
      have numbered : (library.int pidText).isSome = true :=
        (keepable _ List.mem_cons_self).symm
      obtain ⟨pid, isPid⟩ := Option.isSome_iff_exists.mp numbered
      rw [ingestProcesses, isPid]
      exact inductionHypothesis _ keepableRest
    | _ =>
      exact inductionHypothesis telemetry keepableRest

theorem ingestHeartbeat_merges
    (telemetry : Telemetry)
    {state : JsonObject}
    (healthy : HealthyState library state) :
    (ingestHeartbeat library agentId now telemetry state).raised = false ∧
      (ingestHeartbeat library agentId now telemetry
        state).changed.events = telemetry.events := by
  induction state generalizing telemetry with
  | nil =>
    exact ⟨rfl, rfl⟩
  | cons first rest inductionHypothesis =>
    obtain ⟨key, value⟩ := first
    have healthyRest : HealthyState library rest :=
      fun entry member => healthy entry (List.mem_cons_of_mem _ member)
    by_cases isSession : isSessionKey key = true
    · obtain ⟨session, isObject, processes, isProcesses, keepable⟩ :=
        healthy _ List.mem_cons_self isSession
      obtain rfl : value = .obj session := isObject
      rw [ingestHeartbeat, if_neg (by simpa [isSessionKey] using isSession),
        isProcesses]
      dsimp only
      obtain ⟨whole, sameEvents⟩ :=
        @ingestProcesses_merges library agentId now
          (fieldOr session "session_id" (.num 0)) telemetry _ keepable
      rw [whole, if_neg Bool.false_ne_true]
      obtain ⟨restWhole, restEvents⟩ :=
        inductionHypothesis
          (ingestProcesses library agentId now
            (fieldOr session "session_id" (.num 0)) telemetry
            processes).changed healthyRest
      exact ⟨restWhole, restEvents.trans sameEvents⟩
    · have skipped : ingestHeartbeat library agentId now telemetry
              ((key, value) :: rest) =
            ingestHeartbeat library agentId now telemetry rest := by
        cases value with
        | obj session =>
          rw [ingestHeartbeat, if_pos (by simpa [isSessionKey] using isSession)]
        | _ =>
          rfl
      rw [skipped]
      exact inductionHypothesis telemetry healthyRest

end Detecting

/-- What the merged state of a heartbeat's agent is. -/
def mergedState
    (library : TextLibrary)
    (payload : HeartbeatData)
    (now : Int)
    (runtime : AgentRuntime) : JsonObject :=
  (mergeAgentState library payload now
    (runtime.stateOf payload.agentId)).changed

/-- What is left when events are looked for. -/
def fedMonitoring
    (library : TextLibrary)
    (payload : HeartbeatData)
    (now : Int)
    (monitoring : Monitoring) : Monitoring where
  runtime :=
    { monitoring.runtime with
      latestStats :=
        Dictionary.set payload.agentId
          (mergedState library payload now monitoring.runtime)
          monitoring.runtime.latestStats }
  telemetry :=
    (ingestHeartbeat library payload.agentId now monitoring.telemetry
      (mergedState library payload now monitoring.runtime)).changed

section Heartbeats

variable
    {library : TextLibrary}
    {payload : HeartbeatData}
    {now : Int}

theorem mergeAgentState_merges
    {runtime : AgentRuntime}
    (parsed : payload.Parsed)
    (healthy : HealthyAgent library runtime payload.agentId)
    (mergeable : Mergeable library payload now runtime) :
    (mergeAgentState library payload now
        (runtime.stateOf payload.agentId)).raised = false ∧
      HealthyState library (mergedState library payload now runtime) :=
  mergeSessions_merges parsed.status mergeable
    (healthy.state.prepareState payload now)

/-- What a heartbeat that suits a healthy agent comes to. -/
structure MergedHeartbeat
    (library : TextLibrary)
    (payload : HeartbeatData)
    (now : Int)
    (monitoring : Monitoring)
    (attempt : Attempt Monitoring) : Prop where
  whole : attempt.raised = false
  healthy : HealthyAgent library attempt.changed.runtime payload.agentId
  state :
    attempt.changed.runtime.stateOf payload.agentId =
      mergedState library payload now monitoring.runtime
  remembered :
    attempt.changed.runtime.remembered payload.agentId =
      snapshot (mergedState library payload now monitoring.runtime)
  events :
    attempt.changed.telemetry.events =
      monitoring.telemetry.events ++
        detectedEvents library payload.agentId now
          (monitoring.runtime.remembered payload.agentId)
          (mergedState library payload now monitoring.runtime)

/-- A heartbeat that suits a healthy agent is merged. -/
theorem mergeHeartbeat_merges
    {monitoring : Monitoring}
    (parsed : payload.Parsed)
    (healthy : HealthyAgent library monitoring.runtime payload.agentId)
    (mergeable : Mergeable library payload now monitoring.runtime) :
    MergedHeartbeat library payload now monitoring
      (mergeHeartbeat library payload now monitoring) := by
  obtain ⟨merges, healthyMerged⟩ :=
    mergeAgentState_merges parsed healthy mergeable
  obtain ⟨ingests, sameEvents⟩ :=
    @ingestHeartbeat_merges library payload.agentId now
      monitoring.telemetry _ healthyMerged
  have detected :=
    @detectEvents_eq library payload.agentId now
      (mergedState library payload now monitoring.runtime)
      (fedMonitoring library payload now monitoring) healthyMerged
      healthy.remembered
  have result :
      mergeHeartbeat library payload now monitoring =
        detectEvents library payload.agentId now
          (mergedState library payload now monitoring.runtime)
          (fedMonitoring library payload now monitoring) := by
    unfold mergedState at ingests
    unfold AgentRuntime.stateOf at merges ingests
    unfold mergeHeartbeat
    dsimp only
    rw [merges, if_neg Bool.false_ne_true, ingests, if_neg Bool.false_ne_true]
    rfl
  rw [result, detected]
  have isState :
      ((Dictionary.set payload.agentId
            (mergedState library payload now monitoring.runtime)
            monitoring.runtime.latestStats).lookup
          payload.agentId).getD [] =
        mergedState library payload now monitoring.runtime := by
    rw [Dictionary.lookup_set_self]
    rfl
  have isRemembered :
      ((Dictionary.set payload.agentId
            (snapshot (mergedState library payload now monitoring.runtime))
            monitoring.runtime.prevProcessStates).lookup
          payload.agentId).getD [] =
        snapshot (mergedState library payload now monitoring.runtime) := by
    rw [Dictionary.lookup_set_self]
    rfl
  have numbered := int_snapshot healthyMerged
  rw [← isState] at healthyMerged
  rw [← isRemembered] at numbered
  exact
    ⟨rfl, ⟨healthyMerged, numbered⟩, isState, isRemembered,
      congrArg (· ++ _) sameEvents⟩

end Heartbeats

end RpaPlatform.Agents
