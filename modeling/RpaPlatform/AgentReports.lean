import RpaPlatform.AgentTicks

namespace RpaPlatform.Replica

open Agents (JsonObject)
open Tasks (Json)

/-!
# What an agent reports

`get_status` of the process managers, the sessions and the session manager.  A
process remembers what was sent of it, so a process that is registered twice
is found changed the second time; apart from that, a report is put together
session by session and pid by pid.
-/

/-! ### Reports -/

/-- What a session says of itself, besides its processes. -/
structure SessionLabels where
  sessionName : String
  username : String
  status : String

/-- What a report reads of the system. -/
structure ReportInput where
  sync : Bool
  exitCode : ProcessRef → Option Int
  labels : SessionName → SessionLabels

def pidKey (pid : Nat) : String :=
  toString pid

theorem pidKey_injective
    {pid other : Nat}
    (same : pidKey pid = pidKey other) :
    pid = other := by
  have digits : Nat.toDigits 10 pid = Nat.toDigits 10 other := by
    refine String.ofList_injective ?_
    simpa only [pidKey, Nat.toString_eq_repr,
      Nat.repr_eq_ofList_toDigits] using same
  have value := congrArg (Nat.ofDigitChars 10 · 0) digits
  simpa only [Nat.ofDigitChars_ten_toDigits] using value

def sessionKey (sessionId : Nat) : String :=
  "session:" ++ toString sessionId

def removedRecord (pid : Nat) : JsonObject :=
  [("pid", natJson pid), ("is_running", .bool false)]

namespace UserSession

variable (session : UserSession)

def key : String :=
  sessionKey session.sessionId

/-- The pids that have gone since the last report. -/
def removed (sync : Bool) : JsonObject :=
  if sync then []
  else
    (session.lastReportedPids.filter (· ∉ session.pids)).map fun pid =>
      (pidKey pid, .obj (removedRecord pid))

/-- `get_status` of a session. -/
def getStatus
    (labels : SessionLabels)
    (processes : JsonObject) : JsonObject :=
  [("session_id", natJson session.sessionId),
    ("session_name", .str labels.sessionName),
    ("username", .str labels.username),
    ("type", .str "user_session"),
    ("status", .str labels.status),
    ("process_count", natJson session.procs.length),
    ("processes", .obj processes)]

/-- A session in a report, which unpacks what the session says. -/
def summary
    (labels : SessionLabels)
    (processes : JsonObject) : JsonObject :=
  Dictionary.unpack
    [("type", .str "interactive"),
      ("session_id", natJson session.sessionId),
      ("process_count", natJson session.procs.length)]
    (session.getStatus labels processes)

/-- `_last_reported_pids = current_pids`. -/
def markReported : UserSession :=
  { session with
    lastReportedPids := session.pids
    distinctReported := session.distinct }

end UserSession

namespace SessionManager

variable (input : ReportInput)

/-- The processes of a session that have something to report. -/
def reportProcesses
    (manager : SessionManager) :
    List (Nat × ProcessRef) → JsonObject × SessionManager
  | [] =>
    ([], manager)
  | (pid, ref) :: rest =>
    let sent :=
      (manager.processes ref).toJsonOnlyChange (input.exitCode ref) input.sync
    let later :=
      (manager.modifyProcess ref fun _ => sent.2).reportProcesses rest
    ((sent.1.map fun data => (pidKey pid, Json.obj data)).toList ++
        later.1,
      later.2)

/-- The sessions of a report. -/
def reportSessions
    (manager : SessionManager) :
    List (SessionName × UserSession) → JsonObject × SessionManager
  | [] =>
    ([], manager)
  | (name, session) :: rest =>
    let reported := manager.reportProcesses input session.procs
    let later := reported.2.reportSessions rest
    let processes := reported.1 ++ session.removed input.sync
    ((session.key, .obj (session.summary (input.labels name) processes)) ::
        later.1,
      later.2)

/-- Every session has reported the pids it manages. -/
def markReported (manager : SessionManager) : SessionManager :=
  { manager with
    system := manager.system.markReported
    sessions :=
      manager.sessions.map fun entry => (entry.1, entry.2.markReported) }

/--
`get_status`.  What a session has reported last is read by its own report
only, so all sessions are marked at the end.
-/
def getStatus (manager : SessionManager) : JsonObject × SessionManager :=
  let reported := manager.reportSessions input manager.named
  (Dictionary.update [] reported.1, reported.2.markReported)

end SessionManager

/-! ### Processes as a report finds them -/

namespace ManagedProcess

/-- What is sent of a process that has telemetry, if anything. -/
def news (process : ManagedProcess) (sync : Bool) : Option JsonObject :=
  process.telemetry.bind fun telemetry =>
    if !sync && !process.itChange then none
    else some (process.delta telemetry sync)

def afterNews (process : ManagedProcess) (sync : Bool) : ManagedProcess :=
  if !sync && !process.itChange then process
  else { process with lastSendState := process.telemetry }

variable (process : ManagedProcess)

theorem isSome_telemetry_withTelemetry (exitCode : Option Int) :
    (process.withTelemetry exitCode).telemetry.isSome = true := by
  unfold withTelemetry
  split
  · rfl
  · rename_i present
    simpa [Option.isSome_iff_ne_none] using present

theorem withTelemetry_of_isSome
    {process : ManagedProcess}
    (has : process.telemetry.isSome = true)
    (exitCode : Option Int) :
    process.withTelemetry exitCode = process := by
  unfold withTelemetry
  rw [if_neg]
  simpa [Option.isSome_iff_ne_none] using has

theorem telemetry_afterNews (sync : Bool) :
    (process.afterNews sync).telemetry = process.telemetry := by
  unfold afterNews
  split <;> rfl

theorem toJsonOnlyChange_eq (exitCode : Option Int) (sync : Bool) :
    process.toJsonOnlyChange exitCode sync =
      ((process.withTelemetry exitCode).news sync,
        (process.withTelemetry exitCode).afterNews sync) := by
  obtain ⟨telemetry, isTelemetry⟩ :=
    Option.isSome_iff_exists.mp
      (process.isSome_telemetry_withTelemetry exitCode)
  unfold toJsonOnlyChange news afterNews
  dsimp only
  rw [isTelemetry]
  dsimp only [Option.bind_some]
  split <;> rfl

theorem afterNews_afterNews (sync : Bool) :
    (process.afterNews sync).afterNews sync = process.afterNews sync := by
  by_cases silent : (!sync && !process.itChange) = true
  · have same : process.afterNews sync = process := if_pos silent
    rw [same, same]
  · have sent :
        process.afterNews sync =
          { process with lastSendState := process.telemetry } :=
      if_neg silent
    rw [sent]
    exact if_neg silent

end ManagedProcess

namespace SessionManager

variable (input : ReportInput) (manager : SessionManager)

def reportedProcess (ref : ProcessRef) : ManagedProcess :=
  ((manager.processes ref).withTelemetry
    (input.exitCode ref)).afterNews input.sync

/-- The agent once some of its processes have been reported. -/
def afterReports (earlier : List ProcessRef) : SessionManager :=
  { manager with
    processes := fun ref =>
      if ref ∈ earlier then manager.reportedProcess input ref
      else manager.processes ref }

/-- A process as it is when it is reported, or was before. -/
def prepared
    (earlier : List ProcessRef)
    (ref : ProcessRef) : ManagedProcess :=
  ((manager.afterReports input earlier).processes ref).withTelemetry
    (input.exitCode ref)

/-- The processes of a session as the report finds them. -/
def presented
    (earlier : List ProcessRef) :
    List (Nat × ProcessRef) → List (Nat × ManagedProcess)
  | [] =>
    []
  | (pid, ref) :: rest =>
    (pid, manager.prepared input earlier ref) ::
      presented (earlier ++ [ref]) rest

/-- What is reported of the processes that are found. -/
def newsOf
    (sync : Bool)
    (processes : List (Nat × ManagedProcess)) : JsonObject :=
  processes.filterMap fun entry =>
    (entry.2.news sync).map fun data => (pidKey entry.1, Json.obj data)

theorem afterNews_prepared
    (earlier : List ProcessRef)
    (ref : ProcessRef) :
    (manager.prepared input earlier ref).afterNews input.sync =
      manager.reportedProcess input ref := by
  unfold prepared afterReports
  dsimp only
  split
  · have has : (manager.reportedProcess input ref).telemetry.isSome = true := by
      unfold reportedProcess
      rw [ManagedProcess.telemetry_afterNews]
      exact (manager.processes ref).isSome_telemetry_withTelemetry
          (input.exitCode ref)
    rw [ManagedProcess.withTelemetry_of_isSome has]
    exact ManagedProcess.afterNews_afterNews _ _
  · rfl

theorem modifyProcess_afterReports
    (earlier : List ProcessRef)
    (ref : ProcessRef) :
    (manager.afterReports input earlier).modifyProcess ref
        (fun _ => manager.reportedProcess input ref) =
      manager.afterReports input (earlier ++ [ref]) := by
  unfold afterReports modifyProcess
  congr 1
  funext other
  by_cases same : other = ref
  · subst same
    simp
  · simp [same]

theorem reportProcesses_eq
    (earlier : List ProcessRef)
    (procs : List (Nat × ProcessRef)) :
    (manager.afterReports input earlier).reportProcesses input procs =
      (newsOf input.sync (manager.presented input earlier procs),
        manager.afterReports input (earlier ++ procs.map Prod.snd)) := by
  induction procs generalizing earlier with
  | nil =>
    simp [reportProcesses, presented, newsOf]
  | cons first rest inductionHypothesis =>
    obtain ⟨pid, ref⟩ := first
    have found :
        ((manager.afterReports input earlier).processes
            ref).toJsonOnlyChange (input.exitCode ref) input.sync =
          ((manager.prepared input earlier ref).news input.sync,
            manager.reportedProcess input ref) := by
      rw [ManagedProcess.toJsonOnlyChange_eq,
        ← manager.afterNews_prepared input earlier ref]
      rfl
    rw [reportProcesses, found]
    dsimp only
    rw [modifyProcess_afterReports, inductionHypothesis]
    cases sent : (manager.prepared input earlier ref).news input.sync with
    | none =>
      simp [presented, newsOf, sent]
    | some data =>
      simp [presented, newsOf, sent]

/-- A session as the report finds it. -/
structure PresentedSession where
  session : UserSession
  labels : SessionLabels
  processes : List (Nat × ManagedProcess)

/-- What is reported of the processes of a session. -/
def PresentedSession.reported
    (presented : PresentedSession)
    (sync : Bool) : JsonObject :=
  newsOf sync presented.processes ++ presented.session.removed sync

/-- What is reported of a session. -/
def PresentedSession.summary
    (presented : PresentedSession)
    (sync : Bool) : JsonObject :=
  presented.session.summary presented.labels (presented.reported sync)

def refsOf (sessions : List (SessionName × UserSession)) :
    List ProcessRef :=
  sessions.flatMap fun entry => entry.2.procs.map Prod.snd

/-- Some sessions as the report finds them. -/
def presentedSessions
    (earlier : List ProcessRef) :
    List (SessionName × UserSession) → List PresentedSession
  | [] =>
    []
  | (name, session) :: rest =>
    { session
      labels := input.labels name
      processes := manager.presented input earlier session.procs } ::
      presentedSessions (earlier ++ session.procs.map Prod.snd) rest

theorem reportSessions_eq
    (earlier : List ProcessRef)
    (sessions : List (SessionName × UserSession)) :
    (manager.afterReports input earlier).reportSessions input sessions =
      ((manager.presentedSessions input earlier sessions).map
          fun presented =>
            (presented.session.key, Json.obj (presented.summary input.sync)),
        manager.afterReports input (earlier ++ refsOf sessions)) := by
  induction sessions generalizing earlier with
  | nil =>
    simp [reportSessions, presentedSessions, refsOf]
  | cons first rest inductionHypothesis =>
    obtain ⟨name, session⟩ := first
    rw [reportSessions, reportProcesses_eq]
    dsimp only
    rw [inductionHypothesis]
    simp [presentedSessions, PresentedSession.summary,
      PresentedSession.reported, refsOf]

def found : List PresentedSession :=
  manager.presentedSessions input [] manager.named

theorem getStatus_eq :
    manager.getStatus input =
      (Dictionary.update []
          ((manager.found input).map fun presented =>
            (presented.session.key, Json.obj (presented.summary input.sync))),
        (manager.afterReports input (refsOf manager.named)).markReported) := by
  have untouched : manager.afterReports input [] = manager := by
    simp [afterReports]
  have reported := manager.reportSessions_eq input [] manager.named
  rw [untouched] at reported
  unfold getStatus found
  rw [reported, List.nil_append]

/-! ### What is found -/

theorem sessions_presentedSessions
    (earlier : List ProcessRef)
    (sessions : List (SessionName × UserSession)) :
    (manager.presentedSessions input earlier sessions).map
        PresentedSession.session =
      sessions.map Prod.snd := by
  induction sessions generalizing earlier with
  | nil =>
    rfl
  | cons first rest inductionHypothesis =>
    rw [presentedSessions, List.map_cons, inductionHypothesis]
    rfl

theorem pids_presented
    (earlier : List ProcessRef)
    (procs : List (Nat × ProcessRef)) :
    (manager.presented input earlier procs).map Prod.fst =
      procs.map Prod.fst := by
  induction procs generalizing earlier with
  | nil =>
    rfl
  | cons first rest inductionHypothesis =>
    rw [presented, List.map_cons, inductionHypothesis]
    rfl

theorem mem_presented
    {earlier : List ProcessRef}
    {procs : List (Nat × ProcessRef)}
    {entry : Nat × ManagedProcess}
    (member : entry ∈ manager.presented input earlier procs) :
    ∃ ref before,
      (entry.1, ref) ∈ procs ∧ entry.2 = manager.prepared input before ref := by
  induction procs generalizing earlier with
  | nil =>
    cases member
  | cons first rest inductionHypothesis =>
    rcases List.mem_cons.mp member with rfl | later
    · exact ⟨first.2, earlier, List.mem_cons_self, rfl⟩
    · obtain ⟨ref, before, isRegistered, isPrepared⟩ :=
        inductionHypothesis later
      exact ⟨ref, before, List.mem_cons_of_mem _ isRegistered, isPrepared⟩

theorem processes_presentedSessions
    {earlier : List ProcessRef}
    {sessions : List (SessionName × UserSession)}
    {found : PresentedSession}
    (member : found ∈ manager.presentedSessions input earlier sessions) :
    ∃ before,
      found.processes = manager.presented input before found.session.procs := by
  induction sessions generalizing earlier with
  | nil =>
    cases member
  | cons first rest inductionHypothesis =>
    rcases List.mem_cons.mp member with rfl | later
    · exact ⟨earlier, rfl⟩
    · exact inductionHypothesis later

theorem sessions_getStatus :
    (manager.getStatus input).2.named.map Prod.snd =
      (manager.found input).map fun presented =>
        presented.session.markReported := by
  have sessions := manager.sessions_presentedSessions input [] manager.named
  have marked := congrArg (List.map UserSession.markReported) sessions
  rw [List.map_map, List.map_map] at marked
  refine Eq.trans ?_ marked.symm
  rw [manager.getStatus_eq input]
  simp [named, markReported, afterReports, Function.comp_def]

variable {presented : PresentedSession}

theorem exists_named_of_found
    (isFound : presented ∈ manager.found input) :
    ∃ entry ∈ (manager.getStatus input).2.named,
      entry.2 = presented.session.markReported := by
  refine List.mem_map.mp ?_
  rw [manager.sessions_getStatus input]
  exact List.mem_map.mpr ⟨presented, isFound, rfl⟩

theorem exists_found_of_named
    {entry : SessionName × UserSession}
    (member : entry ∈ (manager.getStatus input).2.named) :
    ∃ presented ∈ manager.found input,
      entry.2 = presented.session.markReported := by
  have isSession : entry.2 ∈ (manager.getStatus input).2.named.map Prod.snd :=
    List.mem_map.mpr ⟨entry, member, rfl⟩
  rw [manager.sessions_getStatus input] at isSession
  obtain ⟨presented, isFound, isMarked⟩ := List.mem_map.mp isSession
  exact ⟨presented, isFound, isMarked.symm⟩

theorem pids_found
    (member : presented ∈ manager.found input) :
    presented.processes.map Prod.fst = presented.session.pids := by
  obtain ⟨before, isPresented⟩ :=
    manager.processes_presentedSessions input member
  rw [isPresented]
  exact manager.pids_presented input before presented.session.procs

theorem isSome_telemetry_found
    (isFound : presented ∈ manager.found input)
    {entry : Nat × ManagedProcess}
    (member : entry ∈ presented.processes) :
    entry.2.telemetry.isSome = true := by
  obtain ⟨before, isPresented⟩ :=
    manager.processes_presentedSessions input isFound
  rw [isPresented] at member
  obtain ⟨ref, earlier, _, isPrepared⟩ := manager.mem_presented input member
  rw [isPrepared]
  exact ManagedProcess.isSome_telemetry_withTelemetry _ _

/-! ### What is reported of a pid -/

theorem lookup_newsOf
    {processes : List (Nat × ManagedProcess)}
    (distinct : (processes.map Prod.fst).Nodup)
    (sync : Bool)
    (pid : Nat) :
    (newsOf sync processes).lookup (pidKey pid) =
      (processes.lookup pid).bind fun process =>
        (process.news sync).map Json.obj := by
  induction processes with
  | nil =>
    rfl
  | cons first rest inductionHypothesis =>
    obtain ⟨other, process⟩ := first
    obtain ⟨fresh, distinctRest⟩ := List.nodup_cons.mp distinct
    have isRest := inductionHypothesis distinctRest
    by_cases same : pid = other
    · subst same
      cases sent : process.news sync with
      | none =>
        rw [Dictionary.lookup_eq_none_iff.mpr fresh] at isRest
        simpa [newsOf, sent] using isRest
      | some data =>
        simp [newsOf, sent]
    · have different : (pid == other) = false := by
        simpa using same
      have otherKey : (pidKey pid == pidKey other) = false := by
        simpa using fun isKey => same (pidKey_injective isKey)
      rw [List.lookup_cons, different]
      cases sent : process.news sync with
      | none =>
        simpa [newsOf, sent] using isRest
      | some data =>
        simpa [newsOf, sent, List.lookup_cons, otherKey] using isRest

theorem mem_reported
    {sync : Bool}
    {entry : String × Json}
    (member : entry ∈ presented.reported sync) :
    ∃ pid fields, entry = (pidKey pid, .obj fields) := by
  rcases List.mem_append.mp member with isNews | isRemoved
  · obtain ⟨found, _, sent⟩ := List.mem_filterMap.mp isNews
    obtain ⟨data, _, rfl⟩ := Option.map_eq_some_iff.mp sent
    exact ⟨found.1, data, rfl⟩
  · unfold UserSession.removed at isRemoved
    split at isRemoved
    · cases isRemoved
    · obtain ⟨pid, _, rfl⟩ := List.mem_map.mp isRemoved
      exact ⟨pid, removedRecord pid, rfl⟩

theorem lookup_removed (session : UserSession) (sync : Bool) (pid : Nat) :
    (session.removed sync).lookup (pidKey pid) =
      if sync = false ∧ pid ∈ session.lastReportedPids ∧ pid ∉ session.pids then
        some (Json.obj (removedRecord pid))
      else
        none := by
  cases sync with
  | true =>
    simp [UserSession.removed]
  | false =>
    have gone :
        ∀ pids : List Nat,
          (pids.map fun pid =>
              (pidKey pid, Json.obj (removedRecord pid))).lookup
              (pidKey pid) =
            if pid ∈ pids then some (Json.obj (removedRecord pid))
            else none := by
      intro pids
      induction pids with
      | nil =>
        rfl
      | cons other rest inductionHypothesis =>
        by_cases same : pid = other
        · subst same
          simp
        · have otherKey : (pidKey pid == pidKey other) = false := by
            simpa using fun isKey => same (pidKey_injective isKey)
          simp [List.lookup_cons, otherKey, same, inductionHypothesis]
    unfold UserSession.removed
    rw [if_neg Bool.false_ne_true, gone]
    simp

theorem lookup_reported
    (samePids : presented.processes.map Prod.fst = presented.session.pids)
    (sync : Bool)
    (pid : Nat) :
    (presented.reported sync).lookup (pidKey pid) =
      match presented.processes.lookup pid with
      | some process => (process.news sync).map Json.obj
      | none =>
        if sync = false ∧ pid ∈ presented.session.lastReportedPids then
          some (Json.obj (removedRecord pid))
        else
          none := by
  have distinct : (presented.processes.map Prod.fst).Nodup :=
    samePids ▸ presented.session.distinct
  unfold PresentedSession.reported
  rw [List.lookup_append, lookup_newsOf distinct, lookup_removed, ← samePids]
  cases stored : presented.processes.lookup pid with
  | none =>
    have absent := Dictionary.lookup_eq_none_iff.mp stored
    simp [absent]
  | some process =>
    have present : pid ∈ presented.processes.map Prod.fst :=
      List.mem_map.mpr ⟨_, Dictionary.mem_of_lookup stored, rfl⟩
    simp [present]

theorem nodup_reported
    (samePids : presented.processes.map Prod.fst = presented.session.pids)
    (sync : Bool) :
    ((presented.reported sync).map Prod.fst).Nodup := by
  have newsKeys :
      ∀ processes : List (Nat × ManagedProcess),
        (newsOf sync processes).map Prod.fst =
          (processes.filter fun entry =>
            (entry.2.news sync).isSome).map (pidKey ∘ Prod.fst) := by
    intro processes
    induction processes with
    | nil =>
      rfl
    | cons first rest inductionHypothesis =>
      cases sent : first.2.news sync with
      | none =>
        simpa [newsOf, sent] using inductionHypothesis
      | some data =>
        simpa [newsOf, sent] using inductionHypothesis
  have distinct : (presented.processes.map Prod.fst).Nodup :=
    samePids ▸ presented.session.distinct
  unfold PresentedSession.reported
  rw [List.map_append, List.nodup_append']
  refine ⟨?_, ?_, ?_⟩
  · rw [newsKeys, ← List.map_map]
    refine List.Nodup.map (fun _ _ => pidKey_injective) ?_
    exact distinct.sublist (List.filter_sublist.map Prod.fst)
  · unfold UserSession.removed
    split
    · exact List.nodup_nil
    · rw [List.map_map]
      refine List.Nodup.map (fun _ _ => pidKey_injective) ?_
      exact presented.session.distinctReported.filter _
  · intro text isNews isRemoved
    rw [newsKeys] at isNews
    obtain ⟨entry, isEntry, rfl⟩ := List.mem_map.mp isNews
    have managed : entry.1 ∈ presented.session.pids :=
      samePids ▸ List.mem_map.mpr ⟨entry, (List.mem_filter.mp isEntry).1, rfl⟩
    unfold UserSession.removed at isRemoved
    split at isRemoved
    · cases isRemoved
    · rw [List.map_map] at isRemoved
      obtain ⟨pid, isGone, sameKey⟩ := List.mem_map.mp isRemoved
      obtain rfl : pid = entry.1 := pidKey_injective sameKey
      have gone := (List.mem_filter.mp isGone).2
      exact absurd managed (by simpa using gone)

end SessionManager

end RpaPlatform.Replica
