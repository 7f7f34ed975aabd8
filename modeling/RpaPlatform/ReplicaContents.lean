import RpaPlatform.ReplicaKeys

namespace RpaPlatform.Replica

open Agents (JsonObject)
open Tasks (Json)
open Transition

/-!
# What the server shows of a process

A difference leaves out the static fields and the windows of a process that was
sent before, and every field of its telemetry that is as it was when the
process was sent last.  A process that is registered under another pid, or whose
windows change, is shown with what it had before.
-/

/-! ### Contents of records -/

namespace Content

/-- The fields that are sent once. -/
def staticFields (content : Content) : JsonObject :=
  [("exe", .str content.exe),
    ("exe_path", .str content.exePath),
    ("args", .str content.args),
    ("cmd", .str content.cmd),
    ("user", .str content.user),
    ("ppid", optionJson natJson content.ppid),
    ("has_window", optionJson Json.bool content.window.hasWindow),
    ("window_title", .str content.window.windowTitle),
    ("window_hwnd", optionJson Json.num content.window.windowHwnd),
    ("windows", .arr (content.window.windows.map WindowInfo.toJson)),
    ("capture_target_pid", optionJson natJson content.window.captureTargetPid),
    ("capture_target_kind", .str content.window.captureTargetKind)]

/-- The fields of telemetry. -/
def telemetryFields (content : Content) : JsonObject :=
  [("cpu_usage", .float content.cpuUsage),
    ("memory_usage",
      .obj
        [("working_set_size", natJson content.workingSet),
          ("private_bytes", natJson content.privateBytes)]),
    ("handle_count", natJson content.handleCount),
    ("io_counters", content.ioCounters.toJson),
    ("exit_code", optionJson Json.num content.exitCode)]

def fields (content : Content) : JsonObject :=
  content.staticFields ++ content.telemetryFields

/-- What a difference makes of what was known of a process. -/
def afterDifference
    (known : Content)
    (last : ProcessTelemetry)
    (now : Content) : Content :=
  let sameMemory :=
    now.workingSet = last.workingSet ∧ now.privateBytes = last.privateBytes
  { known with
    cpuUsage :=
      if now.cpuUsage = last.cpuUsage then known.cpuUsage
      else now.cpuUsage
    workingSet := if sameMemory then known.workingSet else now.workingSet
    privateBytes :=
      if sameMemory then known.privateBytes else now.privateBytes
    handleCount :=
      if now.handleCount = last.handleCount then known.handleCount
      else now.handleCount
    ioCounters :=
      if now.ioCounters = last.ioCounters then known.ioCounters
      else now.ioCounters
    exitCode :=
      if now.exitCode = last.exitCode then known.exitCode
      else now.exitCode }

end Content

def ShowsContent (record : JsonObject) (content : Content) : Prop :=
  ∀ field ∈ content.fields, record.lookup field.1 = some field.2

/--
Every record that the server holds is that of a process of the agent, and shows
its fields.
-/
def ContentsAgree
    (setting : ReplicaSetting)
    (replication : Replication) : Prop :=
  ∀ key pidText record,
    Agents.isSessionKey key = true →
    (Agents.processesOf
      (Agents.sessionAt (replication.held setting) key)).lookup pidText =
        some record →
    ∃ entry ∈ replication.agent.named,
      ∃ pid ref fields content,
        key = entry.2.key ∧ pidText = pidKey pid ∧
          (pid, ref) ∈ entry.2.procs ∧
          record = .obj fields ∧
          (replication.agent.processes ref).content? = some content ∧
          ShowsContent fields content

/--
A process that is reported running after it was sent before is told of anew by
the fields that have changed since; one that is not reported is as it was told.
-/
def ManagedProcess.KeepsContent
    (process : ManagedProcess)
    (before : Option Content) : Prop :=
  if process.itChange then
    process.isRunning = true →
      ∀ last ∈ process.lastSendState,
        ∃ known ∈ before,
          process.content? = process.content?.map (known.afterDifference last)
  else
    ∀ known ∈ before, process.content? = some known

/--
Sessions keep their ids, and a difference says of every process what has
changed since the server was told of it.
-/
def KeepsContents
    (replication : Replication) : ReplicaAction → Prop
  | .act _ =>
    True
  | .beat input _ _ =>
    KeepsIds replication.agent input.sync (replication.told.getD []) ∧
      (input.sync = false →
        ∀ presented ∈ replication.agent.found input,
          ∀ entry ∈ presented.processes,
            entry.2.KeepsContent
              (toldOf (replication.told.getD [])
                presented.session.sessionId entry.1))

instance (process : ManagedProcess) (before : Option Content) :
    Decidable (process.KeepsContent before) := by
  unfold ManagedProcess.KeepsContent
  infer_instance

instance (replication : Replication) :
    (action : ReplicaAction) → Decidable (KeepsContents replication action)
  | .act _ =>
    inferInstanceAs (Decidable True)
  | .beat _ _ _ =>
    inferInstanceAs (Decidable (_ ∧ _))

/-! ### Records and differences -/

section Records

variable
    {process : ManagedProcess}
    {telemetry : ProcessTelemetry}

/-- The keys that a record may have, in their order. -/
def recordKeys : List String :=
  ["pid", "exe", "exe_path", "args", "cmd", "cwd", "user", "ppid",
    "sessionid", "creation_time", "is_monitored", "has_window",
    "window_title", "window_hwnd", "windows", "capture_target_pid",
    "capture_target_kind", "cpu_usage", "memory_usage", "handle_count",
    "io_counters", "exit_code", "is_running", "task_id"]

theorem keys_changed
    (key : String)
    (isSame : Bool)
    (value : Json) :
    List.Sublist ((ProcessTelemetry.changed key isSame value).map Prod.fst)
      [key] := by
  cases isSame with
  | true =>
    exact List.nil_sublist _
  | false =>
    exact List.Sublist.refl _

theorem keys_changes (telemetry last : ProcessTelemetry) :
    List.Sublist ((telemetry.changes last).map Prod.fst)
      ["cpu_usage", "memory_usage", "handle_count", "io_counters",
        "exit_code"] := by
  unfold ProcessTelemetry.changes
  simp only [List.map_append]
  exact
    ((((keys_changed _ _ _).append (keys_changed _ _ _)).append
      (keys_changed _ _ _)).append (keys_changed _ _ _)).append
      (keys_changed _ _ _)

theorem nodup_keys_delta
    (process : ManagedProcess)
    (telemetry : ProcessTelemetry)
    (sync : Bool) :
    ((process.delta telemetry sync).map Prod.fst).Nodup := by
  have distinct : recordKeys.Nodup := by
    decide
  refine distinct.sublist ?_
  have task :
      List.Sublist
        ((process.taskId.map fun taskId =>
          ("task_id", Json.str taskId)).toList.map Prod.fst)
        ["task_id"] := by
    cases process.taskId with
    | none =>
      exact List.nil_sublist _
    | some taskId =>
      exact List.Sublist.refl _
  have ofFields :
      ∀ info telemetryFields : JsonObject,
        List.Sublist (info.map Prod.fst)
          ((process.info.fields process.isMonitored).map Prod.fst) →
        List.Sublist (telemetryFields.map Prod.fst)
          (telemetry.fields.map Prod.fst) →
        List.Sublist
          ((("pid", natJson process.pid) :: info ++ telemetryFields ++
              [("is_running", Json.bool process.isRunning)] ++
              (process.taskId.map fun taskId =>
                ("task_id", Json.str taskId)).toList).map Prod.fst)
          recordKeys := by
    intro info telemetryFields isInfo isTelemetry
    simp only [List.map_append, List.map_cons, List.cons_append]
    exact
      (((isInfo.append isTelemetry).append (List.Sublist.refl _)).append
        task).cons_cons "pid"
  unfold ManagedProcess.delta
  dsimp only
  generalize (if sync then none else process.lastSendState) = last
  cases last with
  | none =>
    exact ofFields _ _ (List.Sublist.refl _) (List.Sublist.refl _)
  | some last =>
    exact ofFields [] _ (List.nil_sublist _) (keys_changes telemetry last)

theorem lookup_task
    {key : String}
    (different : key ≠ "task_id")
    (taskId : Option String) :
    (taskId.map fun taskId =>
      ("task_id", Json.str taskId)).toList.lookup key = none := by
  have otherKey : (key == "task_id") = false := by
    simpa using different
  cases taskId with
  | none =>
    rfl
  | some taskId =>
    simp [List.lookup_cons, otherKey]

theorem showsContent_delta
    {sync : Bool}
    (isFull : sync = true ∨ process.lastSendState = none) :
    ShowsContent (process.delta telemetry sync)
      (process.contentWith telemetry) := by
  have noLast : (if sync then none else process.lastSendState) = none := by
    rcases isFull with rfl | unsent
    · rfl
    · rw [unsent, ite_self]
  unfold ManagedProcess.delta
  rw [noLast]
  simp [ShowsContent, Content.fields, Content.staticFields,
    Content.telemetryFields, ManagedProcess.contentWith,
    ProcessInfo.fields, ProcessTelemetry.fields,
    ProcessTelemetry.memoryUsage, List.lookup_cons]

theorem showsContent_update
    (isFull : process.lastSendState = none)
    (fields : JsonObject) :
    ShowsContent
      (Dictionary.update fields (process.delta telemetry false))
      (process.contentWith telemetry) := by
  intro field member
  rw [Dictionary.lookup_update_of_distinct
    (nodup_keys_delta process telemetry false),
    showsContent_delta (.inr isFull) field member]
  rfl

theorem lookup_changed_self
    (key : String)
    (isSame : Bool)
    (value : Json) :
    (ProcessTelemetry.changed key isSame value).lookup key =
      if isSame then none else some value := by
  cases isSame with
  | true =>
    rfl
  | false =>
    simp [ProcessTelemetry.changed]

theorem delta_of_sent
    {last : ProcessTelemetry}
    (sent : process.lastSendState = some last) :
    process.delta telemetry false =
      ("pid", natJson process.pid) ::
        (telemetry.changes last ++
          (("is_running", Json.bool process.isRunning) ::
            (process.taskId.map fun taskId =>
              ("task_id", Json.str taskId)).toList)) := by
  simp [ManagedProcess.delta, sent]

/-- A difference changes what is shown by the fields that it sends. -/
theorem showsContent_difference
    {last : ProcessTelemetry}
    (sent : process.lastSendState = some last)
    {fields : JsonObject}
    {known : Content}
    (shows : ShowsContent fields known) :
    ShowsContent
      (Dictionary.update fields (process.delta telemetry false))
      (known.afterDifference last (process.contentWith telemetry)) := by
  have becomes :=
    Dictionary.lookup_update_of_distinct
      (nodup_keys_delta process telemetry false) fields
  generalize Dictionary.update fields (process.delta telemetry false) =
    record at becomes ⊢
  simp only [delta_of_sent sent] at becomes
  unfold ShowsContent Content.fields at shows ⊢
  rw [List.forall_mem_append] at shows ⊢
  refine ⟨?_, ?_⟩
  · have shown := shows.1
    simp only [Content.staticFields, List.forall_mem_cons] at shown
    simp [Content.staticFields, Content.afterDifference, becomes,
      List.lookup_cons, List.lookup_append, ProcessTelemetry.changes,
      lookup_changed, lookup_task, shown]
  · have shown := shows.2
    simp only [Content.telemetryFields, List.forall_mem_cons] at shown
    simp only [Content.telemetryFields, Content.afterDifference,
      ManagedProcess.contentWith, List.mem_cons, List.not_mem_nil,
      or_false, becomes, ProcessTelemetry.changes, Bool.decide_and,
      List.append_assoc, List.lookup_cons, List.lookup_append,
      Option.or_eq_some_iff, forall_eq_or_imp, String.reduceBEq,
      lookup_changed_self, decide_eq_true_eq, ne_eq, String.reduceEq,
      not_false_eq_true, lookup_changed, lookup_task, Option.or_self,
      Option.or_none, Option.ite_none_left_eq_some, Option.some.injEq,
      Json.float.injEq, ite_eq_left_iff, reduceCtorEq, imp_false,
      Decidable.not_not, Bool.and_eq_true, Option.none_or, not_and,
      Classical.not_imp, forall_eq]
    refine ⟨?_, ?_, ?_, ?_, ?_⟩
    · by_cases same : telemetry.cpuUsage = last.cpuUsage
      · simp [same, shown]
      · simp [same]
    · by_cases same :
          telemetry.workingSet = last.workingSet ∧
            telemetry.privateBytes = last.privateBytes
      · simp [same, shown]
      · simpa [same, ProcessTelemetry.memoryUsage] using not_and.mp same
    · by_cases same : telemetry.handleCount = last.handleCount
      · simp [same, shown]
      · simp [same]
    · by_cases same : telemetry.ioCounters = last.ioCounters
      · simp [same, shown]
      · simp [same]
    · by_cases same : telemetry.exitCode = last.exitCode
      · simp [same, shown]
      · simp [same]

end Records

/-! ### Runs -/

section Runs

variable {setting : ReplicaSetting}

theorem tellsAll_of_keepsContents
    {replication : Replication}
    {action : ReplicaAction}
    (keeps : KeepsContents replication action) :
    TellsAll ShowsContent replication action := by
  cases action with
  | act action =>
    trivial
  | beat input systemMetrics now =>
    refine ⟨keeps.1, fun presented found entry member => ?_⟩
    obtain ⟨telemetry, has⟩ :=
      Option.isSome_iff_exists.mp
        (replication.agent.isSome_telemetry_found input found member)
    refine tells_of has (fun _ => showsContent_delta (.inl rfl)) ?_
    intro isDifference flagged running stored holds
    have kept := keeps.2 isDifference presented found entry member
    unfold ManagedProcess.KeepsContent at kept
    rw [if_pos flagged] at kept
    cases sent : entry.2.lastSendState with
    | none =>
      split
      · exact showsContent_update sent _
      · exact showsContent_delta (.inr sent)
    | some last =>
      obtain ⟨known, isKnown, isNow⟩ := kept running last sent
      rw [Option.mem_def.mp isKnown] at holds
      have isNext :
          known.afterDifference last (entry.2.contentWith telemetry) =
            entry.2.contentWith telemetry := by
        simpa [ManagedProcess.content?, has] using isNow.symm
      rw [← isNext]
      cases stored with
      | none =>
        exact holds.elim
      | some record =>
        cases record with
        | obj fields =>
          exact showsContent_difference sent holds
        | _ =>
          exact holds.elim

theorem content?_of_told
    {sync : Bool}
    {process : ManagedProcess}
    {before : Option Content}
    (keeps : sync = false → process.KeepsContent before)
    {content : Content}
    (isTold : tellProcess sync before process = some content) :
    process.content? = some content := by
  cases sync with
  | true =>
    exact isTold
  | false =>
    have kept := keeps rfl
    unfold ManagedProcess.KeepsContent at kept
    unfold tellProcess at isTold
    cases flagged : process.itChange with
    | false =>
      rw [flagged] at kept isTold
      exact kept content isTold
    | true =>
      cases running : process.isRunning with
      | false =>
        simp [flagged, running] at isTold
      | true =>
        simpa [flagged, running] using isTold

theorem content?_afterNews (process : ManagedProcess) (sync : Bool) :
    (process.afterNews sync).content? = process.content? := by
  unfold ManagedProcess.afterNews
  split
  · rfl
  · rfl

theorem content?_getStatus
    {agent : SessionManager}
    {input : ReportInput}
    {presented : SessionManager.PresentedSession}
    (found : presented ∈ agent.found input)
    {pid : Nat}
    {ref : ProcessRef}
    (registered : (pid, ref) ∈ presented.session.procs)
    (earlier : List ProcessRef) :
    ((agent.getStatus input).2.processes ref).content? =
      (agent.prepared input earlier ref).content? := by
  have isSession : presented.session ∈ agent.named.map Prod.snd := by
    rw [← agent.sessions_presentedSessions input []]
    exact List.mem_map_of_mem found
  obtain ⟨entry, member, isEntry⟩ := List.mem_map.mp isSession
  have isRegistered : ref ∈ SessionManager.refsOf agent.named := by
    refine List.mem_flatMap.mpr ⟨entry, member, ?_⟩
    rw [isEntry]
    exact List.mem_map.mpr ⟨_, registered, rfl⟩
  have isReported :
      (agent.getStatus input).2.processes ref =
        agent.reportedProcess input ref := by
    rw [agent.getStatus_eq input]
    exact if_pos isRegistered
  rw [isReported, ← agent.afterNews_prepared input earlier ref,
    content?_afterNews]

/--
After every heartbeat of a run that begins with a full sync, every record that
the server holds shows a process of the agent as it is.
-/
theorem contentsAgree_of_run
    {start after : Replication}
    (untold : start.told = none)
    (sessions : Agents.HoldsSessions (start.held setting))
    {actions : List ReplicaAction}
    {input : ReportInput}
    {systemMetrics : Option JsonObject}
    {now : Int}
    (run :
      Run (Guarded (Fires (Replication.step? setting)) KeepsContents) start
        (actions ++ [.beat input systemMetrics now]) after) :
    ContentsAgree setting after := by
  obtain ⟨before, keeps, isAgent, holds⟩ :=
    holdsTold_of_run (fun _ _ => tellsAll_of_keepsContents) untold sessions run
  intro key pidText record isSession isRecord
  have present : ((after.held setting).lookup key).isSome = true := by
    by_contra absent
    have isNone := Option.not_isSome_iff_eq_none.mp absent
    unfold Agents.sessionAt at isRecord
    rw [isNone] at isRecord
    cases isRecord
  obtain ⟨told, isTold, rfl⟩ := holds.sessions key isSession present
  obtain ⟨presented, found, rfl⟩ := List.mem_map.mp isTold
  have held := holds.processes (List.mem_map_of_mem found)
  obtain ⟨pid, rfl⟩ := held.pids pidText record isRecord
  have shown := held.records pid
  rw [show _ = some record from isRecord] at shown
  obtain ⟨fields, content, rfl, isContent, shows⟩ :=
    exists_of_holdsRecord shown
  obtain ⟨process, isProcess, isTold⟩ :=
    Option.bind_eq_some_iff.mp isContent
  have member := Dictionary.mem_of_lookup isProcess
  have isNow : process.content? = some content :=
    content?_of_told
      (fun isDifference => keeps.2 isDifference presented found _ member)
      isTold
  obtain ⟨earlier, isPresented⟩ :=
    before.agent.processes_presentedSessions input found
  rw [isPresented] at member
  obtain ⟨ref, prior, registered, isPrepared⟩ :=
    before.agent.mem_presented input member
  obtain ⟨entry, isNamed, isEntry⟩ :=
    before.agent.exists_named_of_found input found
  rw [isAgent]
  refine
    ⟨entry, isNamed, pid, ref, fields, content, ?_, rfl, ?_, rfl, ?_, shows⟩
  · rw [isEntry]
    rfl
  · rw [isEntry]
    exact registered
  · rw [content?_getStatus found registered prior, ← isPrepared]
    exact isNow

end Runs

/-! ### A run that keeps the contents, and one that does not -/

/-- The started program uses the processor. -/
def useProcessor : ReplicaAction :=
  .act
    (.tick (some "robot") 0
      { now := 1
        exitCode := some ProcessStatus.running.value
        telemetry := some (some { pid := 7, cpuUsage := "1.5" }) }
      { created := none })

def openWindow : ReplicaAction :=
  .act
    (.windows (some "robot") [(7, { windowTitle := "Robot", hwnd := some 3 })])

/-- The server shows the only process without the window that it has. -/
def hidesWindow (replication : Replication) : Bool :=
  (match
      (Agents.processesOf
        (Agents.sessionAt (replication.held plainSetting)
          "session:2")).lookup "7" with
    | some (.obj fields) =>
      match fields.lookup "has_window" with
      | some .null => true
      | _ => false
    | _ => false) &&
    (replication.agent.named.all fun entry =>
      entry.2.procs.all fun registered => registered.2 = 0) &&
    (replication.agent.processes 0).info.window.hasWindow = some true

/-- The use of the processor is shown after a difference. -/
theorem useProcessor_contentsAgree :
    ∃ after : Replication,
      ContentsAgree plainSetting after ∧
        (after.agent.processes 0).telemetry =
          some { pid := 7, cpuUsage := "1.5" } := by
  obtain ⟨after, run, isUsed⟩ :=
    @exists_run_of_execute _ _
      (checked (Replication.step? plainSetting) KeepsContents) {}
      ([seeSession 2, startProgram 7, plainBeat true, useProcessor] ++
        [plainBeat false])
      (fun after =>
        (after.agent.processes 0).telemetry =
          some { pid := 7, cpuUsage := "1.5" })
      (by decide +kernel)
  refine ⟨after, ?_, of_decide_eq_true isUsed⟩
  exact contentsAgree_of_run rfl holdsSessions_nothing run.guarded_of_checked

/-- A window that is opened after the first report is never sent. -/
theorem not_contentsAgree :
    ¬ ∀ {setting : ReplicaSetting} {start after : Replication}
        {actions : List ReplicaAction} {input : ReportInput}
        {systemMetrics : Option JsonObject} {now : Int},
        start.told = none →
        Agents.HoldsSessions (start.held setting) →
        Run (Fires (Replication.step? setting)) start
          (actions ++ [.beat input systemMetrics now]) after →
        ContentsAgree setting after := by
  intro agrees
  obtain ⟨after, run, hides⟩ :=
    @exists_run_of_execute _ _ (Replication.step? plainSetting) {}
      ([seeSession 2, startProgram 7, plainBeat true, openWindow] ++
        [plainBeat false])
      hidesWindow (by decide +kernel)
  have contentsAgree := agrees rfl holdsSessions_nothing run
  unfold hidesWindow at hides
  rw [Bool.and_eq_true, Bool.and_eq_true] at hides
  obtain ⟨⟨isHidden, only⟩, hasWindow⟩ := hides
  split at isHidden
  · rename_i fields isRecord
    split at isHidden
    · rename_i isNull
      obtain ⟨entry, isNamed, pid, ref, shown, content, _, _, registered,
          isFields, isContent, shows⟩ :=
        contentsAgree "session:2" "7" _ (by decide +kernel) isRecord
      cases isFields
      obtain rfl : ref = 0 :=
        of_decide_eq_true
          (List.all_eq_true.mp (List.all_eq_true.mp only entry isNamed) _
            registered)
      have isWindow : content.window.hasWindow = some true := by
        obtain ⟨telemetry, _, rfl⟩ := Option.map_eq_some_iff.mp isContent
        exact of_decide_eq_true hasWindow
      have isShown :=
        shows ("has_window", optionJson Json.bool content.window.hasWindow)
          (by simp [Content.fields, Content.staticFields])
      rw [isNull, isWindow] at isShown
      cases isShown
    · cases isHidden
  · cases isHidden

end RpaPlatform.Replica
