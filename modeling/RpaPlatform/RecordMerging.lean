import RpaPlatform.HeartbeatMerging

namespace RpaPlatform.Agents

open Tasks (Json)

/-!
# What becomes of the records

What a heartbeat that lists its processes properly makes of the sessions and of
the process records that are stored, one session and one record at a time.
-/

variable {library : TextLibrary}

/-! ### Records -/

/-- What becomes of a record, given what is reported of its process. -/
def mergedRecord (stored : Option Json) : Option Json → Option Json
  | none =>
    stored
  | some info =>
    if reportsStopped info then none
    else
      match stored, info with
      | some (.obj fields), .obj changes =>
        some (.obj (Dictionary.update fields changes))
      | _, _ =>
        some info

def HoldsObjects (processes : JsonObject) : Prop :=
  ∀ pid record, processes.lookup pid = some record → isObject record = true

theorem lookup_mergeProcess
    {stored : JsonObject}
    (objects : HoldsObjects stored)
    (pid : String)
    (changes : JsonObject) :
    ∃ merged,
      mergeProcess library stored pid (.obj changes) = some merged ∧
        merged.lookup pid =
          mergedRecord (stored.lookup pid) (some (.obj changes)) ∧
        ∀ other, other ≠ pid → merged.lookup other = stored.lookup other := by
  unfold mergeProcess mergedRecord
  by_cases stopped : reportsStopped (.obj changes) = true
  · rw [if_pos stopped]
    exact
      ⟨_, rfl, by simp [stopped, Dictionary.lookup_erase_self],
        fun other different => Dictionary.lookup_erase_other different _⟩
  · dsimp only
    rw [if_neg stopped, if_neg stopped]
    cases found : stored.lookup pid with
    | none =>
      exact
        ⟨_, rfl, Dictionary.lookup_set_self _ _ _,
          fun other different =>
            Dictionary.lookup_set_other different _ _⟩
    | some record =>
      have isRecord := objects pid record found
      cases record with
      | obj fields =>
        exact
          ⟨_, rfl, Dictionary.lookup_set_self _ _ _,
            fun other different =>
              Dictionary.lookup_set_other different _ _⟩
      | _ =>
        cases isRecord

theorem isObject_mergedRecord
    {stored : Option Json}
    {changes : JsonObject}
    {record : Json}
    (merged : mergedRecord stored (some (.obj changes)) = some record) :
    isObject record = true := by
  unfold mergedRecord at merged
  dsimp only at merged
  split at merged
  · cases merged
  · split at merged
    · cases merged
      rfl
    · cases merged
      rfl

theorem lookup_mergeProcesses
    {stored reported : JsonObject}
    (objects : HoldsObjects stored)
    (distinct : (reported.map Prod.fst).Nodup)
    (reportsObjects : ∀ entry ∈ reported, ∃ fields, entry.2 = .obj fields) :
    ∃ merged,
      mergeProcesses library (.obj stored) reported =
        { changed := .obj merged, raised := false } ∧
        ∀ pid,
          merged.lookup pid =
            mergedRecord (stored.lookup pid) (reported.lookup pid) := by
  induction reported generalizing stored with
  | nil =>
    exact ⟨stored, rfl, fun _ => rfl⟩
  | cons first rest inductionHypothesis =>
    obtain ⟨pid, info⟩ := first
    obtain ⟨fresh, distinctRest⟩ := List.nodup_cons.mp distinct
    obtain ⟨changes, isChanges⟩ :=
      reportsObjects _ List.mem_cons_self
    obtain rfl : info = .obj changes := isChanges
    obtain ⟨next, isNext, changed, others⟩ :=
      @lookup_mergeProcess library stored objects pid changes
    have nextObjects : HoldsObjects next := by
      intro other record found
      by_cases same : other = pid
      · subst same
        rw [changed] at found
        exact isObject_mergedRecord found
      · rw [others other same] at found
        exact objects other record found
    obtain ⟨merged, isMerged, becomes⟩ :=
      inductionHypothesis nextObjects distinctRest
        fun entry member =>
          reportsObjects entry (List.mem_cons_of_mem _ member)
    refine ⟨merged, ?_, fun other => ?_⟩
    · rw [mergeProcesses, isNext]
      exact isMerged
    · rw [becomes]
      by_cases same : other = pid
      · subst same
        rw [Dictionary.lookup_eq_none_iff.mpr fresh]
        simp [changed, mergedRecord]
      · have different : (other == pid) = false := by
          simpa using same
        rw [others other same, List.lookup_cons, different]

/-! ### Sessions -/

/-- The processes of a session that is stored. -/
def processesOf (session : JsonObject) : JsonObject :=
  match session.lookup "processes" with
  | some (.obj processes) => processes
  | _ => []

/-- A session that is reported with its processes. -/
structure ListsProcesses (data reported : JsonObject) : Prop where
  processes : data.lookup "processes" = some (.obj reported)
  distinct : (reported.map Prod.fst).Nodup
  objects : ∀ entry ∈ reported, ∃ fields, entry.2 = .obj fields

theorem mergeSession_sync
    {data reported : JsonObject}
    (lists : ListsProcesses data reported)
    (target : JsonObject) :
    ∃ session,
      mergeSession library true target data =
        { changed := session, raised := false } ∧
        session.lookup "processes" = some (.obj reported) := by
  unfold mergeSession
  rw [lists.processes]
  exact ⟨_, rfl, Dictionary.lookup_set_self _ _ _⟩

/-- A session that stores its processes as an object of objects. -/
structure StoresProcesses (session : JsonObject) : Prop where
  processes :
    session.lookup "processes" = some (.obj (processesOf session)) ∨
      session.lookup "processes" = none
  objects : HoldsObjects (processesOf session)

/--
A difference changes the records of a session one at a time.  A session that
reports no process and that it manages none has none left.
-/
theorem mergeSession_difference
    {target data reported : JsonObject}
    (stores : StoresProcesses target)
    (lists : ListsProcesses data reported) :
    ∃ session processes,
      mergeSession library false target data =
        { changed := session, raised := false } ∧
        session.lookup "processes" = some (.obj processes) ∧
        ((reported = [] ∧
            (data.lookup "process_count").any equalsZero = true ∧
            processes = []) ∨
          ∀ pid,
            processes.lookup pid =
              mergedRecord ((processesOf target).lookup pid)
                (reported.lookup pid)) := by
  have unchanged :
      (Dictionary.update target
          (data.filter fun field => field.1 ≠ "processes")).lookup
          "processes" =
        target.lookup "processes" :=
    Dictionary.lookup_update_other (by simp) target
  have current :
      ((Dictionary.update target
          (data.filter fun field => field.1 ≠ "processes")).lookup
          "processes").getD (.obj []) =
        .obj (processesOf target) := by
    rw [unchanged]
    rcases stores.processes with isStored | absent
    · rw [isStored]
      rfl
    · unfold processesOf
      rw [absent]
      rfl
  unfold mergeSession mergeDifference
  rw [lists.processes]
  dsimp only [Option.getD_some]
  rw [if_neg Bool.false_ne_true, current]
  split
  · rename_i isEmpty
    obtain ⟨nothing, counted⟩ := Bool.and_eq_true_iff.mp isEmpty
    have isNil : reported = [] := by
      simpa [truthy] using nothing
    exact
      ⟨_, [], rfl, Dictionary.lookup_set_self _ _ _, .inl ⟨isNil, counted, rfl⟩⟩
  · obtain ⟨merged, isMerged, becomes⟩ :=
      @lookup_mergeProcesses library _ _ stores.objects lists.distinct
        lists.objects
    rw [isMerged]
    exact ⟨_, merged, rfl, Dictionary.lookup_set_self _ _ _, .inr becomes⟩

/-! ### States -/

/-- A session of a state, which is empty if it is not there. -/
def sessionAt (state : JsonObject) (key : String) : JsonObject :=
  match state.lookup key with
  | some (.obj session) => session
  | _ => []

/-- Every session of a state is an object. -/
def HoldsSessions (state : JsonObject) : Prop :=
  ∀ key value,
    isSessionKey key = true →
    state.lookup key = some value →
    isObject value = true

/-- Every session of a report is an object under a key of its own. -/
structure ReportsSessions (status : JsonObject) : Prop where
  distinct : (status.map Prod.fst).Nodup
  sessions :
    ∀ entry ∈ status, isSessionKey entry.1 = true ∧ ∃ data, entry.2 = .obj data

theorem HoldsSessions.stored
    {state : JsonObject}
    (holds : HoldsSessions state)
    {key : String}
    (isSession : isSessionKey key = true) :
    (state.lookup key).getD (.obj []) = .obj (sessionAt state key) := by
  unfold sessionAt
  cases found : state.lookup key with
  | none =>
    rfl
  | some value =>
    have isObject := holds key value isSession found
    cases value with
    | obj session =>
      rfl
    | _ =>
      cases isObject

variable {state : JsonObject}

theorem HoldsSessions.set
    (holds : HoldsSessions state)
    (key : String)
    (session : JsonObject) :
    HoldsSessions (Dictionary.set key (.obj session) state) := by
  intro other stored isSession found
  by_cases same : other = key
  · subst same
    rw [Dictionary.lookup_set_self] at found
    cases found
    rfl
  · rw [Dictionary.lookup_set_other same] at found
    exact holds other stored isSession found

theorem HoldsSessions.mergeSessions
    (holds : HoldsSessions state)
    (library : TextLibrary)
    (isSync : Bool)
    (status : JsonObject) :
    HoldsSessions
      (Agents.mergeSessions library isSync state status).changed := by
  induction status generalizing state with
  | nil =>
    exact holds
  | cons first rest inductionHypothesis =>
    obtain ⟨key, value⟩ := first
    cases value with
    | obj data =>
      rw [Agents.mergeSessions]
      split
      · dsimp only
        split
        · exact holds.set key _
        · exact inductionHypothesis (holds.set key _)
      · exact holds
    | _ =>
      exact inductionHypothesis holds

/-- Every session becomes what is reported of it makes of it. -/
theorem lookup_mergeSessions
    {isSync : Bool}
    {state status : JsonObject}
    (holds : HoldsSessions state)
    (reports : ReportsSessions status)
    (merges :
      ∀ key data,
        (key, Json.obj data) ∈ status →
        (mergeSession library isSync (sessionAt state key) data).raised = false)
    (key : String) :
    (mergeSessions library isSync state status).changed.lookup key =
      match status.lookup key with
      | some (.obj data) =>
        some
          (.obj
            (mergeSession library isSync (sessionAt state key) data).changed)
      | _ =>
        state.lookup key := by
  induction status generalizing state with
  | nil =>
    rfl
  | cons first rest inductionHypothesis =>
    obtain ⟨named, value⟩ := first
    obtain ⟨fresh, distinctRest⟩ := List.nodup_cons.mp reports.distinct
    obtain ⟨isSession, data, isData⟩ :=
      reports.sessions _ List.mem_cons_self
    obtain rfl : value = .obj data := isData
    have whole := merges named data List.mem_cons_self
    have others :
        ∀ {other : String} {session : JsonObject},
          other ≠ named →
          sessionAt (Dictionary.set named (.obj session) state) other =
            sessionAt state other := by
      intro other session different
      unfold sessionAt
      rw [Dictionary.lookup_set_other different]
    rw [mergeSessions, holds.stored isSession]
    dsimp only
    rw [whole, if_neg Bool.false_ne_true, inductionHypothesis]
    · by_cases same : key = named
      · subst same
        rw [Dictionary.lookup_eq_none_iff.mpr fresh]
        simp [Dictionary.lookup_set_self]
      · have different : (key == named) = false := by
          simpa using same
        rw [Dictionary.lookup_set_other same, others same,
          List.lookup_cons, different]
    · exact holds.set named _
    · exact
        ⟨distinctRest, fun entry member =>
          reports.sessions entry (List.mem_cons_of_mem _ member)⟩
    · intro other changes member
      have different : other ≠ named := by
        rintro rfl
        exact fresh (List.mem_map.mpr ⟨_, member, rfl⟩)
      rw [others different]
      exact merges other changes (List.mem_cons_of_mem _ member)

/-- What is not about a session leaves the sessions alone. -/
theorem lookup_prepareState
    {payload : HeartbeatData}
    {key : String}
    (isSession : isSessionKey key = true)
    (now : Int)
    (state : JsonObject) :
    (prepareState payload now state).lookup key =
      if payload.sync = true ∧
          (payload.agentStatus.getD []).any
            (fun session => session.1 = key && isObject session.2) = false
      then none
      else state.lookup key := by
  have notConnection : key ≠ "__agent_connection" := by
    rintro rfl
    rw [isSessionKey_connection] at isSession
    cases isSession
  have notMetrics : key ≠ "__agent_metrics" := by
    rintro rfl
    rw [isSessionKey_metrics] at isSession
    cases isSession
  have visible : key.startsWith "__" = false := by
    simpa [isSessionKey] using isSession
  have measured :
      (withMetrics payload
          (Dictionary.set "__agent_connection" (connectionState true now)
            state)).lookup key =
        state.lookup key := by
    rw [lookup_withMetrics payload notMetrics,
      Dictionary.lookup_set_other notConnection]
  unfold prepareState
  dsimp only
  by_cases isSync : payload.sync = true
  · rw [if_pos isSync]
    by_cases named :
        (payload.agentStatus.getD []).any
          (fun session => session.1 = key && isObject session.2) = true
    · have isKept :
          ¬(payload.sync = true ∧
            (payload.agentStatus.getD []).any
              (fun session => session.1 = key && isObject session.2) =
              false) := by
        simp [named]
      rw [if_neg isKept]
      unfold dropStale
      rw [Dictionary.lookup_filter]
      · exact measured
      · intro value
        simp [named]
    · have unnamed := Bool.eq_false_iff.mpr named
      rw [if_pos ⟨isSync, unnamed⟩]
      refine Dictionary.lookup_eq_none_iff.mpr fun present => ?_
      obtain ⟨entry, member, rfl⟩ := List.mem_map.mp present
      have kept := (List.mem_filter.mp member).2
      rw [visible, unnamed] at kept
      cases kept
  · rw [if_neg isSync, if_neg fun stale => isSync stale.1]
    exact measured

theorem HoldsSessions.prepareState
    (holds : HoldsSessions state)
    (payload : HeartbeatData)
    (now : Int) :
    HoldsSessions (Agents.prepareState payload now state) := by
  intro key value isSession found
  rw [lookup_prepareState isSession] at found
  split at found
  · cases found
  · exact holds key value isSession found

theorem HoldsSessions.mergeAgentState
    (holds : HoldsSessions state)
    (library : TextLibrary)
    (payload : HeartbeatData)
    (now : Int) :
    HoldsSessions
      (Agents.mergeAgentState library payload now state).changed := by
  rw [mergeAgentState_eq]
  exact (holds.prepareState payload now).mergeSessions library _ _

/--
What becomes of a session: it is merged if it is reported, and a full report
drops the others.
-/
theorem lookup_mergedSessions
    {payload : HeartbeatData}
    {now : Int}
    {state : JsonObject}
    (holds : HoldsSessions state)
    (reports : ReportsSessions (payload.agentStatus.getD []))
    (merges :
      ∀ key data,
        (key, Json.obj data) ∈ payload.agentStatus.getD [] →
        (mergeSession library payload.sync (sessionAt state key)
          data).raised = false)
    {key : String}
    (isSession : isSessionKey key = true) :
    (mergeAgentState library payload now state).changed.lookup key =
      match (payload.agentStatus.getD []).lookup key with
      | some (.obj data) =>
        some
          (.obj
            (mergeSession library payload.sync (sessionAt state key)
              data).changed)
      | _ =>
        if payload.sync = true then none else state.lookup key := by
  have named :
      ∀ {other : String} {data : JsonObject},
        (other, Json.obj data) ∈ payload.agentStatus.getD [] →
        (payload.agentStatus.getD []).any
          (fun session => session.1 = other && isObject session.2) =
          true := by
    intro other data member
    refine List.any_eq_true.mpr ⟨_, member, ?_⟩
    simp [isObject]
  have unchanged :
      ∀ {other : String} {data : JsonObject},
        (other, Json.obj data) ∈ payload.agentStatus.getD [] →
        sessionAt (prepareState payload now state) other =
          sessionAt state other := by
    intro other data member
    unfold sessionAt
    rw [lookup_prepareState (reports.sessions _ member).1]
    simp [named member]
  rw [mergeAgentState_eq,
    lookup_mergeSessions (holds.prepareState payload now) reports]
  · cases reported : (payload.agentStatus.getD []).lookup key with
    | none =>
      dsimp only
      rw [lookup_prepareState isSession]
      have unnamed :
          (payload.agentStatus.getD []).any
            (fun session => session.1 = key && isObject session.2) =
            false := by
        refine List.any_eq_false.mpr fun entry member => ?_
        have other : entry.1 ≠ key := by
          rintro rfl
          exact Dictionary.lookup_eq_none_iff.mp reported
            (List.mem_map.mpr ⟨entry, member, rfl⟩)
        simp [other]
      simp [unnamed]
    | some value =>
      have member := Dictionary.mem_of_lookup reported
      obtain ⟨_, data, isData⟩ := reports.sessions _ member
      obtain rfl : value = .obj data := isData
      dsimp only
      rw [unchanged member]
  · intro other data member
    rw [unchanged member]
    exact merges other data member

end RpaPlatform.Agents
