import RpaPlatform.AgentPolicy

namespace RpaPlatform.Agents

open Tasks (Json)

/-!
# Heartbeats that merge without an exception

What a heartbeat reports is written into the stored sessions before anything
looks at it.  A stored state is healthy if its sessions list their processes
under numbers and everything listed under a number is an object.  A heartbeat
that suits a healthy state is merged completely and leaves one.
-/

/-! ### Healthy states -/

def isSessionKey (key : String) : Bool :=
  !key.startsWith "__"

theorem isSessionKey_connection :
    isSessionKey "__agent_connection" = false := by
  decide +kernel

theorem isSessionKey_metrics : isSessionKey "__agent_metrics" = false := by
  decide +kernel

def Keepable (library : TextLibrary) (pid : String) (info : Json) : Prop :=
  isObject info = (library.int pid).isSome

/-- The processes of a session are an object of keepable entries. -/
def HealthySession (library : TextLibrary) (session : JsonObject) : Prop :=
  ∃ processes,
    fieldOr session "processes" (.obj []) = .obj processes ∧
      ∀ entry ∈ processes, Keepable library entry.1 entry.2

/-- The sessions of a state are healthy. -/
def HealthyState (library : TextLibrary) (state : JsonObject) : Prop :=
  ∀ entry ∈ state,
    isSessionKey entry.1 = true →
    ∃ session, entry.2 = .obj session ∧ HealthySession library session

/-- What is stored of an agent before its next heartbeat. -/
def AgentRuntime.stateOf
    (runtime : AgentRuntime)
    (agentId : String) : JsonObject :=
  (runtime.latestStats.lookup agentId).getD []

/-- The processes that are remembered of an agent. -/
def AgentRuntime.remembered
    (runtime : AgentRuntime)
    (agentId : String) : List (String × ProcessState) :=
  (runtime.prevProcessStates.lookup agentId).getD []

/-- What is kept of an agent can be merged with what it reports. -/
structure HealthyAgent
    (library : TextLibrary)
    (runtime : AgentRuntime)
    (agentId : String) : Prop where
  state : HealthyState library (runtime.stateOf agentId)
  remembered :
    ∀ entry ∈ runtime.remembered agentId, (library.int entry.1).isSome = true

/-! ### Heartbeats that suit a state -/

/-- What is reported of a process can be merged with what is stored. -/
def MergesProcess
    (library : TextLibrary)
    (stored : JsonObject)
    (pid : String)
    (info : Json) : Prop :=
  reportsStopped info = true ∨
    stored.lookup pid = none ∨
      ∃ fields,
        stored.lookup pid = some (.obj fields) ∧
          (isObject info = true ∨
            (library.updatePairs fields info).isSome = true)

/-- A process that is stored for the first time is keepable. -/
def KeepsProcess
    (library : TextLibrary)
    (stored : JsonObject)
    (pid : String)
    (info : Json) : Prop :=
  reportsStopped info = true ∨
    (stored.lookup pid).isSome = true ∨ Keepable library pid info

/-- What is reported of a session replaces or fits what is stored. -/
def MergesSession
    (library : TextLibrary)
    (isSync isSession : Bool)
    (target data : JsonObject) : Prop :=
  let incoming := fieldOr data "processes" (.obj [])
  let current := fieldOr target "processes" (.obj [])
  if isSync then
    ∃ processes,
      incoming = .obj processes ∧
        (isSession = true →
          ∀ entry ∈ processes, Keepable library entry.1 entry.2)
  else if !truthy incoming && (data.lookup "process_count").any equalsZero then
    (∃ stored, current = .obj stored) ∨ ∃ items, current = .arr items
  else
    incoming = .obj [] ∨
      ∃ processes stored,
        incoming = .obj processes ∧ current = .obj stored ∧
          ∀ entry ∈ processes,
            MergesProcess library stored entry.1 entry.2 ∧
              (isSession = true → KeepsProcess library stored entry.1 entry.2)

/-- The state that the sessions of a heartbeat are merged into. -/
def prepareState
    (payload : HeartbeatData)
    (now : Int)
    (state : JsonObject) : JsonObject :=
  let state :=
    Dictionary.set "__agent_connection" (connectionState true now) state
  let state :=
    match payload.systemMetrics with
    | some metrics =>
      Dictionary.set "__agent_metrics" (.obj metrics) state
    | none =>
      state
  if payload.sync then dropStale state (payload.agentStatus.getD [])
  else state

/-- Every session that is reported suits what is stored of it. -/
def MergesSessions
    (library : TextLibrary)
    (isSync : Bool)
    (state status : JsonObject) : Prop :=
  ∀ key data,
    (key, Json.obj data) ∈ status →
    ∃ target,
      fieldOr state key (.obj []) = .obj target ∧
        MergesSession library isSync (isSessionKey key) target data

/-- Every session of a heartbeat suits what is stored of its agent. -/
def Mergeable
    (library : TextLibrary)
    (payload : HeartbeatData)
    (now : Int)
    (runtime : AgentRuntime) : Prop :=
  MergesSessions library payload.sync
    (prepareState payload now (runtime.stateOf payload.agentId))
    (payload.agentStatus.getD [])

/-- The processes that a session reports are objects under numbers. -/
def WellFormedSession
    (library : TextLibrary)
    (data : JsonObject) : Prop :=
  ∃ processes,
    fieldOr data "processes" (.obj []) = .obj processes ∧
      ∀ entry ∈ processes,
        isObject entry.2 = true ∧ (library.int entry.1).isSome = true

/-- A heartbeat reports sessions, each with well-formed processes. -/
def HeartbeatData.WellFormed
    (library : TextLibrary)
    (payload : HeartbeatData) : Prop :=
  ∀ entry ∈ payload.agentStatus.getD [],
    isSessionKey entry.1 = true ∧
      ∃ data, entry.2 = .obj data ∧ WellFormedSession library data

/-! ### Merging into a healthy state -/

section Merging

variable {library : TextLibrary}

theorem HealthyState.lookup
    {state : JsonObject}
    (healthy : HealthyState library state)
    {key : String}
    (isSession : isSessionKey key = true) :
    ∃ target,
      fieldOr state key (.obj []) = .obj target ∧
        HealthySession library target := by
  unfold fieldOr
  cases found : state.lookup key with
  | none =>
    exact ⟨[], rfl, [], rfl, fun _ => nofun⟩
  | some value =>
    exact healthy _ (Dictionary.mem_of_lookup found) isSession

theorem HealthyState.set
    {state fields : JsonObject}
    (healthy : HealthyState library state)
    {key : String}
    (healthySession : isSessionKey key = true → HealthySession library fields) :
    HealthyState library (Dictionary.set key (.obj fields) state) := by
  intro entry member isSession
  rcases Dictionary.mem_set member with rfl | earlier
  · exact ⟨fields, rfl, healthySession isSession⟩
  · exact healthy entry earlier isSession

theorem HealthyState.prepareState
    {state : JsonObject}
    (healthy : HealthyState library state)
    (payload : HeartbeatData)
    (now : Int) :
    HealthyState library (prepareState payload now state) := by
  have connected :
      HealthyState library
        (Dictionary.set "__agent_connection" (connectionState true now)
          state) :=
    healthy.set (by simp [isSessionKey_connection])
  have measured : HealthyState library
        (match payload.systemMetrics with
        | some metrics =>
          Dictionary.set "__agent_metrics" (.obj metrics)
            (Dictionary.set "__agent_connection"
              (connectionState true now) state)
        | none =>
          Dictionary.set "__agent_connection" (connectionState true now)
            state) := by
    split
    · exact connected.set (by simp [isSessionKey_metrics])
    · exact connected
  unfold Agents.prepareState
  dsimp only
  split
  · exact fun entry member => measured entry (List.mem_filter.mp member).1
  · exact measured

/-- A process is merged, and the processes stay keepable. -/
theorem mergeProcess_merges
    {stored : JsonObject}
    {pid : String}
    {info : Json}
    (merges : MergesProcess library stored pid info) :
    ∃ merged,
      mergeProcess library stored pid info = some merged ∧
        (∀ other, other ≠ pid → merged.lookup other = stored.lookup other) ∧
        ((∀ entry ∈ stored, Keepable library entry.1 entry.2) →
          KeepsProcess library stored pid info →
          ∀ entry ∈ merged, Keepable library entry.1 entry.2) := by
  have replaced :
      ∀ {fields : JsonObject} (changed : JsonObject),
        stored.lookup pid = some (.obj fields) →
        (∀ entry ∈ stored, Keepable library entry.1 entry.2) →
        ∀ entry ∈ Dictionary.set pid (.obj changed) stored,
          Keepable library entry.1 entry.2 := by
    intro fields changed found keepable entry member
    rcases Dictionary.mem_set member with rfl | earlier
    · have isKeepable : Keepable library pid (.obj fields) :=
        keepable _ (Dictionary.mem_of_lookup found)
      exact isKeepable
    · exact keepable entry earlier
  unfold mergeProcess
  by_cases stopped : reportsStopped info = true
  · refine ⟨Dictionary.erase pid stored, if_pos stopped, ?_, ?_⟩
    · exact fun other different =>
        Dictionary.lookup_erase_other different stored
    · exact fun keepable _ entry member =>
        keepable entry (List.mem_filter.mp member).1
  rw [if_neg stopped]
  rcases merges with isStopped | absent | ⟨fields, found, fits⟩
  · exact absurd isStopped stopped
  · rw [absent]
    refine ⟨_, rfl, ?_, ?_⟩
    · exact fun other different =>
        Dictionary.lookup_set_other different _ _
    · rintro keepable (isStopped | present | isKeepable) entry member
      · exact absurd isStopped stopped
      · rw [absent] at present
        cases present
      · rcases Dictionary.mem_set member with rfl | earlier
        · exact isKeepable
        · exact keepable entry earlier
  · rw [found]
    dsimp only
    have other :
        ∀ changed : JsonObject,
          ∀ other,
            other ≠ pid →
            (Dictionary.set pid (.obj changed) stored).lookup other =
              stored.lookup other :=
      fun changed other different =>
        Dictionary.lookup_set_other different _ _
    split
    · exact ⟨_, rfl, other _, fun keepable _ => replaced _ found keepable⟩
    · rename_i notObject
      have updated : (library.updatePairs fields info).isSome = true := by
        refine fits.resolve_left fun isObject => ?_
        cases info with
        | obj changes =>
          exact notObject changes rfl
        | _ =>
          cases isObject
      obtain ⟨changed, isChanged⟩ := Option.isSome_iff_exists.mp updated
      rw [isChanged]
      exact ⟨_, rfl, other _, fun keepable _ => replaced _ found keepable⟩

theorem mergeProcesses_merges
    {stored reported : JsonObject}
    (distinct : (reported.map Prod.fst).Nodup)
    (merges :
      ∀ entry ∈ reported, MergesProcess library stored entry.1 entry.2) :
    ∃ merged,
      mergeProcesses library (.obj stored) reported =
        { changed := .obj merged, raised := false } ∧
        ((∀ entry ∈ stored, Keepable library entry.1 entry.2) →
          (∀ entry ∈ reported, KeepsProcess library stored entry.1 entry.2) →
          ∀ entry ∈ merged, Keepable library entry.1 entry.2) := by
  induction reported generalizing stored with
  | nil =>
    exact ⟨stored, rfl, fun keepable _ => keepable⟩
  | cons first rest inductionHypothesis =>
    obtain ⟨pid, info⟩ := first
    obtain ⟨fresh, distinctRest⟩ := List.nodup_cons.mp distinct
    obtain ⟨next, isNext, others, keeps⟩ :=
      mergeProcess_merges (merges _ List.mem_cons_self)
    have unchanged :
        ∀ entry ∈ rest, next.lookup entry.1 = stored.lookup entry.1 := by
      intro entry member
      refine others _ fun same => fresh ?_
      exact same ▸ List.mem_map.mpr ⟨entry, member, rfl⟩
    obtain ⟨merged, isMerged, keepsRest⟩ :=
      @inductionHypothesis next distinctRest fun entry member => by
        have suits := merges entry (List.mem_cons_of_mem _ member)
        unfold MergesProcess at suits ⊢
        rwa [unchanged entry member]
    refine ⟨merged, ?_, fun keepable reportedKeeps => ?_⟩
    · rw [mergeProcesses, isNext]
      exact isMerged
    · refine keepsRest
        (keeps keepable (reportedKeeps _ List.mem_cons_self)) ?_
      intro entry member
      have kept :=
        reportedKeeps entry (List.mem_cons_of_mem _ member)
      unfold KeepsProcess at kept ⊢
      rwa [unchanged entry member]

/-- A session is merged, and a healthy one stays healthy. -/
theorem mergeSession_merges
    {isSync isSession : Bool}
    {target data : JsonObject}
    (parsed : ParsedFields data)
    (merges : MergesSession library isSync isSession target data)
    (healthy : isSession = true → HealthySession library target) :
    (mergeSession library isSync target data).raised = false ∧
      (isSession = true →
        HealthySession library
          (mergeSession library isSync target data).changed) := by
  have holds :
      ∀ {processes : JsonObject} (fields : JsonObject),
        (∀ entry ∈ processes, Keepable library entry.1 entry.2) →
        HealthySession library
          (Dictionary.set "processes" (.obj processes) fields) := by
    intro processes fields keepable
    refine ⟨processes, ?_, keepable⟩
    rw [fieldOr, Dictionary.lookup_set_self]
    rfl
  have unchanged :
      fieldOr
          (Dictionary.update target
            (data.filter fun field => field.1 ≠ "processes"))
          "processes" (.obj []) =
        fieldOr target "processes" (.obj []) := by
    unfold fieldOr
    rw [Dictionary.lookup_update_other]
    simp
  unfold MergesSession at merges
  dsimp only at merges
  unfold mergeSession
  dsimp only
  cases isSync with
  | true =>
    obtain ⟨processes, reported, keepable⟩ := merges
    unfold fieldOr at reported
    rw [if_pos rfl, reported]
    exact ⟨rfl, fun isSession => holds _ (keepable isSession)⟩
  | false =>
    rw [if_neg Bool.false_ne_true] at merges ⊢
    unfold mergeDifference
    dsimp only
    unfold HealthySession at healthy
    rw [← unchanged] at merges healthy
    unfold fieldOr at merges healthy
    split at merges
    · rename_i isEmpty
      rw [if_pos isEmpty]
      rcases merges with ⟨stored, isStored⟩ | ⟨items, isStored⟩
      · rw [isStored]
        exact ⟨rfl, fun _ => holds _ nofun⟩
      · rw [isStored]
        refine ⟨rfl, fun isSession => ?_⟩
        obtain ⟨processes, isObject, _⟩ := healthy isSession
        rw [isStored] at isObject
        cases isObject
    · rename_i notEmpty
      rw [if_neg notEmpty]
      rcases merges with nothing | ⟨processes, stored, reported, isStored,
        suits⟩
      · rw [nothing]
        refine ⟨rfl, fun isSession => ?_⟩
        obtain ⟨processes, isObject, keepable⟩ := healthy isSession
        rw [isObject]
        exact holds _ keepable
      · have distinct : (processes.map Prod.fst).Nodup := by
          cases found : data.lookup "processes" with
          | none =>
            rw [found] at reported
            cases reported
            exact List.nodup_nil
          | some value =>
            rw [found] at reported
            obtain rfl : value = .obj processes := reported
            exact (parsed.lookup found).1
        obtain ⟨merged, isMerged, keeps⟩ :=
          mergeProcesses_merges distinct fun entry member =>
            (suits entry member).1
        rw [reported, isStored]
        dsimp only
        rw [isMerged]
        refine ⟨rfl, fun isSession => holds _ (keeps ?_ ?_)⟩
        · obtain ⟨kept, isObject, keepable⟩ := healthy isSession
          rw [isStored] at isObject
          cases isObject
          exact keepable
        · exact fun entry member => (suits entry member).2 isSession

/-- Sessions are merged, and a healthy state stays healthy. -/
theorem mergeSessions_merges
    {isSync : Bool}
    {state status : JsonObject}
    (parsed : ParsedFields status)
    (merges : MergesSessions library isSync state status)
    (healthy : HealthyState library state) :
    (mergeSessions library isSync state status).raised = false ∧
      HealthyState library
        (mergeSessions library isSync state status).changed := by
  induction status generalizing state with
  | nil =>
    exact ⟨rfl, healthy⟩
  | cons first rest inductionHypothesis =>
    obtain ⟨key, value⟩ := first
    obtain ⟨fresh, distinctRest⟩ := List.nodup_cons.mp parsed.1
    have parsedRest : ParsedFields rest := ⟨distinctRest, parsed.2.2⟩
    have later :
        ∀ {next : JsonObject},
          (∀ other, other ≠ key → next.lookup other = state.lookup other) →
          MergesSessions library isSync next rest := by
      intro next others other data member
      have different : other ≠ key := by
        rintro rfl
        exact fresh (List.mem_map.mpr ⟨_, member, rfl⟩)
      have suits := merges other data (List.mem_cons_of_mem _ member)
      unfold fieldOr at suits ⊢
      rwa [others other different]
    cases value with
    | obj data =>
      obtain ⟨target, isTarget, suits⟩ :=
        merges key data List.mem_cons_self
      have healthyTarget :
          isSessionKey key = true → HealthySession library target := by
        intro isSession
        obtain ⟨stored, isStored, healthyStored⟩ :=
          healthy.lookup isSession
        rw [isTarget] at isStored
        cases isStored
        exact healthyStored
      obtain ⟨whole, healthyMerged⟩ :=
        mergeSession_merges parsed.2.1 suits healthyTarget
      unfold fieldOr at isTarget
      rw [mergeSessions, isTarget]
      dsimp only
      rw [if_neg (by rw [whole]; exact Bool.false_ne_true)]
      exact
        inductionHypothesis parsedRest
          (later fun other different =>
            Dictionary.lookup_set_other different _ _)
          (healthy.set healthyMerged)
    | _ =>
      exact inductionHypothesis parsedRest (later fun _ _ => rfl) healthy

theorem mergeAgentState_eq
    (payload : HeartbeatData)
    (now : Int)
    (state : JsonObject) :
    mergeAgentState library payload now state =
      mergeSessions library payload.sync (prepareState payload now state)
        (payload.agentStatus.getD []) :=
  rfl

theorem HeartbeatData.Parsed.status
    {payload : HeartbeatData}
    (parsed : payload.Parsed) :
    ParsedFields (payload.agentStatus.getD []) := by
  cases reported : payload.agentStatus with
  | none =>
    exact .nil
  | some status =>
    exact parsed.agentStatus status reported

theorem mergesSessions_of_wellFormed
    {isSync : Bool}
    {state status : JsonObject}
    (healthy : HealthyState library state)
    (wellFormed :
      ∀ entry ∈ status,
        isSessionKey entry.1 = true ∧
          ∃ data, entry.2 = .obj data ∧ WellFormedSession library data) :
    MergesSessions library isSync state status := by
  intro key data member
  obtain ⟨isSession, fields, isFields, processes, reported, numbered⟩ :=
    wellFormed _ member
  cases isFields
  obtain ⟨target, isTarget, stored, isStored, keepable⟩ :=
    healthy.lookup isSession
  refine ⟨target, isTarget, ?_⟩
  have keeps : ∀ entry ∈ processes, Keepable library entry.1 entry.2 := by
    intro entry reportedEntry
    obtain ⟨object, number⟩ := numbered entry reportedEntry
    exact object.trans number.symm
  unfold MergesSession
  dsimp only
  split
  · exact ⟨processes, reported, fun _ => keeps⟩
  · split
    · exact .inl ⟨stored, isStored⟩
    · refine .inr ⟨processes, stored, reported, isStored, ?_⟩
      intro entry reportedEntry
      refine ⟨.inr ?_, fun _ => .inr (.inr (keeps entry reportedEntry))⟩
      cases found : stored.lookup entry.1 with
      | none =>
        exact .inl rfl
      | some value =>
        obtain ⟨object, number⟩ := numbered entry reportedEntry
        have isObject : isObject value = true :=
          (keepable _ (Dictionary.mem_of_lookup found)).trans number
        cases value with
        | obj fields =>
          exact .inr ⟨fields, rfl, .inl object⟩
        | _ =>
          cases isObject

end Merging

end RpaPlatform.Agents
