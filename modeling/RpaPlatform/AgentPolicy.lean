import RpaPlatform.AccessPolicy
import RpaPlatform.AgentIsolation

namespace RpaPlatform.Agents

open Tasks (Json)

/-!
# Heartbeats and the access policy

The metrics of a heartbeat are merged into the agent's metadata at its root,
where the access policy is kept as well.  The policy stays as it is exactly if
the metrics determine the value at none of its paths.
-/

/-! ### The metrics of a heartbeat -/

/-- The metrics, with what the status reports under their key. -/
def HeartbeatData.overlaid (payload : HeartbeatData) : JsonObject :=
  match payload.systemMetrics with
  | none =>
    []
  | some metrics =>
    match (payload.agentStatus.getD []).lookup "__agent_metrics" with
    | some (.obj session) =>
      Dictionary.update metrics
        (session.filter fun field => field.1 ≠ "processes")
    | _ => metrics

/-- The payload comes from a text, so that its keys are distinct. -/
structure HeartbeatData.Parsed (payload : HeartbeatData) : Prop where
  agentStatus :
    ∀ status, payload.agentStatus = some status → ParsedFields status
  systemMetrics :
    ∀ metrics, payload.systemMetrics = some metrics → ParsedFields metrics

section Overlay

variable {library : TextLibrary}

theorem lookup_mergeSession
    {key : String}
    (field : key ≠ "processes")
    (isSync : Bool)
    (target data : JsonObject) :
    (mergeSession library isSync target data).changed.lookup key =
      (Dictionary.update target
        (data.filter fun field => field.1 ≠ "processes")).lookup key := by
  have kept :
      ∀ (value : Json) (fields : JsonObject),
        (Dictionary.set "processes" value fields).lookup key =
          fields.lookup key :=
    fun value fields => Dictionary.lookup_set_other field value fields
  unfold mergeSession mergeDifference
  dsimp only
  split
  · split
    · exact kept _ _
    · rfl
  · split
    · split
      · exact (kept _ _).trans (kept _ _)
      · exact (kept _ _).trans (kept _ _)
      · exact kept _ _
    · split
      · exact (kept _ _).trans (kept _ _)
      · exact kept _ _

theorem nodup_mergeSession
    (isSync : Bool)
    {target : JsonObject}
    (distinct : (target.map Prod.fst).Nodup)
    (data : JsonObject) :
    ((mergeSession library isSync target data).changed.map Prod.fst).Nodup := by
  have updated :=
    Dictionary.nodup_keys_update distinct
      (data.filter fun field => field.1 ≠ "processes")
  have kept :
      ∀ (value : Json) {fields : JsonObject},
        (fields.map Prod.fst).Nodup →
        ((Dictionary.set "processes" value fields).map Prod.fst).Nodup :=
    fun value _ => Dictionary.nodup_keys_set _ value
  unfold mergeSession mergeDifference
  dsimp only
  split
  · split
    · exact kept _ updated
    · exact updated
  · split
    · split
      · exact kept _ (kept _ updated)
      · exact kept _ (kept _ updated)
      · exact kept _ updated
    · split
      · exact kept _ (kept _ updated)
      · exact kept _ updated

theorem lookup_mergeSessions_absent
    {wanted : String}
    {status : JsonObject}
    (isSync : Bool)
    (absent : ∀ data, (wanted, Json.obj data) ∉ status)
    (state : JsonObject) :
    (mergeSessions library isSync state status).changed.lookup wanted =
      state.lookup wanted := by
  induction status generalizing state with
  | nil =>
    rfl
  | cons entry rest inductionHypothesis =>
    obtain ⟨key, value⟩ := entry
    have later : ∀ data, (wanted, Json.obj data) ∉ rest :=
      fun data member => absent data (List.mem_cons_of_mem _ member)
    cases value with
    | obj data =>
      have other : wanted ≠ key := by
        rintro rfl
        exact absent data List.mem_cons_self
      rw [mergeSessions]
      split
      · dsimp only
        split
        · exact Dictionary.lookup_set_other other _ _
        · rw [inductionHypothesis later]
          exact Dictionary.lookup_set_other other _ _
      · rfl
    | _ =>
      exact inductionHypothesis later state

/-- A session that is reported is merged into what there was of it. -/
theorem lookup_mergeSessions_named
    {wanted : String}
    {status data : JsonObject}
    {isSync : Bool}
    {state target : JsonObject}
    (distinct : (status.map Prod.fst).Nodup)
    (reported : status.lookup wanted = some (.obj data))
    (stored : state.lookup wanted = some (.obj target))
    (merges : (mergeSessions library isSync state status).raised = false) :
    (mergeSessions library isSync state status).changed.lookup wanted =
      some (.obj (mergeSession library isSync target data).changed) := by
  induction status generalizing state with
  | nil =>
    cases reported
  | cons entry rest inductionHypothesis =>
    obtain ⟨key, value⟩ := entry
    obtain ⟨fresh, distinctRest⟩ := List.nodup_cons.mp distinct
    rw [List.lookup_cons] at reported
    split at reported
    · rename_i same
      obtain rfl : wanted = key := by
        simpa using same
      cases reported
      have absent : ∀ data, (wanted, Json.obj data) ∉ rest :=
        fun data member =>
          fresh (List.mem_map.mpr ⟨_, member, rfl⟩)
      rw [mergeSessions, stored, Option.getD_some] at merges ⊢
      dsimp only at merges ⊢
      split at merges
      · cases merges
      · rename_i whole
        rw [if_neg whole, lookup_mergeSessions_absent isSync absent]
        exact Dictionary.lookup_set_self _ _ _
    · rename_i different
      have other : wanted ≠ key := by
        simpa using different
      cases value with
      | obj session =>
        rw [mergeSessions] at merges ⊢
        split at merges
        · dsimp only at merges ⊢
          split at merges
          · cases merges
          · rename_i whole
            rw [if_neg whole]
            refine inductionHypothesis distinctRest reported ?_ merges
            rw [Dictionary.lookup_set_other other]
            exact stored
        · cases merges
      | _ =>
        exact inductionHypothesis distinctRest reported stored merges

theorem lookup_filter
    {entries : JsonObject}
    {keep : String × Json → Bool}
    {key : String}
    (keeps : ∀ value, keep (key, value) = true) :
    (entries.filter keep).lookup key = entries.lookup key := by
  induction entries with
  | nil =>
    rfl
  | cons entry rest inductionHypothesis =>
    obtain ⟨found, value⟩ := entry
    by_cases same : key = found
    · subst found
      simp [keeps]
    · have different : (key == found) = false := by
        simpa using same
      by_cases kept : keep (found, value) = true
      · simp [kept, List.lookup_cons, different, inductionHypothesis]
      · simp [kept, List.lookup_cons, different, inductionHypothesis]

variable {payload : HeartbeatData}

/-- What a merged heartbeat leaves under the key of its metrics. -/
theorem lookup_mergeAgentState
    (parsed : payload.Parsed)
    {metrics : JsonObject}
    (reported : payload.systemMetrics = some metrics)
    {now : Int}
    {state : JsonObject}
    (merges : (mergeAgentState library payload now state).raised = false) :
    (mergeAgentState library payload now state).changed.lookup
        "__agent_metrics" =
      some
        (.obj
          (match
            (payload.agentStatus.getD []).lookup "__agent_metrics" with
          | some (.obj session) =>
            (mergeSession library payload.sync metrics session).changed
          | _ => metrics)) := by
  have distinct : ((payload.agentStatus.getD []).map Prod.fst).Nodup := by
    cases named : payload.agentStatus with
    | none =>
      exact List.nodup_nil
    | some status =>
      exact (parsed.agentStatus status named).1
  unfold mergeAgentState at merges ⊢
  rw [reported] at merges ⊢
  dsimp only at merges ⊢
  generalize isStart : (if payload.sync = true then
        dropStale
          (Dictionary.set "__agent_metrics" (.obj metrics)
            (Dictionary.set "__agent_connection"
              (connectionState true now) state))
          (payload.agentStatus.getD [])
      else
        Dictionary.set "__agent_metrics" (.obj metrics)
          (Dictionary.set "__agent_connection" (connectionState true now)
            state)) = start at merges ⊢
  have stored : start.lookup "__agent_metrics" = some (.obj metrics) := by
    subst start
    split
    · unfold dropStale
      rw [lookup_filter fun value => by
        have isPrivate : "__agent_metrics".startsWith "__" = true := by
          decide +kernel
        simp only [isPrivate, Bool.true_or]]
      exact Dictionary.lookup_set_self _ _ _
    · exact Dictionary.lookup_set_self _ _ _
  have absent :
      (∀ data,
        (payload.agentStatus.getD []).lookup "__agent_metrics" ≠
          some (.obj data)) →
      ∀ data,
        ("__agent_metrics", Json.obj data) ∉ payload.agentStatus.getD [] :=
    fun unnamed data member =>
      unnamed data (Dictionary.lookup_of_mem distinct member)
  split
  · rename_i session named
    exact lookup_mergeSessions_named distinct named stored merges
  · rename_i unnamed
    rw [lookup_mergeSessions_absent payload.sync (absent unnamed)]
    exact stored

theorem latestStats_detectEvents
    (agentId : String)
    (now : Int)
    (state : JsonObject)
    (monitoring : Monitoring) :
    (detectEvents library agentId now state
        monitoring).changed.runtime.latestStats =
      monitoring.runtime.latestStats := by
  unfold detectEvents
  dsimp only
  split
  · rfl
  · split
    · rfl
    · rfl

theorem lookup_mergeHeartbeat
    {now : Int}
    {monitoring : Monitoring}
    (merges : (mergeHeartbeat library payload now monitoring).raised = false) :
    ∃ state,
      (mergeAgentState library payload now state).raised = false ∧
        (mergeHeartbeat library payload now
              monitoring).changed.runtime.latestStats.lookup
            payload.agentId =
          some (mergeAgentState library payload now state).changed := by
  refine ⟨(monitoring.runtime.latestStats.lookup payload.agentId).getD [], ?_⟩
  unfold mergeHeartbeat at merges ⊢
  dsimp only at merges ⊢
  split at merges
  · cases merges
  · rename_i whole
    rw [if_neg whole]
    refine ⟨by simpa using whole, ?_⟩
    split at merges
    · cases merges
    · rename_i ingested
      rw [if_neg ingested, latestStats_detectEvents]
      exact Dictionary.lookup_set_self _ _ _

theorem metrics_mergeHeartbeat
    (parsed : payload.Parsed)
    {now : Int}
    {monitoring : Monitoring}
    (merges : (mergeHeartbeat library payload now monitoring).raised = false) :
    ((payload.metrics
        (mergeHeartbeat library payload now monitoring).changed).map
      Prod.fst).Nodup ∧
      ∀ {key : String},
        key ≠ "processes" →
        (payload.metrics
            (mergeHeartbeat library payload now
              monitoring).changed).lookup key =
          payload.overlaid.lookup key := by
  obtain ⟨state, mergesState, left⟩ := lookup_mergeHeartbeat merges
  unfold HeartbeatData.metrics HeartbeatData.overlaid
  rw [left, Option.getD_some]
  dsimp only
  cases reported : payload.systemMetrics with
  | none =>
    exact ⟨List.nodup_nil, fun _ => rfl⟩
  | some metrics =>
    have distinct := (parsed.systemMetrics metrics reported).1
    rw [lookup_mergeAgentState parsed reported mergesState]
    dsimp only
    split
    · exact ⟨nodup_mergeSession _ distinct _,
        fun field => lookup_mergeSession field _ _ _⟩
    · exact ⟨distinct, fun _ => rfl⟩

theorem parsedFields_overlaid
    (parsed : payload.Parsed) :
    ParsedFields payload.overlaid := by
  unfold HeartbeatData.overlaid
  cases reported : payload.systemMetrics with
  | none =>
    exact ⟨List.nodup_nil, trivial⟩
  | some metrics =>
    have metricsParsed := parsed.systemMetrics metrics reported
    dsimp only
    split
    · rename_i session named
      have sessionParsed : ParsedFields session := by
        cases status : payload.agentStatus with
        | none =>
          rw [status] at named
          cases named
        | some fields =>
          rw [status] at named
          exact (parsed.agentStatus fields status).lookup named
      refine ⟨Dictionary.nodup_keys_update metricsParsed.1 _, ?_⟩
      rw [distinctFields_iff]
      intro entry member
      rcases Dictionary.mem_update member with earlier | later
      · exact distinct_of_member metricsParsed.2 earlier
      · exact distinct_of_member sessionParsed.2 (List.mem_of_mem_filter later)
    · exact metricsParsed

end Overlay

/-! ### The policy after a heartbeat -/

namespace AgentRegistry

/-- The metadata of an agent; it has none if it is not registered. -/
def metadataOf (registry : AgentRegistry) (agentId : String) : JsonObject :=
  ((registry.getAgent agentId).map fun row => row.metadata).getD []

/-- The access policy extracted from the record of an agent. -/
def accessPolicy
    (registry : AgentRegistry)
    (library : TextLibrary)
    (agentId : String) : AccessPolicy :=
  extractAccessPolicy library (registry.metadataOf agentId)

theorem metadataOf_upsertAgent
    (registry : AgentRegistry)
    (agentId : String)
    (change : AgentChange)
    (now : Int) :
    (registry.upsertAgent agentId change now).metadataOf agentId =
      mergeMetadata (registry.metadataOf agentId)
        (change.metadata.getD []) := by
  unfold metadataOf
  rw [getAgent_upsertAgent]
  cases registry.getAgent agentId with
  | none | some =>
    rfl

/-- What a merged heartbeat makes of the registry. -/
def recordMetrics
    (registry : AgentRegistry)
    (library : TextLibrary)
    (clientId : String)
    (metrics : JsonObject)
    (now : Int) : AgentRegistry :=
  let expected :=
    expectedHostname (registry.getAgent clientId)
      (registry.getLatestDeploymentForAgent clientId)
  let hostname := fieldOr metrics "hostname" (.str "")
  let fqdn := fieldOr metrics "fqdn" (.str "")
  match hostAccepted library expected [hostname, fqdn] with
  | none =>
    registry
  | some false =>
    registry.upsertAgent clientId
      { hostname := expected
        status := some .hostnameMismatch
        connectionStatus := some .offline
        lastSeenAt := some now }
      now
  | some true =>
    match boundHostname library expected hostname with
    | none =>
      registry
    | some hostname =>
      registry.upsertAgent clientId
        { hostname
          status := some .active
          connectionStatus := some .online
          metadata := some metrics
          lastSeenAt := some now }
        now

theorem metadataOf_recordMetrics
    (registry : AgentRegistry)
    (library : TextLibrary)
    (clientId : String)
    (metrics : JsonObject)
    (now : Int) :
    (registry.recordMetrics library clientId metrics
          now).metadataOf clientId =
        registry.metadataOf clientId ∨
      (registry.recordMetrics library clientId metrics
            now).metadataOf clientId =
          mergeMetadata (registry.metadataOf clientId) metrics := by
  unfold recordMetrics
  dsimp only
  split
  · exact .inl rfl
  · rw [metadataOf_upsertAgent]
    exact .inl (mergeMetadata.eq_1 _)
  · split
    · exact .inl rfl
    · rw [metadataOf_upsertAgent]
      exact .inr rfl

end AgentRegistry

open SessionCoroutine in
theorem alone_recordHeartbeat
    (library : TextLibrary)
    (clientId : String)
    (metrics : JsonObject)
    (state : SessionState) :
    ((recordHeartbeat library clientId metrics).alone
        state).1.server.registry =
      state.server.registry.recordMetrics library clientId metrics
        state.server.clock := by
  unfold recordHeartbeat AgentRegistry.recordMetrics
  rw [Coroutine.bind_eq, alone_bind_getExpectedHostnameForAgent]
  dsimp only
  generalize
    expectedHostname (state.server.registry.getAgent clientId)
      (state.server.registry.getLatestDeploymentForAgent clientId) =
    expected
  cases hostAccepted library expected
      [fieldOr metrics "hostname" (.str ""),
        fieldOr metrics "fqdn" (.str "")] with
  | none =>
    rfl
  | some accepted =>
    cases accepted with
    | false =>
      dsimp only
      unfold disconnectHost
      rw [Coroutine.bind_eq, alone_bind_now, Coroutine.bind_eq,
        alone_bind_upsertAgent]
      rfl
    | true =>
      dsimp only
      cases boundHostname library expected
          (fieldOr metrics "hostname" (.str "")) with
      | none =>
        rfl
      | some hostname =>
        dsimp only
        rw [Coroutine.bind_eq, alone_bind_now, Coroutine.bind_eq,
          alone_bind_upsertAgent]
        rfl

open SessionCoroutine in
/-- What a heartbeat on an authenticated session makes of the registry. -/
theorem alone_handleHeartbeat
    {library : TextLibrary}
    {clientId : String}
    {payload : HeartbeatData}
    {state : SessionState}
    (authenticated : AuthenticatedAs clientId state) :
    ((handleHeartbeat library payload).alone state).1.server.registry =
      if clientId = "" ∨
          (mergeHeartbeat library payload state.server.clock
            state.server.monitoring).raised = true then
        state.server.registry
      else
        state.server.registry.recordMetrics library clientId
          (payload.metrics
            (mergeHeartbeat library payload state.server.clock
              state.server.monitoring).changed)
          state.server.clock := by
  unfold handleHeartbeat
  rw [Coroutine.bind_eq, Coroutine.alone_bind_read, authenticated]
  dsimp only
  rw [if_pos rfl, Coroutine.bind_eq, mergeMetrics, Coroutine.alone_bind_attempt]
  dsimp only
  by_cases unnamed : clientId = ""
  · have nobody : (some clientId).filter (· ≠ "") = none := by
      simp [unnamed]
    rw [nobody]
    cases raises :
        (mergeHeartbeat library payload state.server.clock
          state.server.monitoring).raised with
    | true =>
      have refused : clientId = "" ∨ true = true := .inl unnamed
      rw [if_pos refused]
      rfl
    | false =>
      have refused : clientId = "" ∨ false = true := .inl unnamed
      rw [if_pos refused]
      rfl
  · have named : (some clientId).filter (· ≠ "") = some clientId := by
      simp [unnamed]
    rw [named]
    cases raises :
        (mergeHeartbeat library payload state.server.clock
          state.server.monitoring).raised with
    | true =>
      have refused : clientId = "" ∨ true = true := .inr rfl
      rw [if_pos refused]
      rfl
    | false =>
      simp only [Bool.false_eq_true, or_false, unnamed, if_false,
        Coroutine.ofExcept, Coroutine.alone_finished_bind,
        alone_recordHeartbeat]

/-! ### Which heartbeats keep the policy -/

/-- The same session, with another registry. -/
def SessionState.withRegistry
    (state : SessionState)
    (registry : AgentRegistry) : SessionState :=
  { state with server := { state.server with registry } }

/-- Whatever the registry, a heartbeat changes no permission. -/
def KeepsAccessPolicy
    (library : TextLibrary)
    (clientId : String)
    (payload : HeartbeatData)
    (state : SessionState) : Prop :=
  ∀ registry : AgentRegistry,
    let before := registry.accessPolicy library clientId
    let after :=
      ((SessionCoroutine.handleHeartbeat library payload).alone
          (state.withRegistry registry)).1.server.registry.accessPolicy
        library clientId
    after = before ∧
      ∀ user permission,
        hasGuacamolePermission library after.toFields user permission =
          hasGuacamolePermission library before.toFields user permission

/-- A registry with one agent, which is expected on any host. -/
def hostlessRegistry
    (clientId : String)
    (metadata : JsonObject) : AgentRegistry where
  agents :=
    { rows :=
        [{ id := clientId
           hostname := "."
           metadata
           createdAt := 0
           updatedAt := 0 }]
      distinct := List.nodup_singleton _ }
  deployments := .empty
  credentials := .empty

theorem boundHostname_expected
    {library : TextLibrary}
    {expected : String}
    (isExpected : expected ≠ "")
    (hostname : Json) :
    boundHostname library expected hostname = some expected :=
  if_pos isExpected

section Policy

variable
    {library : TextLibrary}
    {clientId : String}
    {payload : HeartbeatData}

theorem metadataOf_hostlessRegistry (metadata : JsonObject) :
    (hostlessRegistry clientId metadata).metadataOf clientId = metadata := by
  simp [AgentRegistry.metadataOf, AgentRegistry.getAgent,
    KeyedTable.find?, hostlessRegistry]

theorem metadataOf_hostlessRegistry_recordMetrics
    (lawful : library.Lawful)
    (metadata metrics : JsonObject)
    (now : Int) :
    ((hostlessRegistry clientId metadata).recordMetrics library clientId
        metrics now).metadataOf clientId =
      mergeMetadata metadata metrics := by
  have dot : strip "." = "." := by
    decide
  have nothing : rstripDots "." = "" := by
    decide
  have lowered : library.lower "" = "" :=
    lawful.lower_lowercase "" rfl
  have expected :
      expectedHostname
          ((hostlessRegistry clientId metadata).getAgent clientId)
          ((hostlessRegistry clientId metadata).getLatestDeploymentForAgent
            clientId) =
        "." := by
    simp [expectedHostname, AgentRegistry.getAgent, KeyedTable.find?,
      hostlessRegistry, dot]
  have accepted :
      ∀ candidates, hostAccepted library "." candidates = some true := by
    intro candidates
    simp [hostAccepted, hostMatches, normalizeHostname, dot, nothing, lowered]
  unfold AgentRegistry.recordMetrics
  dsimp only
  rw [expected, accepted]
  dsimp only
  rw [boundHostname_expected (by decide)]
  dsimp only
  rw [AgentRegistry.metadataOf_upsertAgent, metadataOf_hostlessRegistry]
  rfl

theorem extractAccessPolicy_overlaid
    (parsed : payload.Parsed)
    {now : Int}
    {monitoring : Monitoring}
    (merges : (mergeHeartbeat library payload now monitoring).raised = false)
    (existing : JsonObject) :
    extractAccessPolicy library
        (mergeMetadata existing
          (payload.metrics
            (mergeHeartbeat library payload now monitoring).changed)) =
      extractAccessPolicy library
        (mergeMetadata existing payload.overlaid) := by
  obtain ⟨distinct, same⟩ := metrics_mergeHeartbeat parsed merges
  apply extractAccessPolicy_congr
  intro path member
  have rooted : path.head? = some "guacamole" := by
    revert path
    decide
  obtain ⟨rest, rfl⟩ := List.head?_eq_some_iff.mp rooted
  exact valueAt?_mergeMetadata_congr distinct
    (parsedFields_overlaid parsed).1 (same (by decide)) existing rest

theorem extractAccessPolicy_kept
    {incoming : JsonObject}
    (parsed : ParsedFields incoming)
    (undetermined : ∀ path ∈ policyPaths, determines incoming path = false)
    (existing : JsonObject) :
    extractAccessPolicy library (mergeMetadata existing incoming) =
      extractAccessPolicy library existing :=
  extractAccessPolicy_congr library fun path member =>
    valueAt?_mergeMetadata_kept parsed (undetermined path member) existing

theorem policyPaths_apart :
    ∀ path ∈ policyPaths, ∀ other ∈ policyPaths,
      path ≠ other → ¬ path <+: other := by
  decide

theorem probed_leaf :
    ∀ path ∈ policyPaths, ∀ fields,
      valueAt? probedMetadata path ≠ some (.obj fields) := by
  have tested :
      ∀ path ∈ policyPaths,
        (valueAt? probedMetadata path).any isObject = false := by
    decide
  intro path member fields found
  have plain := tested path member
  rw [found] at plain
  cases plain

theorem probe_leaf :
    ∀ probe ∈ policyProbes, ∀ fields, probe.2 ≠ .obj fields := by
  have tested : ∀ probe ∈ policyProbes, isObject probe.2 = false := by
    decide
  intro probe member fields found
  have plain := tested probe member
  rw [found] at plain
  cases plain

theorem extractAccessPolicy_determined
    {incoming : JsonObject}
    (parsed : ParsedFields incoming)
    {path : List String}
    {value : Json}
    (member : (path, value) ∈ policyProbes)
    (determined : determines incoming path = true) :
    extractAccessPolicy library
        (mergeMetadata (setAt value path probedMetadata) incoming) =
      extractAccessPolicy library (mergeMetadata probedMetadata incoming) := by
  have probed : path ∈ policyPaths := by
    rw [← policyProbes_paths]
    exact List.mem_map.mpr ⟨_, member, rfl⟩
  have nonempty : path ≠ [] := by
    rintro rfl
    revert probed
    decide
  apply extractAccessPolicy_congr
  intro other otherMember
  by_cases same : other = path
  · subst other
    apply valueAt?_mergeMetadata_determined parsed determined
    · intro fields found
      rw [valueAt?_setAt value nonempty] at found
      exact probe_leaf _ member fields (Option.some.inj found)
    · exact probed_leaf path probed
  · have unchanged :
        valueAt? (setAt value path probedMetadata) other =
          valueAt? probedMetadata other :=
      valueAt?_setAt_other value
        (policyPaths_apart path probed other otherMember
          fun equal => same equal.symm)
        (policyPaths_apart other otherMember path probed same) _
    cases otherDetermined : determines incoming other with
    | true =>
      apply valueAt?_mergeMetadata_determined parsed otherDetermined
      · rw [unchanged]
        exact probed_leaf other otherMember
      · exact probed_leaf other otherMember
    | false =>
      rw [valueAt?_mergeMetadata_kept parsed otherDetermined,
        valueAt?_mergeMetadata_kept parsed otherDetermined, unchanged]

theorem alone_withRegistry
    {state : SessionState}
    (authenticated : AuthenticatedAs clientId state)
    (library : TextLibrary)
    (payload : HeartbeatData)
    (registry : AgentRegistry) :
    ((SessionCoroutine.handleHeartbeat library payload).alone
        (state.withRegistry registry)).1.server.registry =
      if clientId = "" ∨
          (mergeHeartbeat library payload state.server.clock
            state.server.monitoring).raised = true then
        registry
      else
        registry.recordMetrics library clientId
          (payload.metrics
            (mergeHeartbeat library payload state.server.clock
              state.server.monitoring).changed)
          state.server.clock :=
  alone_handleHeartbeat
    (show AuthenticatedAs clientId (state.withRegistry registry) from
      authenticated)

/--
A heartbeat keeps the access policy in every registry exactly if it is not
recorded, or its metrics determine no value that a policy is read from.
-/
theorem keepsAccessPolicy_iff
    (lawful : library.Lawful)
    (parsed : payload.Parsed)
    {state : SessionState}
    (authenticated : AuthenticatedAs clientId state) :
    KeepsAccessPolicy library clientId payload state ↔
      clientId = "" ∨
        (mergeHeartbeat library payload state.server.clock
          state.server.monitoring).raised = true ∨
        ∀ path ∈ policyPaths, determines payload.overlaid path = false := by
  have results := alone_withRegistry authenticated library payload
  unfold KeepsAccessPolicy
  dsimp only
  by_cases refused :
      clientId = "" ∨
        (mergeHeartbeat library payload state.server.clock
          state.server.monitoring).raised = true
  · constructor
    · intro _
      rcases refused with unnamed | raises
      · exact .inl unnamed
      · exact .inr (.inl raises)
    · intro _ registry
      rw [results registry, if_pos refused]
      exact ⟨rfl, fun _ _ => rfl⟩
  · have merges :
        (mergeHeartbeat library payload state.server.clock
          state.server.monitoring).raised = false := by
      simpa using fun raises => refused (.inr raises)
    constructor
    · intro keeps
      refine .inr (.inr fun path member => ?_)
      rw [← policyProbes_paths] at member
      obtain ⟨⟨path, value⟩, probe, rfl⟩ := List.mem_map.mp member
      by_contra determined
      rw [Bool.not_eq_false] at determined
      have kept :
          ∀ metadata,
            extractAccessPolicy library
                (mergeMetadata metadata payload.overlaid) =
              extractAccessPolicy library metadata := by
        intro metadata
        have same := (keeps (hostlessRegistry clientId metadata)).1
        rw [results, if_neg refused, AgentRegistry.accessPolicy,
          AgentRegistry.accessPolicy,
          metadataOf_hostlessRegistry_recordMetrics lawful,
          metadataOf_hostlessRegistry,
          extractAccessPolicy_overlaid parsed merges] at same
        exact same
      have equal :
          extractAccessPolicy library
              (mergeMetadata (setAt value path probedMetadata)
                payload.overlaid) = _ :=
        extractAccessPolicy_determined (parsedFields_overlaid parsed)
          probe determined
      rw [kept, kept] at equal
      exact probe_changes lawful probe equal
    · rintro (unnamed | raises | undetermined) registry
      · exact absurd (.inl unnamed) refused
      · exact absurd (.inr raises) refused
      · have same :
            ∀ metadata,
              extractAccessPolicy library
                  (mergeMetadata metadata
                    (payload.metrics
                      (mergeHeartbeat library payload state.server.clock
                        state.server.monitoring).changed)) =
                extractAccessPolicy library metadata :=
          fun metadata =>
            (extractAccessPolicy_overlaid parsed merges metadata).trans
              (extractAccessPolicy_kept (parsedFields_overlaid parsed)
                undetermined metadata)
        rw [results registry, if_neg refused]
        have policies :
            (registry.recordMetrics library clientId
                (payload.metrics
                  (mergeHeartbeat library payload state.server.clock
                    state.server.monitoring).changed)
                state.server.clock).accessPolicy library clientId =
              registry.accessPolicy library clientId := by
          unfold AgentRegistry.accessPolicy
          rcases registry.metadataOf_recordMetrics library clientId
              (payload.metrics
                (mergeHeartbeat library payload state.server.clock
                  state.server.monitoring).changed)
              state.server.clock with kept | merged
          · rw [kept]
          · rw [merged, same]
        exact ⟨policies, fun user permission => by rw [policies]⟩

end Policy

/-! ### Heartbeats with and without a policy -/

theorem asciiTextLibrary_lawful : asciiTextLibrary.Lawful where
  lower_lowercase text lowercase := by
    have kept : text.toList.map Char.toLower = text.toList := by
      refine (List.map_congr_left fun character member => ?_).trans
        (List.map_id _)
      have inRange :
          (decide ('a'.val ≤ character.val) &&
            decide (character.val ≤ 'z'.val)) = true :=
        List.all_eq_true.mp lowercase character member
      have isLower := (Bool.and_eq_true_iff.mp inRange).1
      unfold Char.toLower
      apply dif_neg
      rintro ⟨_, upper⟩
      have bound : 'a'.val ≤ 'Z'.val :=
        UInt32.le_trans (of_decide_eq_true isLower) upper
      revert bound
      decide
    show String.ofList (text.toList.map Char.toLower) = text
    rw [kept, String.ofList_toList]

def loadHeartbeat : HeartbeatData where
  systemMetrics := some [("cpu_percent", .num 5)]
  clientId := "agent-1"

/-- A heartbeat that lets everyone control the desktop. -/
def policyHeartbeat : HeartbeatData where
  systemMetrics :=
    some
      [("guacamole",
        .obj
          [("access",
            .obj
              [("permissions",
                .obj
                  [("interact", .obj [("minimum_role", .str "viewer")])])])])]
  clientId := "agent-1"

/-- The load of the processor is recorded beside the policy. -/
theorem loadHeartbeat_keepsAccessPolicy :
    KeepsAccessPolicy asciiTextLibrary "agent-1" loadHeartbeat
      authenticatedState := by
  have parsed : loadHeartbeat.Parsed :=
    { agentStatus := nofun
      systemMetrics := by
        intro metrics reported
        obtain rfl := Option.some.inj reported
        exact ⟨List.nodup_singleton _, trivial, trivial⟩ }
  exact
    (keepsAccessPolicy_iff asciiTextLibrary_lawful parsed
        (show AuthenticatedAs "agent-1" authenticatedState from rfl)).mpr
      (.inr (.inr (by decide)))

/-- A viewer may control the desktop after the heartbeat. -/
theorem not_keepsAccessPolicy :
    ¬ KeepsAccessPolicy asciiTextLibrary "agent-1" policyHeartbeat
        authenticatedState := by
  intro keeps
  have same := (keeps provisionedRegistry).2 {} "interact"
  revert same
  decide +kernel

end RpaPlatform.Agents
