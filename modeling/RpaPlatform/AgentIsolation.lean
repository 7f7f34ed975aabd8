import RpaPlatform.AgentGate

namespace RpaPlatform.Agents

open Transition

/-!
# Isolation of what is monitored

A heartbeat is merged under the client that its payload names, which nothing
compares with the agent that the session has authenticated.  A session whose
heartbeats all name its own agent touches the entries of that agent only; a
heartbeat that names another one is merged into the other's entries.
-/

def AuthenticatedAs (agentId : String) (state : SessionState) : Prop :=
  state.connection = { clientId := some agentId, authenticated := true }

/-- At most the entries of one agent have changed. -/
structure SparesOthers
    (owner : String)
    (before after : SessionState) : Prop where
  connection : after.connection = before.connection
  monitoring :
    Monitoring.SpareOthers owner before.server.monitoring
      after.server.monitoring

/-- A frame is a heartbeat. -/
def FrameLibrary.IsHeartbeat
    (frames : FrameLibrary)
    (message : String)
    (payload : HeartbeatData) : Prop :=
  frames.authPayload message = none ∧
    frames.parse message =
      some { type := "heartbeat", data := .heartbeat payload }

/-- In every run on heartbeats, at most the agent's own entries change. -/
def TelemetryIsolated
    (deps : SessionDependencies)
    (agentId : String) : Prop :=
  ∀ {state : SessionState}
    {messages : List String}
    {happenings : List (Coroutine.Happening SessionState SessionError)}
    {reached next : Coroutine.Running SessionState SessionError Unit},
    AuthenticatedAs agentId state →
    (∀ message ∈ messages, ∃ payload, deps.frames.IsHeartbeat message payload) →
    Run (Guarded (Fires Coroutine.happen?) (Coroutine.Relies OthersAct))
      { state, rest := deps.runAgentWsSession messages } happenings
      reached →
    Coroutine.happen? reached .proceed = some next →
    Monitoring.SpareOthers agentId reached.state.server.monitoring
      next.state.server.monitoring

section Steps

open SessionCoroutine

variable
    {Result : Type}
    {coroutine : SessionCoroutine Result}
    {owner : String}

theorem SparesOthers.refl (state : SessionState) :
    SparesOthers owner state state :=
  ⟨rfl, .refl _⟩

theorem sparesOthers_of_quiet
    (quiet : coroutine.Steps Quiet) :
    coroutine.Steps (SparesOthers owner) := by
  refine quiet.weaken fun before after changes => ?_
  refine ⟨changes.connection, ?_⟩
  rw [changes.server.monitoring]
  exact .refl _

theorem handleHeartbeat_sparesOthers
    (library : TextLibrary)
    {payload : HeartbeatData}
    (own : payload.agentId = owner) :
    (handleHeartbeat library payload).Steps (SparesOthers owner) := by
  subst own
  unfold handleHeartbeat
  refine (Coroutine.steps_read SparesOthers.refl).bind fun connection => ?_
  split
  · refine Coroutine.Steps.bind
      (Coroutine.steps_attempt fun before => ?_) fun metrics => ?_
    · exact ⟨rfl, mergeHeartbeat_spareOthers payload _ _⟩
    · split
      · exact Coroutine.steps_finished _
      · exact sparesOthers_of_quiet (recordHeartbeat_quiet _ _ _)
  · exact (sparesOthers_of_quiet (close_quiet _)).bind
      fun _ => Coroutine.steps_finished _

theorem unregisterAgent_sparesOthers (socket : Nat) :
    (unregisterAgent (some owner) socket).Steps (SparesOthers owner) :=
  Coroutine.steps_attempt fun _ =>
    ⟨rfl, unregisterAgent_spareOthers _ _, .refl _⟩

end Steps

/-! ### The session -/

namespace SessionDependencies

open SessionCoroutine

variable
    {deps : SessionDependencies}
    {owner : String}
    {state : SessionState}

theorem isolated_of_steps
    {Result : Type}
    {coroutine : SessionCoroutine Result}
    (steps : coroutine.Steps (SparesOthers owner))
    (authenticated : AuthenticatedAs owner state) :
    coroutine.Guarantees OthersAct (SparesOthers owner)
      (fun state _ => AuthenticatedAs owner state) state := by
  refine steps.guarantees ?_ ?_ (fun _ _ holds => holds) authenticated
  · exact fun _ _ others holds => Eq.trans others holds
  · exact fun _ _ holds spares => ⟨spares, spares.connection.trans holds⟩

theorem processEvent_sparesOthers
    {payload : HeartbeatData}
    (own : payload.agentId = owner) :
    (deps.processEvent
        { type := "heartbeat", data := .heartbeat payload }).Steps
      (SparesOthers owner) := by
  unfold processEvent
  refine (Coroutine.steps_read SparesOthers.refl).bind fun connection => ?_
  split
  · exact (sparesOthers_of_quiet (close_quiet _)).bind
      fun _ => Coroutine.steps_finished _
  · unfold dispatchEvent
    rw [deps.dispatch_lifecycle
      (show "heartbeat" ∈ lifecycleEventTypes by decide)]
    refine
      Coroutine.Steps.bind (handleHeartbeat_sparesOthers deps.library own)
        fun handled => ?_
    split
    · exact Coroutine.steps_finished _
    · exact Coroutine.steps_finished _

theorem receiveFrames_sparesOthers
    {messages : List String}
    (own :
      ∀ message ∈ messages, ∃ payload,
        deps.frames.IsHeartbeat message payload ∧ payload.agentId = owner) :
    (deps.receiveFrames messages).Steps (SparesOthers owner) := by
  induction messages with
  | nil =>
    exact (sparesOthers_of_quiet pause_quiet).bind
      fun _ => Coroutine.steps_raised _
  | cons message rest inductionHypothesis =>
    obtain ⟨payload, ⟨forAgent, parsed⟩, named⟩ :=
      own message List.mem_cons_self
    unfold receiveFrames
    refine (sparesOthers_of_quiet pause_quiet).bind fun _ => ?_
    refine Coroutine.Steps.bind (Coroutine.Steps.catching ?_ ?_) ?_
    · unfold processFrame
      rw [forAgent]
      dsimp only
      rw [parsed]
      exact processEvent_sparesOthers named
    · intro error
      cases error with
      | exception =>
        exact Coroutine.steps_finished _
      | cancelled =>
        exact Coroutine.steps_raised _
    · intro continuation
      cases continuation with
      | receive =>
        exact inductionHypothesis fun later member =>
          own later (List.mem_cons_of_mem _ member)
      | leave =>
        exact Coroutine.steps_finished _

theorem cleanupConnection_isolated
    (socket : Nat)
    (authenticated : AuthenticatedAs owner state) :
    (cleanupConnection socket).Guarantees OthersAct (SparesOthers owner)
      (fun state _ => AuthenticatedAs owner state) state := by
  unfold cleanupConnection
  refine Coroutine.guarantees_bind_read fun before others => ?_
  refine ⟨.refl _, ?_⟩
  have holds : AuthenticatedAs owner before := Eq.trans others authenticated
  have named : before.connection.clientId = some owner := by
    rw [holds]
  apply isolated_of_steps ?_ holds
  rw [named]
  exact (sparesOthers_of_quiet (recordOffline_quiet _)).bind
    fun _ => unregisterAgent_sparesOthers socket

/--
On a session whose heartbeats all name its own agent, every step touches the
entries of that agent only, whatever else happens in between.
-/
theorem isolated_of_ownHeartbeats
    {messages : List String}
    {happenings : List (Coroutine.Happening SessionState SessionError)}
    {reached next : Coroutine.Running SessionState SessionError Unit}
    (authenticated : AuthenticatedAs owner state)
    (own :
      ∀ message ∈ messages, ∃ payload,
        deps.frames.IsHeartbeat message payload ∧ payload.agentId = owner)
    (run :
      Run (Guarded (Fires Coroutine.happen?) (Coroutine.Relies OthersAct))
        { state, rest := deps.runAgentWsSession messages } happenings
        reached)
    (proceeds : Coroutine.happen? reached .proceed = some next) :
    Monitoring.SpareOthers owner reached.state.server.monitoring
      next.state.server.monitoring := by
  have spares : SparesOthers owner reached.state next.state :=
    step_of_session (fun _ _ others holds => Eq.trans others holds)
      (isolated_of_steps (receiveFrames_sparesOthers own) authenticated)
      (fun _ holds => cleanupConnection_isolated deps.socket holds) run
      proceeds
  exact spares.monitoring

end SessionDependencies

/-! ### A heartbeat that names another agent -/

/-- A session on which heartbeats name a client. -/
def heartbeatSession (clientId : String) : SessionDependencies :=
  { strangerSession with
    frames :=
      { loads := fun message => some (.str message)
        validate := fun _ =>
          some
            { type := "heartbeat"
              data := .heartbeat { clientId } } } }

theorem heartbeatSession_isHeartbeat (clientId : String) :
    ∀ message ∈ ["heartbeat"], ∃ payload : HeartbeatData,
      (heartbeatSession clientId).frames.IsHeartbeat message payload ∧
        payload.agentId = if clientId = "" then "unknown_agent"
          else clientId := by
  intro message _
  exact ⟨{ clientId }, ⟨rfl, rfl⟩, rfl⟩

/-- The server, with a session that has authenticated as an agent. -/
def authenticatedState : SessionState where
  server := provisionedServer
  connection := { clientId := some "agent-1", authenticated := true }

/-- A heartbeat of the agent's own leaves what is kept of others alone. -/
theorem ownHeartbeat_isolated :
    ∃ happenings reached next,
      Run
          (Guarded (Fires Coroutine.happen?) (Coroutine.Relies OthersAct))
          { state := authenticatedState
            rest :=
              (heartbeatSession "agent-1").runAgentWsSession
                ["heartbeat"] }
          happenings reached ∧
        Coroutine.happen? reached .proceed = some next ∧
        Monitoring.SpareOthers "agent-1" reached.state.server.monitoring
          next.state.server.monitoring := by
  let initial : Coroutine.Running SessionState SessionError Unit :=
    { state := authenticatedState
      rest :=
        (heartbeatSession "agent-1").runAgentWsSession ["heartbeat"] }
  have tested :
      (initial.proceed 3).any
        (fun reached => (Coroutine.happen? reached .proceed).isSome) =
          true := by
    decide
  obtain ⟨reached, proceeded, proceeds⟩ :=
    (Option.any_eq_true _ _).mp tested
  obtain ⟨next, proceeds⟩ := Option.isSome_iff_exists.mp proceeds
  have run :
      Run
        (Guarded (Fires Coroutine.happen?) (Coroutine.Relies OthersAct))
        initial (List.replicate 3 .proceed) reached :=
    Coroutine.run_of_proceed proceeded
  exact ⟨_, reached, next, run, proceeds,
    SessionDependencies.isolated_of_ownHeartbeats
      (show AuthenticatedAs "agent-1" authenticatedState from rfl)
      (heartbeatSession_isHeartbeat "agent-1") run proceeds⟩

/-- A session can change what is monitored of another agent. -/
theorem not_telemetryIsolated :
    ¬ TelemetryIsolated (heartbeatSession "agent-2") "agent-1" := by
  intro isolated
  let initial : Coroutine.Running SessionState SessionError Unit :=
    { state := authenticatedState
      rest :=
        (heartbeatSession "agent-2").runAgentWsSession ["heartbeat"] }
  have tested :
      (initial.proceed 3).any
        (fun reached =>
          (reached.state.server.monitoring.runtime.latestStats.lookup
              "agent-2").isNone &&
            (Coroutine.happen? reached .proceed).any
              fun next =>
                (next.state.server.monitoring.runtime.latestStats.lookup
                  "agent-2").isSome) = true := by
    decide +kernel
  obtain ⟨reached, proceeded, passed⟩ :=
    (Option.any_eq_true _ _).mp tested
  obtain ⟨absent, proceeds⟩ := (Bool.and_eq_true _ _).mp passed
  obtain ⟨next, proceeds, present⟩ := (Option.any_eq_true _ _).mp proceeds
  have heartbeats :
      ∀ message ∈ ["heartbeat"], ∃ payload : HeartbeatData,
        (heartbeatSession "agent-2").frames.IsHeartbeat message payload :=
    fun message member =>
      (heartbeatSession_isHeartbeat "agent-2" message member).imp
        fun _ holds => holds.1
  have spared :=
    isolated
      (show AuthenticatedAs "agent-1" authenticatedState from rfl)
      heartbeats (Coroutine.run_of_proceed proceeded) proceeds
  have same :=
    spared.runtime.latestStats (show "agent-2" ≠ "agent-1" by decide)
  rw [Option.isNone_iff_eq_none.mp absent] at same
  rw [same] at present
  cases present

end RpaPlatform.Agents
