import RpaPlatform.AgentSession

namespace RpaPlatform.Agents

open Transition

/-!
# The gate before the handshake

While no handshake has succeeded on a connection, its session changes nothing
but the registry: tasks, their logs and what is monitored are changed only by
others.  The gate is in the session's loop and in the heartbeat handler; the
clean-up has no client to unregister.
-/

def OthersAct (before after : SessionState) : Prop :=
  after.connection = before.connection

theorem OthersAct.refl (state : SessionState) : OthersAct state state :=
  rfl

theorem OthersAct.trans
    (first second third : SessionState)
    (earlier : OthersAct first second)
    (later : OthersAct second third) :
    OthersAct first third :=
  Eq.trans later earlier

/-- Without a successful handshake, a step leaves the server's work alone. -/
def Gated (before after : SessionState) : Prop :=
  after.connection.authenticated = false →
  Untouched before.server after.server

def Unclaimed (state : SessionState) : Prop :=
  state.connection.authenticated = false →
  state.connection.clientId = none

theorem Unclaimed.of_others
    {before after : SessionState}
    (unclaimed : Unclaimed before)
    (others : OthersAct before after) : Unclaimed after := by
  unfold Unclaimed
  rwa [others]

def StaysAuthenticated (before after : SessionState) : Prop :=
  before.connection.authenticated = true →
  after.connection.authenticated = true

theorem Quiet.staysAuthenticated
    (before after : SessionState)
    (quiet : Quiet before after) : StaysAuthenticated before after := by
  intro authenticated
  rw [quiet.connection]
  exact authenticated

theorem staysAuthenticated_refl (state : SessionState) :
    StaysAuthenticated state state :=
  id

section Rules

open SessionCoroutine

variable
    {Result : Type}
    {coroutine : SessionCoroutine Result}
    {state : SessionState}

theorem gated_of_quiet
    (quiet : coroutine.Steps Quiet)
    (unclaimed : Unclaimed state) :
    coroutine.Guarantees OthersAct Gated (fun state _ => Unclaimed state)
      state := by
  refine quiet.guarantees ?_ ?_ (fun _ _ holds => holds) unclaimed
  · exact fun _ _ others holds => holds.of_others others
  · intro before after holds changes
    refine ⟨fun _ => changes.server, ?_⟩
    unfold Unclaimed
    rwa [changes.connection]

theorem gated_of_authenticated
    (steps : coroutine.Steps StaysAuthenticated)
    (authenticated : state.connection.authenticated = true) :
    coroutine.Guarantees OthersAct Gated (fun state _ => Unclaimed state)
      state := by
  let invariant : SessionState → Prop :=
    fun state => state.connection.authenticated = true
  have notClosed :
      ∀ state : SessionState,
        state.connection.authenticated = true →
        ¬ state.connection.authenticated = false := by
    intro state holds
    simp [holds]
  have stable :
      ∀ before after, OthersAct before after →
        invariant before → invariant after := by
    intro before after others holds
    change after.connection.authenticated = true
    rw [others]
    exact holds
  refine steps.guarantees stable ?_ ?_ authenticated
  · intro before after holds stays
    have kept := stays holds
    exact ⟨fun closed => absurd closed (notClosed _ kept), kept⟩
  · intro state _ holds closed
    exact absurd closed (notClosed _ holds)

/-! ### After the handshake -/

theorem ofServer_staysAuthenticated
    (inner : Coroutine AgentServer SessionError Result) :
    (ofServer inner).Steps StaysAuthenticated :=
  Coroutine.steps_zoom (fun _ _ authenticated => authenticated) inner

theorem staysAuthenticated_of_quiet
    (quiet : coroutine.Steps Quiet) :
    coroutine.Steps StaysAuthenticated :=
  quiet.weaken Quiet.staysAuthenticated

theorem registerAgent_staysAuthenticated
    (agentId : String)
    (socket : Nat) :
    (registerAgent agentId socket).Steps StaysAuthenticated := by
  unfold registerAgent
  refine (Coroutine.steps_read staysAuthenticated_refl).bind fun server => ?_
  refine Coroutine.Steps.bind
    (Coroutine.steps_modify fun _ authenticated => authenticated)
    fun _ => ?_
  split
  · exact Coroutine.steps_finished _
  · split
    · exact Coroutine.steps_finished _
    · refine (staysAuthenticated_of_quiet pause_quiet).catching ?_
      intro error
      cases error with
      | exception =>
        exact Coroutine.steps_finished _
      | cancelled =>
        exact Coroutine.steps_raised _

theorem acceptHandshake_staysAuthenticated
    (context : LifecycleContext)
    (clientId : String)
    (issuedSecret : Option String) :
    (acceptHandshake context clientId issuedSecret).Steps
      StaysAuthenticated := by
  unfold acceptHandshake
  refine (Coroutine.steps_modify fun _ _ => rfl).bind fun _ => ?_
  refine (staysAuthenticated_of_quiet (sendAuthResult_quiet _)).bind fun _ => ?_
  refine (registerAgent_staysAuthenticated _ _).bind fun _ => ?_
  refine (staysAuthenticated_of_quiet now_quiet).bind fun seenAt => ?_
  refine (staysAuthenticated_of_quiet (upsertAgent_quiet _ _)).bind fun _ => ?_
  refine (Coroutine.steps_read staysAuthenticated_refl).bind fun watched => ?_
  refine Coroutine.Steps.bind ?_ fun _ => Coroutine.steps_finished _
  unfold trackWindows
  split
  · exact ofServer_staysAuthenticated _
  · exact Coroutine.steps_finished _

theorem acceptHandshake_gated
    (context : LifecycleContext)
    (clientId : String)
    (issuedSecret : Option String)
    (state : SessionState) :
    (acceptHandshake context clientId issuedSecret).Guarantees OthersAct
      Gated (fun state _ => Unclaimed state) state := by
  unfold acceptHandshake
  refine Coroutine.guarantees_bind_modify fun before _ => ⟨nofun, ?_⟩
  exact gated_of_authenticated
    (acceptHandshake_staysAuthenticated context clientId issuedSecret
      before).2 rfl

theorem handleHandshake_staysAuthenticated
    (context : LifecycleContext)
    (data : HandshakeData) :
    (handleHandshake context data).Steps StaysAuthenticated := by
  unfold handleHandshake
  refine
    (staysAuthenticated_of_quiet (authorizeAgent_quiet _ _ _)).bind
      fun result => ?_
  cases result with
  | authorized mode issuedSecret =>
    refine
      (staysAuthenticated_of_quiet
        (getExpectedHostnameForAgent_quiet _)).bind fun expected => ?_
    dsimp only
    split
    · exact acceptHandshake_staysAuthenticated _ _ _
    · exact staysAuthenticated_of_quiet (rejectHost_quiet _ _)
    · exact Coroutine.steps_raised _
  | rejected reason =>
    exact staysAuthenticated_of_quiet (rejectHandshake_quiet _ _)
  | raised =>
    exact Coroutine.steps_raised _

theorem handleHeartbeat_staysAuthenticated
    (library : TextLibrary)
    (payload : HeartbeatData) :
    (handleHeartbeat library payload).Steps StaysAuthenticated := by
  unfold handleHeartbeat
  refine (Coroutine.steps_read staysAuthenticated_refl).bind
    fun connection => ?_
  split
  · refine Coroutine.Steps.bind
      (Coroutine.steps_attempt fun _ authenticated => authenticated)
      fun metrics => ?_
    split
    · exact Coroutine.steps_finished _
    · exact staysAuthenticated_of_quiet (recordHeartbeat_quiet _ _ _)
  · exact (staysAuthenticated_of_quiet (close_quiet _)).bind
      fun _ => Coroutine.steps_finished _

end Rules

/-! ### The session -/

namespace SessionDependencies

open SessionCoroutine

variable
    {deps : SessionDependencies}
    {state : SessionState}

theorem dispatchEvent_staysAuthenticated (event : NetworkEvent) :
    (deps.dispatchEvent event).Steps StaysAuthenticated := by
  unfold dispatchEvent
  refine Coroutine.Steps.bind ?_ fun handled => ?_
  · apply deps.steps_dispatch
    · unfold handleLifecycle
      split
      · split
        · exact handleHandshake_staysAuthenticated _ _
        · exact Coroutine.steps_finished _
      · split
        · split
          · exact handleHeartbeat_staysAuthenticated _ _
          · exact Coroutine.steps_finished _
        · exact Coroutine.steps_finished _
    · intro handler
      exact (Coroutine.steps_read staysAuthenticated_refl).bind
        fun _ => ofServer_staysAuthenticated _
  · split
    · exact Coroutine.steps_finished _
    · exact Coroutine.steps_finished _

theorem handleHandshake_gated
    (context : LifecycleContext)
    (data : HandshakeData)
    (unclaimed : Unclaimed state) :
    (handleHandshake context data).Guarantees OthersAct Gated
      (fun state _ => Unclaimed state) state := by
  unfold handleHandshake
  have authorizes :=
    gated_of_quiet
      (authorizeAgent_quiet context.auth data.clientId context.authToken)
      unclaimed
  apply authorizes.bind_invariant
  intro read result unclaimed
  cases result with
  | authorized mode issuedSecret =>
    have expects :=
      gated_of_quiet (getExpectedHostnameForAgent_quiet data.clientId) unclaimed
    apply expects.bind_invariant
    intro reached expected unclaimed
    dsimp only
    split
    · exact acceptHandshake_gated _ _ _ _
    · exact gated_of_quiet (rejectHost_quiet _ _) unclaimed
    · exact unclaimed
  | rejected reason =>
    exact gated_of_quiet (rejectHandshake_quiet _ _) unclaimed
  | raised =>
    exact unclaimed

theorem processEvent_gated
    (event : NetworkEvent)
    (unclaimed : Unclaimed state) :
    (deps.processEvent event).Guarantees OthersAct Gated
      (fun state _ => Unclaimed state) state := by
  unfold processEvent
  refine Coroutine.guarantees_bind_read fun before others => ?_
  refine ⟨fun _ => .refl _, ?_⟩
  have holds := unclaimed.of_others others
  cases authenticated : before.connection.authenticated with
  | true =>
    apply gated_of_authenticated ?_ authenticated
    simp only [Bool.not_true, Bool.and_false, Bool.false_eq_true, if_false]
    exact dispatchEvent_staysAuthenticated event
  | false =>
    by_cases handshake : event.type = "handshake"
    · have typed : event.type ∈ lifecycleEventTypes := by
        simp [handshake, lifecycleEventTypes]
      simp only [handshake, ne_eq, not_true_eq_false, decide_false,
        Bool.false_and, Bool.false_eq_true, if_false]
      unfold dispatchEvent
      rw [deps.dispatch_lifecycle typed, handleLifecycle, if_pos handshake]
      refine Coroutine.Guarantees.bind_invariant ?_ ?_
      · split
        · exact handleHandshake_gated _ _ holds
        · exact holds
      · intro reached handled unclaimed
        split
        · exact unclaimed
        · exact unclaimed
    · simp only [ne_eq, handshake, not_false_eq_true, decide_true,
        Bool.not_false, Bool.and_self, if_true]
      apply gated_of_quiet ?_ holds
      exact (close_quiet _).bind fun _ => Coroutine.steps_finished _

theorem processFrame_gated
    {message : String}
    (forAgent : deps.frames.authPayload message = none)
    (unclaimed : Unclaimed state) :
    (deps.processFrame message).Guarantees OthersAct Gated
      (fun state _ => Unclaimed state) state := by
  unfold processFrame
  rw [forAgent]
  dsimp only
  split
  · exact unclaimed
  · exact processEvent_gated _ unclaimed

theorem receiveFrames_gated
    {messages : List String}
    (forAgent : ∀ message ∈ messages, deps.frames.authPayload message = none)
    (unclaimed : Unclaimed state) :
    (deps.receiveFrames messages).Guarantees OthersAct Gated
      (fun state _ => Unclaimed state) state := by
  induction messages generalizing state with
  | nil =>
    exact gated_of_quiet
      (pause_quiet.bind fun _ => Coroutine.steps_raised _) unclaimed
  | cons message rest inductionHypothesis =>
    unfold receiveFrames
    have waits := gated_of_quiet pause_quiet unclaimed
    apply waits.bind_invariant
    intro received _ unclaimed
    have processes :=
      processFrame_gated (forAgent message List.mem_cons_self) unclaimed
    refine (processes.catching_invariant ?_).bind_invariant ?_
    · intro reached error holds
      cases error with
      | exception =>
        exact holds
      | cancelled =>
        exact holds
    · intro reached continuation holds
      cases continuation with
      | receive =>
        exact inductionHypothesis
          (fun later member =>
            forAgent later (List.mem_cons_of_mem _ member)) holds
      | leave =>
        exact holds

theorem cleanupConnection_gated
    (socket : Nat)
    (unclaimed : Unclaimed state) :
    (cleanupConnection socket).Guarantees OthersAct Gated
      (fun state _ => Unclaimed state) state := by
  unfold cleanupConnection
  refine Coroutine.guarantees_bind_read fun before others => ?_
  refine ⟨fun _ => .refl _, ?_⟩
  have holds := unclaimed.of_others others
  cases authenticated : before.connection.authenticated with
  | true =>
    apply gated_of_authenticated ?_ authenticated
    refine
      (staysAuthenticated_of_quiet (recordOffline_quiet _)).bind fun _ => ?_
    exact Coroutine.steps_attempt fun _ authenticated => authenticated
  | false =>
    have noClient := holds authenticated
    rw [noClient]
    apply gated_of_quiet ?_ holds
    exact Coroutine.steps_attempt fun _ => ⟨rfl, rfl, rfl, rfl⟩

/-- What frames and the clean-up guarantee holds of every step of a session,
where others keep what the guarantee rests on. -/
theorem step_of_session
    {guarantee : SessionState → SessionState → Prop}
    {invariant : SessionState → Prop}
    {messages : List String}
    (stable :
      ∀ before after,
        OthersAct before after → invariant before → invariant after)
    (receives :
      (deps.receiveFrames messages).Guarantees OthersAct guarantee
        (fun state _ => invariant state) state)
    (cleans :
      ∀ reached,
        invariant reached →
        (cleanupConnection deps.socket).Guarantees OthersAct guarantee
          (fun state _ => invariant state) reached)
    {happenings : List (Coroutine.Happening SessionState SessionError)}
    {reached next : Coroutine.Running SessionState SessionError Unit}
    (run :
      Run (Guarded (Fires Coroutine.happen?) (Coroutine.Relies OthersAct))
        { state, rest := deps.runAgentWsSession messages } happenings
        reached)
    (proceeds : Coroutine.happen? reached .proceed = some next) :
    guarantee reached.state next.state := by
  have guaranteed :
      (deps.runAgentWsSession messages).Guarantees OthersAct guarantee
        (fun state _ => invariant state) state := by
    refine (receives.catching_invariant ?_).ensuring_invariant ?_
    · intro reached error holds
      cases error with
      | exception | cancelled =>
        exact holds
    · intro reached holds
      exact (cleans reached holds).bind_invariant fun _ _ holds => holds
  have kept :
      ∀ before after (_ : Except SessionError Unit),
        OthersAct before after → invariant before → invariant after :=
    fun before after _ => stable before after
  have now := guaranteed.run OthersAct.refl OthersAct.trans kept run
  exact
    (now.happen OthersAct.refl OthersAct.trans kept proceeds trivial).2 rfl

/--
While no handshake has succeeded on a connection, no step of its session
touches tasks, logs or what is monitored, whatever frames come in and
whatever else happens in between.
-/
theorem untouched_of_notAuthenticated
    {messages : List String}
    (forAgent : ∀ message ∈ messages, deps.frames.authPayload message = none)
    {happenings : List (Coroutine.Happening SessionState SessionError)}
    {reached next :
      Coroutine.Running SessionState SessionError Unit}
    (fresh : state.connection = {})
    (run :
      Run (Guarded (Fires Coroutine.happen?) (Coroutine.Relies OthersAct))
        { state, rest := deps.runAgentWsSession messages } happenings
        reached)
    (proceeds : Coroutine.happen? reached .proceed = some next)
    (notAuthenticated : next.state.connection.authenticated = false) :
    Untouched reached.state.server next.state.server := by
  have unclaimed : Unclaimed state := by
    intro _
    rw [fresh]
  have gated : Gated reached.state next.state :=
    step_of_session (fun _ _ others holds => holds.of_others others)
      (receiveFrames_gated forAgent unclaimed)
      (fun _ holds => cleanupConnection_gated deps.socket holds) run proceeds
  exact gated notAuthenticated

end SessionDependencies

/-! ### A peer without a token -/

/-- A session on which a peer claims to be an agent. -/
def strangerSession : SessionDependencies where
  auth := exampleAuth
  library := asciiTextLibrary
  socket := 7
  authToken := none
  setWindowTracking _ := .finished ()
  frames :=
    { loads := fun message => some (.str message)
      validate := fun _ =>
        some
          { type := "handshake"
            data := .handshake { clientId := "agent-1" } } }
  handleTask _ _ := .finished true
  handleMonitoring _ _ := .finished true
  runFrontend _ := .finished ()

/-- The registry knows the agent, and a bootstrap token for it. -/
def provisionedRegistry : AgentRegistry where
  agents := KeyedTable.empty.upsert
    { id := "agent-1", createdAt := 1700000000, updatedAt := 1700000000 }
    id fun _ => rfl
  deployments := .empty
  credentials := KeyedTable.empty.upsert
    { agentId := "agent-1"
      bootstrapTokenHash := some (exampleAuth.hashToken exampleBootstrapToken)
      bootstrapExpiresAt := some 1700086400
      updatedAt := 1700000000 }
    id fun _ => rfl

/-- The server before the peer connects. -/
def provisionedServer : AgentServer where
  registry := provisionedRegistry
  tasks := .empty
  logs _ := none
  clock := 1700000100
  uuid := firstJti

/-- The peer is rejected, and its connection is cleaned up. -/
theorem strangerSession_untouched :
    ∃ happenings reached next,
      Run
          (Guarded (Fires Coroutine.happen?) (Coroutine.Relies OthersAct))
          { state := { server := provisionedServer }
            rest :=
              strangerSession.runAgentWsSession ["handshake"] }
          happenings reached ∧
        Coroutine.happen? reached .proceed = some next ∧
        next.state.closed = some 4401 ∧
        Untouched reached.state.server next.state.server := by
  let initial : Coroutine.Running SessionState SessionError Unit :=
    { state := { server := provisionedServer }
      rest := strangerSession.runAgentWsSession ["handshake"] }
  have tested :
      (initial.proceed 8).any
        (fun reached =>
          (Coroutine.happen? reached .proceed).any
            fun next =>
              decide (next.state.closed = some 4401) &&
                !next.state.connection.authenticated) = true := by
    decide
  obtain ⟨reached, proceeded, proceeds⟩ :=
    (Option.any_eq_true _ _).mp tested
  obtain ⟨next, proceeds, passed⟩ := (Option.any_eq_true _ _).mp proceeds
  simp only [Bool.and_eq_true, decide_eq_true_eq, Bool.not_eq_true'] at passed
  have run :
      Run
        (Guarded (Fires Coroutine.happen?) (Coroutine.Relies OthersAct))
        initial (List.replicate 8 .proceed) reached :=
    Coroutine.run_of_proceed proceeded
  exact ⟨_, reached, next, run, proceeds, passed.1,
    SessionDependencies.untouched_of_notAuthenticated
      (by simp [strangerSession, FrameLibrary.authPayload]) rfl run
      proceeds passed.2⟩

end RpaPlatform.Agents
