import RpaPlatform.AgentLifecycle
import RpaPlatform.FrontendSockets

namespace RpaPlatform.Agents

open Transition

/-!
# The end of a user session

The user of a websocket is looked up once, so what a websocket receives is
forwarded, and what is broadcast is shown on it, whatever becomes of the user's
session.  A session that is revoked or expires takes effect where no websocket
that presented it is open any more.
-/

/-! ### The claim and the condition -/

/-- The websocket that an output is sent for or to, after it is opened. -/
def FrontendOutput.socket? : FrontendOutput → Option Nat
  | forwarded socket _ _ => some socket
  | shown socket (.agentsSnapshot _) => some socket
  | shown socket (.taskEvent _) => some socket
  | shown socket (.processScreenshot _) => some socket
  | _ => none

namespace FrontendServer

variable (server : FrontendServer)

/-- The user session of a websocket is neither revoked nor expired. -/
def SessionInForce (frontend : FrontendSocket) : Prop :=
  ∀ session ∈ frontend.userSession,
    server.userSessions.InForce session.accessToken server.now

/-- What is sent is sent for or to websockets whose session is in force. -/
def RespectsRevocation (outputs : List FrontendOutput) : Prop :=
  ∀ output ∈ outputs,
    ∀ socket ∈ output.socket?,
      ∀ frontend ∈ server.sockets[socket]?, server.SessionInForce frontend

/-- No websocket that presented an access token is open. -/
def NoneOpen (accessToken : String) : Prop :=
  ∀ frontend ∈ server.sockets,
    frontend.isOpen = true →
    ∀ session ∈ frontend.userSession, session.accessToken ≠ accessToken

/--
The condition under which the end of a session takes effect: a session is
revoked, or passes its expiry, only when no websocket that presented it is open.
-/
def NoneOutlives (action : FrontendAction) : Prop :=
  match action with
  | .revokeSession accessToken => server.NoneOpen accessToken
  | .tick now =>
    ∀ accessToken,
      server.userSessions.InForce accessToken server.now →
      ¬ server.userSessions.InForce accessToken now →
      server.NoneOpen accessToken
  | _ => True

def AllInForce : Prop :=
  ∀ frontend ∈ server.sockets,
    frontend.isOpen = true → server.SessionInForce frontend

end FrontendServer

/-! ### What a step does to a websocket -/

section Steps

variable
    {library : TextLibrary}
    {server after : FrontendServer}
    {socket : Nat}
    {frontend : FrontendSocket}
    {outputs : List FrontendOutput}

/-- A websocket keeps its user session, and the user sessions are kept. -/
structure KeepsSession
    (server after : FrontendServer)
    (socket : Nat)
    (frontend : FrontendSocket) : Prop where
  wasOpen : frontend.isOpen = true
  userSessions : after.userSessions = server.userSessions
  now : after.now = server.now
  changed :
    ∃ changed,
      after.sockets = server.sockets.set socket changed ∧
        changed.userSession = frontend.userSession

theorem isOpen_of_point
    {point : FrontendPoint}
    (isPoint : frontend.point = point)
    (notEnded : point ≠ .ended) : frontend.isOpen = true := by
  unfold FrontendSocket.isOpen
  rw [isPoint]
  cases point with
  | ended =>
    exact absurd rfl notEnded
  | _ =>
    rfl

theorem withoutWatcher_keeps
    (server : FrontendServer)
    (socket : Nat)
    (agentId : String) :
    (server.withoutWatcher socket agentId).userSessions =
        server.userSessions ∧
      (server.withoutWatcher socket agentId).now = server.now ∧
      (server.withoutWatcher socket agentId).sockets = server.sockets := by
  unfold FrontendServer.withoutWatcher
  split <;> exact ⟨rfl, rfl, rfl⟩

theorem keepsSession_dispatch
    (isOpen : frontend.isOpen = true)
    (event : FrontendEvent) :
    KeepsSession server (server.dispatch socket frontend library event).1
      socket frontend := by
  unfold FrontendServer.dispatch
  split
  · exact ⟨isOpen, rfl, rfl, _, rfl, rfl⟩
  · split
    · unfold FrontendServer.addWatcher
      dsimp only
      split <;> exact ⟨isOpen, rfl, rfl, _, rfl, rfl⟩
    · split
      · unfold FrontendServer.removeWatcher
        split
        · exact ⟨isOpen, rfl, rfl, _, rfl, rfl⟩
        · have kept :=
            withoutWatcher_keeps server socket event.agentId
          exact
            ⟨isOpen, kept.1, kept.2.1, _,
              congrArg (List.set · socket _) kept.2.2, rfl⟩
      · exact ⟨isOpen, rfl, rfl, _, rfl, rfl⟩

theorem keepsSession_welcome (isOpen : frontend.isOpen = true) :
    KeepsSession server (server.welcome socket frontend).1 socket frontend := by
  unfold FrontendServer.welcome
  dsimp only
  split <;> exact ⟨isOpen, rfl, rfl, _, rfl, rfl⟩

variable {action : FrontendAction}

/-- Every step of a session but its first one keeps the user session. -/
theorem keepsSession_of_step
    (notFirst : ∀ accessToken, action ≠ .authenticate socket accessToken)
    (isSocket : action.socket = some socket)
    (stepped :
      frontendSocketStep? library server socket frontend action =
        some (after, outputs)) :
    KeepsSession server after socket frontend := by
  unfold frontendSocketStep? at stepped
  split at stepped
  case h_1 _ _ accessToken =>
    cases isSocket
    exact absurd rfl (notFirst accessToken)
  case h_2 =>
    split at stepped
    case h_2 =>
      cases stepped
    rename_i isPoint
    have isOpen := isOpen_of_point isPoint nofun
    split at stepped
    · obtain ⟨isAfter, _⟩ := Prod.mk.inj (Option.some.inj stepped)
      rw [← isAfter]
      exact keepsSession_welcome isOpen
    · cases stepped
      exact ⟨isOpen, rfl, rfl, _, rfl, rfl⟩
  case h_3 | h_5 =>
    split at stepped
    case h_2 =>
      cases stepped
    rename_i isPoint
    cases stepped
    exact ⟨isOpen_of_point isPoint nofun, rfl, rfl, _, rfl, rfl⟩
  case h_4 _ _ event =>
    split at stepped
    case h_2 =>
      cases stepped
    rename_i isPoint
    obtain ⟨isAfter, _⟩ := Prod.mk.inj (Option.some.inj stepped)
    rw [← isAfter]
    exact keepsSession_dispatch (isOpen_of_point isPoint nofun) event
  case h_6 =>
    split at stepped
    case h_4 =>
      cases stepped
    all_goals
      rename_i isPoint
      cases stepped
      exact ⟨isOpen_of_point isPoint nofun, rfl, rfl, _, rfl, rfl⟩
  case h_7 =>
    split at stepped
    case h_3 =>
      cases stepped
    · rename_i isPoint
      cases stepped
      exact ⟨isOpen_of_point isPoint nofun, rfl, rfl, _, rfl, rfl⟩
    · rename_i agentId rest isPoint
      cases stepped
      have kept := withoutWatcher_keeps server socket agentId
      exact
        ⟨isOpen_of_point isPoint nofun, kept.1, kept.2.1, _,
          congrArg (List.set · socket _) kept.2.2, rfl⟩
  case h_8 =>
    cases stepped

theorem KeepsSession.allInForce
    (keeps : KeepsSession server after socket frontend)
    (found : server.sockets[socket]? = some frontend)
    (inForce : server.AllInForce) : after.AllInForce := by
  obtain ⟨changed, sockets, sameSession⟩ := keeps.changed
  intro other member isOpen session isSession
  rw [keeps.userSessions, keeps.now]
  rw [sockets] at member
  rcases List.mem_or_eq_of_mem_set member with earlier | rfl
  · exact inForce other earlier isOpen session isSession
  · rw [sameSession] at isSession
    exact
      inForce frontend (List.mem_of_getElem? found) keeps.wasOpen session
        isSession

theorem allInForce_of_userSessions
    (inForce : server.AllInForce)
    (sockets : after.sockets = server.sockets)
    (stays :
      ∀ accessToken,
        ¬ server.NoneOpen accessToken →
        server.userSessions.InForce accessToken server.now →
        after.userSessions.InForce accessToken after.now) :
    after.AllInForce := by
  intro frontend member isOpen session isSession
  rw [sockets] at member
  refine stays session.accessToken ?_
    (inForce frontend member isOpen session isSession)
  exact fun noneOpen =>
    noneOpen frontend member isOpen session isSession rfl

theorem allInForce_withSocket
    {changed : FrontendSocket}
    (inForce : server.AllInForce)
    (current : changed.isOpen = true → server.SessionInForce changed) :
    (server.withSocket socket changed).AllInForce := by
  intro frontend member isOpen
  rcases List.mem_or_eq_of_mem_set member with earlier | rfl
  · exact inForce frontend earlier isOpen
  · exact current isOpen

theorem allInForce_authenticate
    (inForce : server.AllInForce)
    {accessToken : String}
    (stepped :
      frontendSocketStep? library server socket frontend
          (.authenticate socket accessToken) =
        some (after, outputs)) : after.AllInForce := by
  unfold frontendSocketStep? at stepped
  dsimp only at stepped
  split at stepped
  case h_2 =>
    cases stepped
  generalize isGot :
    server.userSessions.getSession (strip accessToken) server.now = got
      at stepped
  have looked :
      FrontendServer.AllInForce { server with userSessions := got.1 } := by
    refine allInForce_of_userSessions inForce ?_ fun stored _ current => ?_
    · rfl
    · rw [← isGot]
      exact UserSessions.inForce_getSession current _
  split at stepped
  · cases stepped
    exact allInForce_withSocket looked nofun
  · rename_i session isSession
    cases stepped
    refine allInForce_withSocket looked fun _ found isFound => ?_
    cases isFound
    rw [← isGot] at isSession
    obtain ⟨isToken, current⟩ :=
      UserSessions.inForce_of_getSession isSession
    rw [isToken, ← isGot]
    exact current

theorem deliverStep_keeps
    {position : Nat}
    {sent : Bool}
    (stepped : deliverStep? server position sent = some (after, outputs)) :
    after.userSessions = server.userSessions ∧
      after.now = server.now ∧ after.sockets = server.sockets := by
  simp only [deliverStep?, Option.bind_eq_bind,
    Option.bind_eq_some_iff] at stepped
  obtain ⟨broadcast, _, socket, _, frontend, _, stepped⟩ := stepped
  split at stepped
  · cases stepped
    exact ⟨rfl, rfl, rfl⟩
  · split at stepped
    · split at stepped
      · cases stepped
        exact ⟨rfl, rfl, rfl⟩
      · cases stepped
    · cases stepped
      exact ⟨rfl, rfl, rfl⟩

/-- Every step that meets the condition keeps all sessions in force. -/
theorem allInForce_of_step
    (inForce : server.AllInForce)
    (noneOutlives : server.NoneOutlives action)
    (stepped : frontendStep? library server action = some (after, outputs)) :
    after.AllInForce := by
  unfold frontendStep? at stepped
  split at stepped
  · rename_i socket isSocket
    obtain ⟨frontend, found, stepped⟩ := Option.bind_eq_some_iff.mp stepped
    by_cases first : ∃ accessToken, action = .authenticate socket accessToken
    · obtain ⟨accessToken, rfl⟩ := first
      exact allInForce_authenticate inForce stepped
    · have notFirst := not_exists.mp first
      exact
        (keepsSession_of_step notFirst isSocket stepped).allInForce found
          inForce
  · split at stepped
    case h_1 =>
      cases stepped
      intro frontend member isOpen session isSession
      rcases List.mem_append.mp member with earlier | added
      · exact inForce frontend earlier isOpen session isSession
      · cases List.mem_singleton.mp added
        cases isSession
    case h_2 | h_8 =>
      cases stepped
      exact inForce
    case h_3 =>
      have kept := deliverStep_keeps stepped
      refine allInForce_of_userSessions inForce kept.2.2 ?_
      intro accessToken _ stored
      rwa [kept.1, kept.2.1]
    case h_4 =>
      cases stepped
      exact
        allInForce_of_userSessions inForce rfl fun _ _ stored =>
          UserSessions.inForce_createSession stored _ _ _
    case h_5 =>
      cases stepped
      exact
        allInForce_of_userSessions inForce rfl fun _ _ stored =>
          UserSessions.inForce_getSession stored _
    case h_6 _ revoked _ =>
      cases stepped
      refine allInForce_of_userSessions inForce rfl ?_
      intro accessToken someOpen stored
      have different : accessToken ≠ revoked := by
        rintro rfl
        exact someOpen noneOutlives
      exact UserSessions.inForce_revokeSession different stored
    case h_7 _ now _ =>
      split at stepped
      · cases stepped
        refine allInForce_of_userSessions inForce rfl ?_
        intro accessToken someOpen stored
        by_contra expired
        exact someOpen (noneOutlives accessToken stored expired)
      · cases stepped
    case h_9 =>
      cases stepped

/-! ### What a step sends -/

def SentFor (socket : Nat) (outputs : List FrontendOutput) : Prop :=
  ∀ output ∈ outputs, ∀ other ∈ output.socket?, other = socket

theorem sentFor_nil : SentFor socket [] :=
  nofun

theorem sentFor_shown (message : FrontendMessage) :
    SentFor socket [.shown socket message] := by
  intro output member other isOther
  cases List.mem_singleton.mp member
  cases message <;> cases isOther <;> rfl

theorem sentFor_trackingOutput (agentId : String) (enabled : Bool) :
    SentFor socket (server.trackingOutput socket agentId enabled) := by
  unfold FrontendServer.trackingOutput
  split
  · intro output member other isOther
    cases List.mem_singleton.mp member
    exact (Option.some.inj isOther).symm
  · exact sentFor_nil

theorem sentFor_handleCommand (event : FrontendEvent) :
    SentFor socket (server.handleCommand socket frontend library event) := by
  unfold FrontendServer.handleCommand
  split
  · exact sentFor_shown _
  · intro output member other isOther
    obtain ⟨agentId, _, rfl⟩ := List.mem_map.mp member
    exact (Option.some.inj isOther).symm

theorem sentFor_dispatch (event : FrontendEvent) :
    SentFor socket (server.dispatch socket frontend library event).2 := by
  unfold FrontendServer.dispatch
  split
  · exact sentFor_handleCommand event
  · split
    · unfold FrontendServer.addWatcher
      dsimp only
      split
      · exact sentFor_nil
      · split
        · exact sentFor_trackingOutput event.agentId true
        · exact sentFor_nil
    · split
      · unfold FrontendServer.removeWatcher
        split
        · exact sentFor_nil
        · split
          · exact sentFor_trackingOutput event.agentId false
          · exact sentFor_nil
      · exact sentFor_nil

theorem sentFor_welcome :
    SentFor socket (server.welcome socket frontend).2 := by
  unfold FrontendServer.welcome
  dsimp only
  split
  · exact sentFor_nil
  · exact sentFor_shown _

/-- The session of a websocket sends for that websocket, while it is open. -/
theorem sentFor_socketStep
    (stepped :
      frontendSocketStep? library server socket frontend action =
        some (after, outputs)) :
    frontend.isOpen = true ∧ SentFor socket outputs := by
  unfold frontendSocketStep? at stepped
  split at stepped
  case h_1 =>
    split at stepped
    case h_2 =>
      cases stepped
    rename_i isPoint
    refine ⟨isOpen_of_point isPoint nofun, ?_⟩
    dsimp only at stepped
    split at stepped
    · cases stepped
      exact sentFor_nil
    · cases stepped
      exact sentFor_shown _
  case h_2 =>
    split at stepped
    case h_2 =>
      cases stepped
    rename_i isPoint
    refine ⟨isOpen_of_point isPoint nofun, ?_⟩
    split at stepped
    · obtain ⟨_, isOutput⟩ := Prod.mk.inj (Option.some.inj stepped)
      rw [← isOutput]
      exact sentFor_welcome
    · cases stepped
      exact sentFor_nil
  case h_4 _ _ event =>
    split at stepped
    case h_2 =>
      cases stepped
    rename_i isPoint
    refine ⟨isOpen_of_point isPoint nofun, ?_⟩
    obtain ⟨_, isOutput⟩ := Prod.mk.inj (Option.some.inj stepped)
    rw [← isOutput]
    exact sentFor_dispatch event
  case h_7 =>
    split at stepped
    case h_3 =>
      cases stepped
    · rename_i isPoint
      cases stepped
      exact ⟨isOpen_of_point isPoint nofun, sentFor_nil⟩
    · rename_i isPoint
      cases stepped
      refine ⟨isOpen_of_point isPoint nofun, ?_⟩
      split
      · intro output member other isOther
        cases List.mem_singleton.mp member
        cases isOther
      · exact sentFor_nil
  case h_8 =>
    cases stepped
  -- The other steps send nothing.
  all_goals
    split at stepped
    all_goals first
      | cases stepped; done
      | rename_i isPoint
        cases stepped
        exact ⟨isOpen_of_point isPoint nofun, sentFor_nil⟩

theorem respectsRevocation_of_allInForce
    (inForce : server.AllInForce)
    (stepped : frontendStep? library server action = some (after, outputs)) :
    server.RespectsRevocation outputs := by
  have ofOpen :
      ∀ {socket : Nat} {frontend : FrontendSocket},
        server.sockets[socket]? = some frontend →
        frontend.isOpen = true →
        SentFor socket outputs →
        server.RespectsRevocation outputs := by
    intro socket frontend found isOpen sentFor output member other isOther
      otherFrontend isFound
    cases sentFor output member other isOther
    cases found.symm.trans isFound
    exact inForce frontend (List.mem_of_getElem? found) isOpen
  unfold frontendStep? at stepped
  split at stepped
  · obtain ⟨frontend, found, stepped⟩ := Option.bind_eq_some_iff.mp stepped
    obtain ⟨isOpen, sentFor⟩ := sentFor_socketStep stepped
    exact ofOpen found isOpen sentFor
  · split at stepped
    case h_3 =>
      simp only [deliverStep?, Option.bind_eq_bind,
        Option.bind_eq_some_iff] at stepped
      obtain ⟨broadcast, _, socket, _, frontend, found, stepped⟩ := stepped
      split at stepped
      · cases stepped
        exact nofun
      · split at stepped
        · split at stepped
          · rename_i isOpen
            cases stepped
            exact ofOpen found isOpen (sentFor_shown _)
          · cases stepped
        · cases stepped
          exact nofun
    case h_7 =>
      split at stepped
      · cases stepped
        exact nofun
      · cases stepped
    case h_9 =>
      cases stepped
    all_goals
      cases stepped
      exact nofun

end Steps

/-! ### Revocation -/

/--
From a server that no websocket has been opened at, the end of a user session
takes effect in every step of every run.
-/
def RevocationTakesEffect
    (library : TextLibrary)
    (step : FrontendServer → FrontendAction → FrontendServer → Prop) :
    Prop :=
  ∀ started actions server action after outputs,
    started.sockets = [] →
    Run step started actions server →
    frontendStep? library server action = some (after, outputs) →
    server.RespectsRevocation outputs

/--
In every run in which no websocket outlives the session that it presented,
nothing is forwarded for a websocket, and nothing shown on it, once its session
has been revoked or has expired.
-/
theorem revocationTakesEffect_of_noneOutlives
    (library : TextLibrary) :
    RevocationTakesEffect library
      (Guarded (Fires (frontendNext? library))
        FrontendServer.NoneOutlives) := by
  intro started actions server action after outputs isStarted run stepped
  have stepPreserves :
      ∀ (before : FrontendServer) action after,
        Guarded (Fires (frontendNext? library))
          FrontendServer.NoneOutlives before action after →
        before.AllInForce →
        after.AllInForce := by
    rintro before action after ⟨fired, noneOutlives⟩ inForce
    obtain ⟨⟨next, sent⟩, taken, rfl⟩ := Option.map_eq_some_iff.mp fired
    exact allInForce_of_step inForce noneOutlives taken
  have nothing : started.AllInForce := by
    intro frontend member
    rw [isStarted] at member
    cases member
  exact
    respectsRevocation_of_allInForce (run.preserves stepPreserves nothing)
      stepped

/-! ### A session with commands -/

/-- An operator logs in, and opens a websocket. -/
def openedByOperator (socket : Nat) (accessToken : String) :
    List FrontendAction :=
  [.createSession accessToken { roles := ["operator"] } 900, .connect,
    .authenticate socket accessToken, .greeted socket true]

def serverOfOneAgent : FrontendServer where
  now := 0
  runtime := { activeAgents := [("agent-1", 7)] }

def startProgram : FrontendEvent where
  type := "start_program"
  agentId := "agent-1"

instance (server : FrontendServer) (accessToken : String) :
    Decidable (server.NoneOpen accessToken) :=
  inferInstanceAs (Decidable (∀ frontend ∈ server.sockets, _))

/-- The condition, as far as it concerns runs in which no time passes. -/
def NoneOutlivesNow
    (server : FrontendServer)
    (action : FrontendAction) : Bool :=
  match action with
  | .revokeSession accessToken => decide (server.NoneOpen accessToken)
  | .tick _ => false
  | _ => true

theorem noneOutlives_of_now
    {server : FrontendServer}
    {action : FrontendAction}
    (holds : NoneOutlivesNow server action = true) :
    server.NoneOutlives action := by
  unfold NoneOutlivesNow at holds
  unfold FrontendServer.NoneOutlives
  cases action with
  | revokeSession accessToken =>
    exact of_decide_eq_true holds
  | tick now =>
    cases holds
  | _ =>
    trivial

/-- Whether a command is forwarded to the agent for a websocket. -/
def forwardsFor (socket : Nat) (outputs : List FrontendOutput) : Bool :=
  outputs.any fun output =>
    match output with
    | .forwarded other agentId (.event event) =>
      decide
        (other = socket ∧ agentId = "agent-1" ∧ event.type = "start_program")
    | _ => false

/-- A session ends once its websocket is closed, and another one begins. -/
def endedSession : List FrontendAction :=
  openedByOperator 0 "token-1" ++
    [.leave 0, .unwatch 0, .revokeSession "token-1"] ++
    openedByOperator 1 "token-2"

theorem endedSession_takesEffect :
    ∃ server after outputs,
      Run
        (Guarded (Fires (frontendNext? asciiTextLibrary))
          FrontendServer.NoneOutlives)
        serverOfOneAgent endedSession server ∧
        frontendStep? asciiTextLibrary server (.receive 1 startProgram) =
          some (after, outputs) ∧
        forwardsFor 1 outputs = true ∧
        server.RespectsRevocation outputs := by
  obtain ⟨server, checkedRun, reached⟩ :=
    exists_run_of_execute
      (show (execute
          (checked (frontendNext? asciiTextLibrary)
            fun server action => NoneOutlivesNow server action = true)
          serverOfOneAgent endedSession).any
          (fun server =>
            (frontendStep? asciiTextLibrary server
                (.receive 1 startProgram)).any
              fun result => forwardsFor 1 result.2) = true by
        decide)
  have run :=
    checkedRun.guarded_of_checked.relax fun _ _ => noneOutlives_of_now
  rw [Option.any_eq_true] at reached
  obtain ⟨⟨after, outputs⟩, stepped, forwards⟩ := reached
  exact
    ⟨server, after, outputs, run, stepped, forwards,
      revocationTakesEffect_of_noneOutlives asciiTextLibrary _ _ _ _ _ _
        rfl run stepped⟩

/-- A command is forwarded although the session has been revoked. -/
theorem not_revocationTakesEffect :
    ¬ RevocationTakesEffect asciiTextLibrary
        (Fires (frontendNext? asciiTextLibrary)) := by
  intro claimed
  obtain ⟨server, run, reached⟩ :=
    exists_run_of_execute
      (show (execute (frontendNext? asciiTextLibrary) serverOfOneAgent
          (openedByOperator 0 "token-1" ++ [.revokeSession "token-1"])).any
          (fun server =>
            (server.sockets[0]?.any fun frontend =>
                frontend.userSession.any fun session =>
                  decide
                    (¬ server.userSessions.InForce session.accessToken
                      server.now)) &&
              (frontendStep? asciiTextLibrary server
                  (.receive 0 startProgram)).any
                fun result => forwardsFor 0 result.2) = true by
        decide)
  rw [Bool.and_eq_true] at reached
  obtain ⟨revoked, forwards⟩ := reached
  rw [Option.any_eq_true] at forwards revoked
  obtain ⟨⟨after, outputs⟩, stepped, forwards⟩ := forwards
  obtain ⟨frontend, found, revoked⟩ := revoked
  obtain ⟨session, isSession, revoked⟩ := (Option.any_eq_true _ _).mp revoked
  obtain ⟨output, member, isForwarded⟩ := List.any_eq_true.mp forwards
  have respects :=
    claimed _ _ server (.receive 0 startProgram) after outputs rfl run
      stepped output member
  have isFor : output.socket? = some 0 := by
    split at isForwarded
    · rw [(of_decide_eq_true isForwarded).1]
      rfl
    · cases isForwarded
  exact
    (of_decide_eq_true revoked)
      (respects 0 isFor frontend found session isSession)

end RpaPlatform.Agents
