import RpaPlatform.AgentLifecycle
import RpaPlatform.GuacamoleOwnership
import RpaPlatform.GuacamoleProxy

namespace RpaPlatform.Agents

open Transition

/-!
# What sessions decide about tunnels

Permissions are checked when a session is created, and they leave a mark on
the session.  The tunnels look at neither: what is sent to Guacamole follows
from what browsers send, whatever sessions there are.
-/

/-! ### Sessions that are granted -/

/-- The session with Guacamole that a call returns, or is about to. -/
def ClientSessionPoint.session? :
    ClientSessionPoint → Option ClientSession
  | opening session => some session
  | returned session => some session
  | _ => none

/-- A session is read only if that was asked for. -/
def ClientSessionCall.Marked (call : ClientSessionCall) : Prop :=
  ∀ session,
    call.point.session? = some session →
    session.readOnly = call.request.readOnly

/-- A user may have what a call of `create_client_session` is for. -/
structure ClientSessionRequest.Permitted
    (library : TextLibrary)
    (metadata : JsonObject)
    (user : UserIdentity)
    (request : ClientSessionRequest) : Prop where
  isOwner : request.user = some user.recordingOwner
  seesAgents : user.hasAgentVisibility = true
  mayView : user.isPermitted library metadata .view = true
  mayRecord :
    request.recorded = true →
      user.isPermitted library metadata .recording = true
  withoutInput :
    request.recorded = true ∨
        user.isPermitted library metadata .interact = false →
      request.readOnly = true

theorem permitted_of_sessionRequest
    {library : TextLibrary}
    {found : Option JsonObject}
    {user : UserIdentity}
    {query : SessionQuery}
    {request : ClientSessionRequest}
    (requested : sessionRequest? library found user query = some request) :
    request.agentId = query.agentId ∧
      ∃ metadata,
        found = some metadata ∧ request.Permitted library metadata user := by
  unfold sessionRequest? at requested
  obtain ⟨metadata, isFound, requested⟩ :=
    Option.bind_eq_some_iff.mp requested
  have seesAgents : user.hasAgentVisibility = true := by
    by_contra hidden
    rw [if_neg hidden] at isFound
    cases isFound
  rw [if_pos seesAgents] at isFound
  dsimp only at requested
  split at requested
  case isFalse =>
    cases requested
  rename_i permits
  rw [Bool.and_eq_true] at permits
  cases requested
  refine
    ⟨rfl, metadata, isFound, rfl, seesAgents, permits.1, fun recorded => ?_,
      fun withoutInput => ?_⟩
  · have isRecorded : query.recorded = true := recorded
    have mayRecord := permits.2
    rw [isRecorded] at mayRecord
    exact mayRecord
  · rcases withoutInput with recorded | mayNot
    · have isRecorded : query.recorded = true := recorded
      simp [isRecorded]
    · simp [mayNot]

/-! ### Calls -/

/-- A step of a call changes neither its request nor the mark. -/
theorem marked_of_clientSessionStep
    {before after : SessionService}
    {call : Nat}
    {created : ClientSessionCall}
    {action : GuacamoleAction}
    (stepped : clientSessionStep? before call created action = some after) :
    ∃ changed,
      after.calls = before.calls.set call changed ∧
        changed.request = created.request ∧
        (created.Marked → changed.Marked) := by
  cases clientSessionTaken stepped with
  | chosen =>
    refine ⟨_, rfl, rfl, fun _ session isSession => ?_⟩
    dsimp only at isSession
    unfold SessionService.nextPoint at isSession
    split at isSession
    · cases isSession
    · split at isSession <;> cases isSession
  | reused | issuedNothing | issued =>
    refine ⟨_, rfl, rfl, fun _ session isSession => ?_⟩
    cases isSession
    rfl
  | invalidated | closed | failed =>
    exact ⟨_, rfl, rfl, nofun⟩
  | @opened _ _ session isPoint =>
    refine ⟨_, rfl, rfl, fun marked changed isSession => ?_⟩
    cases isSession
    apply marked session
    rw [isPoint]
    rfl

theorem mem_calls_of_guacamoleStep
    {before after : SessionService}
    {action : GuacamoleAction}
    {call : ClientSessionCall}
    (stepped : guacamoleStep? before action = some after)
    (notNew : ∀ request, action ≠ .request request)
    (isCall : call ∈ after.calls) :
    ∃ earlier ∈ before.calls,
      call.request = earlier.request ∧ (earlier.Marked → call.Marked) := by
  rcases guacamoleStep_cases stepped with
    ⟨position, created, _, found, stepped⟩ | ⟨request, isNew, _⟩ | stepped
  · obtain ⟨changed, calls, sameRequest, keepsMark⟩ :=
      marked_of_clientSessionStep stepped
    rw [calls] at isCall
    rcases List.mem_or_eq_of_mem_set isCall with earlier | rfl
    · exact ⟨call, earlier, rfl, id⟩
    · exact ⟨created, List.mem_of_getElem? found, sameRequest, keepsMark⟩
  · exact absurd isNew (notNew request)
  · rw [(trackingStep_noNewOwner stepped).2] at isCall
    exact ⟨call, isCall, rfl, id⟩

/-! ### What is sent to Guacamole -/

/-- What browsers decide about what is sent to Guacamole. -/
inductive Relayed where
  | request (method url : String) (body : Option (List UInt8))
  | openSocket (socket : Nat) (url : String)
  | message (socket : Nat) (message : TunnelMessage)

def UpstreamSend.relayed : UpstreamSend → Relayed
  | request sent => .request sent.method sent.url sent.body
  | openSocket socket url => .openSocket socket url
  | message socket sent => .message socket sent

/-- A proxy that looks at nothing but at what comes in. -/
structure Relay where
  shutdownRequested : Bool := false
  sockets : Nat := 0
  sent : List Relayed := []

/-- What a relay does. -/
def Relay.step (config : ProxyConfig) (relay : Relay) :
    ProxyAction → Relay
  | .tunnelRequest request _ =>
    if relay.shutdownRequested ∨ config.baseUrl = "" then
      relay
    else
      { relay with
        sent :=
          relay.sent ++
            [.request request.method
              (withQuery (config.baseUrl ++ "/tunnel") request.rawQuery)
              (if request.method ≠ "GET" then some request.body
              else none)] }
  | .openSocket rawQuery _ =>
    { relay with
      sockets := relay.sockets + 1
      sent :=
        if config.websocketTunnelUrl = "" then
          relay.sent
        else
          relay.sent ++
            [.openSocket relay.sockets
              (withQuery config.websocketTunnelUrl rawQuery)] }
  | .receive socket message _ =>
    { relay with sent := relay.sent ++ [.message socket message] }
  | .shutdown => { relay with shutdownRequested := true }
  | _ => relay

namespace ProxyServer

/-- The server as a relay. -/
def relay (server : ProxyServer) : Relay where
  shutdownRequested := server.memory.shutdownRequested
  sockets := server.sockets.length
  sent := server.upstream.map UpstreamSend.relayed

variable (server : ProxyServer)

section MarkActivity

variable (authToken : String) (now : Int)

@[simp] theorem memory_markActivity :
    (server.markActivity authToken now).memory = server.memory := by
  unfold markActivity
  split <;> rfl

@[simp] theorem sockets_markActivity :
    (server.markActivity authToken now).sockets = server.sockets := by
  unfold markActivity
  split <;> rfl

@[simp] theorem upstream_markActivity :
    (server.markActivity authToken now).upstream = server.upstream := by
  unfold markActivity
  split <;> rfl

@[simp] theorem calls_touchTunnel (tunnelUuid : String) :
    (server.touchTunnel tunnelUuid now).service.calls = server.service.calls :=
  rfl

@[simp] theorem calls_markActivity :
    (server.markActivity authToken now).service.calls =
      server.service.calls := by
  unfold markActivity
  split <;> rfl

end MarkActivity

section Relayed

variable
    (queries : QueryLibrary)
    (config : ProxyConfig)
include queries config

theorem relay_handOn
    (request : TunnelRequest)
    (now : Int) :
    (server.handOn queries config request now).relay =
      server.relay.step config (.tunnelRequest request now) := by
  unfold handOn Relay.step
  by_cases shuttingDown : server.memory.shutdownRequested = true
  · simp [shuttingDown, relay]
  · by_cases unset : config.baseUrl = ""
    · simp [shuttingDown, unset, relay]
    · simp [shuttingDown, unset, relay, send, touchTunnel,
        UpstreamSend.relayed, TunnelRequest.upstream]

theorem calls_handOn
    (request : TunnelRequest)
    (now : Int) :
    (server.handOn queries config request now).service.calls =
      server.service.calls := by
  unfold handOn
  split
  · rfl
  · dsimp only
    split <;> simp [send]

theorem relay_openSocket
    (rawQuery : String)
    (now : Int) :
    (server.openSocket queries config rawQuery now).relay =
      server.relay.step config (.openSocket rawQuery now) := by
  unfold openSocket Relay.step
  by_cases unset : config.websocketTunnelUrl = ""
  · simp [unset, relay]
  · simp [unset, relay, send, UpstreamSend.relayed]

theorem calls_openSocket
    (rawQuery : String)
    (now : Int) :
    (server.openSocket queries config rawQuery now).service.calls =
      server.service.calls := by
  unfold openSocket
  dsimp only
  split <;> simp [send]

end Relayed

theorem relay_takeAnswer
    (request : TunnelRequest)
    (answer : TunnelAnswer) :
    (server.takeAnswer request answer).relay = server.relay := by
  unfold takeAnswer relay
  split
  · split <;> rfl
  · dsimp only
    split <;> rfl
  · rfl

theorem calls_takeAnswer
    (request : TunnelRequest)
    (answer : TunnelAnswer) :
    (server.takeAnswer request answer).service.calls =
      server.service.calls := by
  unfold takeAnswer
  split
  · split <;> rfl
  · dsimp only
    split <;> rfl
  · rfl

end ProxyServer

section Steps

variable {library : TextLibrary} {queries : QueryLibrary}
  {config : ProxyConfig} {before after : ProxyServer}
  {action : ProxyAction}

/--
Whatever the server does, it relays what browsers send; calls change when the
router makes one, or when the service goes on.
-/
theorem proxyStep_spec
    (stepped : proxyStep? library queries config before action = some after) :
    after.relay = before.relay.step config action ∧
      ((∃ user query request,
          action = .createSession user query ∧
            sessionRequest? library (before.agents.lookup query.agentId)
                user query =
              some request ∧
            after.service.calls =
              before.service.calls ++ [.mk request "" .waiting]) ∨
        (∃ serviceAction,
          (∀ request, serviceAction ≠ .request request) ∧
            guacamoleStep? before.service serviceAction = some after.service) ∨
        after.service.calls = before.service.calls) := by
  unfold proxyStep? at stepped
  split at stepped
  case h_1 user query =>
    split at stepped
    · cases stepped
      exact ⟨rfl, .inr (.inr rfl)⟩
    · rename_i request requested
      cases stepped
      exact ⟨rfl, .inl ⟨user, query, request, rfl, requested, rfl⟩⟩
  case h_2 =>
    cases stepped
  case h_3 serviceAction notNew =>
    obtain ⟨service, serviceStepped, rfl⟩ :=
      Option.map_eq_some_iff.mp stepped
    exact ⟨rfl, .inr (.inl ⟨serviceAction, notNew, serviceStepped⟩)⟩
  case h_4 | h_5 | h_12 =>
    cases stepped
    exact ⟨rfl, .inr (.inr rfl)⟩
  case h_6 request now =>
    cases stepped
    exact
      ⟨before.relay_handOn queries config request now,
        .inr (.inr (before.calls_handOn queries config request now))⟩
  case h_7 position answer =>
    obtain ⟨request, _, rfl⟩ := Option.map_eq_some_iff.mp stepped
    exact
      ⟨before.relay_takeAnswer request answer,
        .inr (.inr (before.calls_takeAnswer request answer))⟩
  case h_8 rawQuery now =>
    cases stepped
    exact
      ⟨before.relay_openSocket queries config rawQuery now,
        .inr (.inr (before.calls_openSocket queries config rawQuery now))⟩
  case h_9 socket succeeded =>
    obtain ⟨tunnel, _, stepped⟩ := Option.bind_eq_some_iff.mp stepped
    split at stepped
    case isFalse =>
      cases stepped
    cases stepped
    refine ⟨?_, .inr (.inr rfl)⟩
    simp [ProxyServer.relay, ProxyServer.moveSocket, Relay.step]
  case h_10 socket message now =>
    obtain ⟨tunnel, _, stepped⟩ := Option.bind_eq_some_iff.mp stepped
    split at stepped
    case isFalse =>
      cases stepped
    cases stepped
    refine ⟨?_, .inr (.inr ?_)⟩
    · simp [ProxyServer.relay, ProxyServer.send, Relay.step,
        UpstreamSend.relayed]
    · simp [ProxyServer.send]
  case h_11 socket =>
    obtain ⟨tunnel, _, rfl⟩ := Option.map_eq_some_iff.mp stepped
    refine ⟨?_, .inr (.inr rfl)⟩
    simp [ProxyServer.relay, ProxyServer.moveSocket, Relay.step]

theorem relay_of_run
    {actions : List ProxyAction}
    (run :
      Run (Fires (proxyStep? library queries config)) before actions after) :
    after.relay = actions.foldl (Relay.step config) before.relay := by
  induction run with
  | nil =>
    rfl
  | cons stepped _ inductionHypothesis =>
    rw [inductionHypothesis, (proxyStep_spec stepped).1]
    rfl

theorem mem_calls_of_proxyStep
    {call : ClientSessionCall}
    (stepped : proxyStep? library queries config before action = some after)
    (isCall : call ∈ after.service.calls) :
    (∃ user query request,
        action = .createSession user query ∧
          sessionRequest? library (before.agents.lookup query.agentId)
              user query =
            some request ∧
          call = { request }) ∨
      ∃ earlier ∈ before.service.calls,
        call.request = earlier.request ∧ (earlier.Marked → call.Marked) := by
  rcases (proxyStep_spec stepped).2 with
    ⟨user, query, request, rfl, requested, calls⟩ |
    ⟨serviceAction, notNew, serviceStepped⟩ | same
  · rw [calls] at isCall
    rcases List.mem_append.mp isCall with earlier | isNew
    · exact .inr ⟨call, earlier, rfl, id⟩
    · exact
        .inl ⟨user, query, request, rfl, requested, List.mem_singleton.mp isNew⟩
  · exact .inr (mem_calls_of_guacamoleStep serviceStepped notNew isCall)
  · rw [same] at isCall
    exact .inr ⟨call, isCall, rfl, id⟩

end Steps

/-! ### Granted sessions, relayed tunnels -/

section History

variable (library : TextLibrary) (queries : QueryLibrary)
  (config : ProxyConfig) (started : ProxyServer)

/--
A call was made for a user who had asked for it, and to whom the policy of the
agent, as it was then, gave the permissions for it.
-/
def GrantedIn
    (actions : List ProxyAction)
    (call : ClientSessionCall) : Prop :=
  ∃ earlier user query later before metadata,
    actions = earlier ++ .createSession user query :: later ∧
      Run (Fires (proxyStep? library queries config)) started earlier before ∧
      call.request.agentId = query.agentId ∧
      before.agents.lookup query.agentId = some metadata ∧
      call.request.Permitted library metadata user

/-- All calls were granted, and the sessions they return are marked. -/
def SessionsGranted
    (actions : List ProxyAction)
    (server : ProxyServer) : Prop :=
  ∀ call ∈ server.service.calls,
    GrantedIn library queries config started actions call ∧ call.Marked

variable {library queries config started}

theorem GrantedIn.append
    {actions : List ProxyAction}
    {call sameCall : ClientSessionCall}
    (granted : GrantedIn library queries config started actions call)
    (same : sameCall.request = call.request)
    (action : ProxyAction) :
    GrantedIn library queries config started (actions ++ [action])
      sameCall := by
  obtain ⟨earlier, user, query, later, before, metadata, rfl, rest⟩ :=
    granted
  refine
    ⟨earlier, user, query, later ++ [action], before, metadata, by simp,
      ?_⟩
  rw [same]
  exact rest

theorem sessionsGranted_of_step
    {actions : List ProxyAction}
    {before after : ProxyServer}
    {action : ProxyAction}
    (run :
      Run (Fires (proxyStep? library queries config)) started actions before)
    (stepped : proxyStep? library queries config before action = some after)
    (granted : SessionsGranted library queries config started actions before) :
    SessionsGranted library queries config started (actions ++ [action])
      after := by
  intro call isCall
  rcases mem_calls_of_proxyStep stepped isCall with
    ⟨user, query, request, rfl, requested, rfl⟩ |
    ⟨earlier, isEarlier, sameRequest, keepsMark⟩
  · obtain ⟨sameAgent, metadata, found, permitted⟩ :=
      permitted_of_sessionRequest requested
    exact
      ⟨⟨actions, user, query, [], before, metadata, rfl, run, sameAgent,
          found, permitted⟩,
        nofun⟩
  · obtain ⟨grantedEarlier, marked⟩ := granted earlier isEarlier
    exact ⟨grantedEarlier.append sameRequest action, keepsMark marked⟩

/--
Sessions are for users who may have them, and say whether these may send
input; what is sent to Guacamole is what a relay sends that knows of none.
-/
theorem sessionsGranted_tunnelsRelayed
    {actions : List ProxyAction}
    {server : ProxyServer}
    (noCalls : started.service.calls = [])
    (run :
      Run (Fires (proxyStep? library queries config)) started actions server) :
    SessionsGranted library queries config started actions server ∧
      server.relay = actions.foldl (Relay.step config) started.relay := by
  have stepPreserves :
      ∀ earlier before action after,
        Run (Fires (proxyStep? library queries config)) started earlier before →
        Fires (proxyStep? library queries config) before action after →
        SessionsGranted library queries config started earlier before →
        SessionsGranted library queries config started
          (earlier ++ [action]) after :=
    fun _ _ _ _ run stepped granted =>
      sessionsGranted_of_step run stepped granted
  have nothing : SessionsGranted library queries config started [] started := by
    intro call isCall
    rw [noCalls] at isCall
    cases isCall
  exact ⟨run.traced stepPreserves nothing, relay_of_run run⟩

end History

/--
A user who may not send input asks for a session, opens a websocket for it and
sends a key.
-/
def pressedKey : List ProxyAction :=
  let viewer : UserIdentity := { subject := "user-1", roles := ["viewer"] }
  [.createSession viewer { agentId := "agent-1" },
    .service (.choose 0 "worker"),
    .service (.issue 0 { authToken := "token-1", connectionId := "7" } 10),
    .service (.opened 0 ""),
    .openSocket "token=token-1&GUAC_ID=7" 11,
    .connected 0 true,
    .receive 0 (.text "3.key,5.65307,1.1;") 12]

/-- A server with an agent that viewers may view. -/
def oneAgentServer : ProxyServer where
  agents :=
    [("agent-1",
      [("guacamole",
        .obj [("access", .obj [("minimum_role", .str "viewer")])])])]

/-- Queries in which a key occurs once, and ASCII bodies. -/
def plainQueryLibrary : QueryLibrary where
  parseQs text :=
    (text.toList.splitOn '&').filterMap fun item =>
      match item.splitOn '=' with
      | [key, value] => some (String.ofList key, [String.ofList value])
      | _ => none
  decode bytes :=
    String.ofList (bytes.map fun byte => Char.ofNat byte.toNat)

def localGuacamole : ProxyConfig where
  baseUrl := "http://127.0.0.1:8080/guacamole"
  websocketTunnelUrl := "ws://127.0.0.1:8080/guacamole/websocket-tunnel"

theorem pressedKey_granted_relayed :
    ∃ server,
      Run
          (Fires (proxyStep? asciiTextLibrary plainQueryLibrary localGuacamole))
          oneAgentServer pressedKey server ∧
        server.upstream.length = 2 ∧
        SessionsGranted asciiTextLibrary plainQueryLibrary localGuacamole
          oneAgentServer pressedKey server ∧
        server.relay =
          pressedKey.foldl (Relay.step localGuacamole)
            oneAgentServer.relay := by
  obtain ⟨server, run, sent⟩ :=
    exists_run_of_execute
      (show (execute
          (proxyStep? asciiTextLibrary plainQueryLibrary localGuacamole)
          oneAgentServer pressedKey).any
          (fun server : ProxyServer =>
            server.upstream.length = 2) = true by
        decide +kernel)
  exact
    ⟨server, run, of_decide_eq_true sent,
      sessionsGranted_tunnelsRelayed rfl run⟩

/-! ### Authorization -/

section Authorization

variable (queries : QueryLibrary) (config : ProxyConfig)

def tunnelPair (text : String) : String × String :=
  (extractAuthToken queries text, firstValue queries text "GUAC_ID" "GUAC_ID")

/-- Whether an instruction is one of the keyboard, the mouse or a touch. -/
def isInputInstruction (text : String) : Bool :=
  ["3.key,", "5.mouse,", "5.touch,"].any fun start =>
    start.toList.isPrefixOf text.toList

namespace ProxyServer

variable (server : ProxyServer)

/-- The pairs that tunnels were opened for. -/
def openedPairs : List (String × String) :=
  server.upstream.filterMap fun
    | .request sent =>
      if sent.url = withQuery (config.baseUrl ++ "/tunnel") "connect" then
        sent.body.map fun body => tunnelPair queries (queries.decode body)
      else
        none
    | .openSocket socket _ =>
      (server.sockets[socket]?).map fun tunnel =>
        tunnelPair queries tunnel.rawQuery
    | .message _ _ => none

/-- The sessions that calls have returned. -/
def returnedSessions : List ClientSession :=
  server.service.calls.filterMap fun call =>
    match call.point with
    | .returned session => some session
    | _ => none

/-- The tokens of the websockets on which input was sent on. -/
def inputTokens : List String :=
  server.upstream.filterMap fun
    | .message socket (.text text) =>
      if isInputInstruction text then
        (server.sockets[socket]?).map fun tunnel =>
          extractAuthToken queries tunnel.rawQuery
      else
        none
    | _ => none

end ProxyServer

variable (library : TextLibrary)

/-- Tunnels are opened for pairs only that calls have returned. -/
def OpensReturnedPairs : Prop :=
  ∀ agents actions server,
    Run (Fires (proxyStep? library queries config)) { agents } actions server →
    server.openedPairs queries config ⊆
      server.returnedSessions.map fun session =>
        (session.authToken, session.connectionId)

/-- No input is sent on for a session that is read only. -/
def WithholdsInput : Prop :=
  ∀ agents actions server,
    Run (Fires (proxyStep? library queries config)) { agents } actions server →
    ∀ session ∈ server.returnedSessions,
      session.readOnly = true →
      session.authToken ∉ server.inputTokens queries

end Authorization

/-- Tunnels are authorized in neither sense. -/
theorem not_tunnelsAuthorized :
    ¬ OpensReturnedPairs plainQueryLibrary localGuacamole
        asciiTextLibrary ∧
      ¬ WithholdsInput plainQueryLibrary localGuacamole asciiTextLibrary := by
  constructor
  · intro opensReturned
    obtain ⟨server, run, opened⟩ :=
      exists_run_of_execute
        (show (execute
            (proxyStep? asciiTextLibrary plainQueryLibrary localGuacamole)
            {} [.openSocket "token=stray&GUAC_ID=7" 0]).any
            (fun server : ProxyServer =>
              decide
                (("stray", "7") ∈
                  server.openedPairs plainQueryLibrary localGuacamole) &&
              server.returnedSessions.isEmpty) = true by
          decide)
    obtain ⟨isOpened, noneReturned⟩ := (Bool.and_eq_true _ _).mp opened
    have returned :=
      opensReturned [] _ server run (of_decide_eq_true isOpened)
    rw [List.isEmpty_iff.mp noneReturned] at returned
    cases returned
  · intro withholds
    obtain ⟨server, run, passed⟩ :=
      exists_run_of_execute
        (show (execute
            (proxyStep? asciiTextLibrary plainQueryLibrary localGuacamole)
            oneAgentServer pressedKey).any
            (fun server : ProxyServer =>
              server.returnedSessions.any fun session =>
                session.readOnly &&
                decide
                  (session.authToken ∈
                    server.inputTokens plainQueryLibrary)) = true by
          decide +kernel)
    obtain ⟨session, isReturned, forwards⟩ := List.any_eq_true.mp passed
    obtain ⟨readOnly, isSent⟩ := (Bool.and_eq_true _ _).mp forwards
    exact
      withholds _ _ server run session isReturned readOnly
        (of_decide_eq_true isSent)

end RpaPlatform.Agents
