import RpaPlatform.GuacamoleSessions
import RpaPlatform.UserSessions

namespace RpaPlatform.Agents

open Transition

/-!
# The tunnels to Guacamole

Sessions are created for users who are logged on; tunnels are opened and used
by whoever knows a token.  `proxy_tunnel_request` hands HTTP requests on to
Guacamole, and the websocket tunnel hands messages on.
-/

/-! ### Creating a session -/

/-- The query of a request for a session. -/
structure SessionQuery where
  agentId : String
  forceFresh : Bool := false
  refreshTunnel : Bool := false
  resumeAuthToken : String := ""
  connectionId : String := ""
  vmUsername : String := ""
  readOnly : Bool := false
  recorded : Bool := false

namespace UserIdentity

/-- What is known of a user when a session is tracked. -/
def recordingOwner (user : UserIdentity) : RecordingOwner where
  username := user.username
  displayName := user.displayName
  email := user.email
  subject := user.subject

/-- Whether an agent's policy gives a user a permission. -/
def isPermitted
    (library : TextLibrary)
    (metadata : JsonObject)
    (user : UserIdentity)
    (permission : Permission) : Bool :=
  hasGuacamolePermission library
    (extractAccessPolicy library metadata).toFields user.toPolicyUser
    permission.text

end UserIdentity

/--
`api_agent_guacamole_session`: what `create_client_session` is called with,
given the metadata of the agent, if there is one.
-/
def sessionRequest?
    (library : TextLibrary)
    (metadata : Option JsonObject)
    (user : UserIdentity)
    (query : SessionQuery) : Option ClientSessionRequest :=
  (if user.hasAgentVisibility then metadata else none).bind
    fun metadata =>
      let permits := user.isPermitted library metadata
      if permits .view && (!query.recorded || permits .recording) then
        some
          { agentId := query.agentId
            user := some user.recordingOwner
            forceFresh := query.forceFresh
            refreshTunnel := query.refreshTunnel
            resumeAuthToken := query.resumeAuthToken
            connectionId := query.connectionId
            vmUsername := query.vmUsername
            readOnly :=
              query.recorded || query.readOnly || !permits .interact
            recorded := query.recorded }
      else
        none

/-! ### HTTP tunnels -/

/-- Parts of the standard library that read queries and bodies. -/
structure QueryLibrary where
  /-- `urllib.parse.parse_qs`, with blank values kept. -/
  parseQs : String → List (String × List String)
  /-- `bytes.decode("utf-8", errors="ignore")`. -/
  decode : List UInt8 → String

/-- A request to the tunnel. -/
structure TunnelRequest where
  method : String
  rawQuery : String
  body : List UInt8 := []
  accept : String := "*/*"
  contentType : String := ""
  tunnelToken : String := ""
  cookie : String := ""

/-- What is sent on to Guacamole. -/
structure UpstreamRequest where
  method : String
  url : String
  body : Option (List UInt8)
  headers : List (String × String)

/-- What is remembered of tunnels. -/
structure TunnelMemory where
  shutdownRequested : Bool := false
  authCookies : List (String × String) := []
  tunnelTokens : List (String × String) := []
  tunnelCookies : List (String × String) := []

/-- Where Guacamole is. -/
structure ProxyConfig where
  baseUrl : String
  websocketTunnelUrl : String

section Requests

variable (library : QueryLibrary)

/-- The first value under one of two keys. -/
def firstValue (text first second : String) : String :=
  let values := fun key => ((library.parseQs text).lookup key).getD []
  let chosen :=
    if values first = [] then values second else values first
  strip (chosen.head?.getD "")

/-- `_extract_auth_token_from_query`, and of a decoded body. -/
def extractAuthToken (text : String) : String :=
  firstValue library text "token" "authToken"

def extractTunnelUuid (rawQuery : String) : String :=
  let following := fun length : Nat =>
    strip (String.ofList ((rawQuery.toList.drop length).takeWhile (· ≠ ':')))
  if rawQuery = "connect" then ""
  else if rawQuery.startsWith "read:" then following 5
  else if rawQuery.startsWith "write:" then following 6
  else ""

def withQuery (url rawQuery : String) : String :=
  if rawQuery = "" then url else url ++ "?" ++ rawQuery

namespace TunnelRequest

variable (request : TunnelRequest)

def authToken : String :=
  orText (extractAuthToken library request.rawQuery)
    (extractAuthToken library (library.decode request.body))

/-- The tunnel that a connection resumes. -/
def resumedTunnel : String :=
  if request.rawQuery = "connect" then
    firstValue library (library.decode request.body)
      "GUAC_RESUME_TUNNEL" "resume_tunnel_uuid"
  else
    ""

/-- `proxy_tunnel_request`: what is sent on. -/
def upstream
    (config : ProxyConfig)
    (memory : TunnelMemory) : UpstreamRequest :=
  let authToken := request.authToken library
  let tunnel :=
    orText (extractTunnelUuid request.rawQuery) (request.resumedTunnel library)
  let stored := fun (entries : List (String × String)) key =>
    (entries.lookup key).getD ""
  let given := fun (header text : String) =>
    if text ≠ "" then [(header, text)] else []
  let authCookie :=
    if authToken ≠ "" then stored memory.authCookies authToken else ""
  { method := request.method
    url := withQuery (config.baseUrl ++ "/tunnel") request.rawQuery
    body := if request.method ≠ "GET" then some request.body else none
    headers :=
      [("Accept", orText request.accept "*/*")] ++
        given "Content-Type" request.contentType ++
        given "Guacamole-Tunnel-Token"
          (orText request.tunnelToken (stored memory.tunnelTokens tunnel)) ++
        given "Cookie"
          (orText (stored memory.tunnelCookies tunnel)
            (orText authCookie request.cookie)) }

end TunnelRequest

end Requests

/-- What Guacamole answers to a request. -/
inductive TunnelAnswer where
  | answered (text tunnelToken cookie : String)
  | error (code : Nat)
  | unreachable

/-- Forget a tunnel. -/
def TunnelMemory.forget (memory : TunnelMemory) (tunnelUuid : String) :
    TunnelMemory :=
  { memory with
    tunnelTokens := Dictionary.erase tunnelUuid memory.tunnelTokens
    tunnelCookies := Dictionary.erase tunnelUuid memory.tunnelCookies }

/-- Remember a tunnel that was opened. -/
def TunnelMemory.remember
    (memory : TunnelMemory)
    (tunnelUuid tunnelToken cookie : String) : TunnelMemory :=
  let set := fun key value entries =>
    if key ≠ "" ∧ value ≠ "" then Dictionary.set key value entries
    else entries
  { memory with
    tunnelTokens := set tunnelUuid tunnelToken memory.tunnelTokens
    tunnelCookies := set tunnelUuid cookie memory.tunnelCookies }

/-! ### The server -/

/-- A message on a websocket. -/
inductive TunnelMessage where
  | text (text : String)
  | bytes (bytes : List UInt8)
deriving DecidableEq

/-- Where the proxy of a websocket is. -/
inductive TunnelPoint where
  | connecting
  | relaying
  | closed
deriving DecidableEq

/-- A websocket of a browser. -/
structure TunnelSocket where
  rawQuery : String
  point : TunnelPoint := .connecting

/-- What is sent to Guacamole. -/
inductive UpstreamSend where
  | request (request : UpstreamRequest)
  | openSocket (socket : Nat) (url : String)
  | message (socket : Nat) (message : TunnelMessage)

/-- The server, as far as tunnels depend on it. -/
structure ProxyServer where
  /-- The metadata of the agents that are known. -/
  agents : List (String × JsonObject) := []
  service : SessionService := {}
  memory : TunnelMemory := {}
  /-- Requests that Guacamole has not answered. -/
  pending : List TunnelRequest := []
  sockets : List TunnelSocket := []
  /-- All that has been sent to Guacamole for browsers. -/
  upstream : List UpstreamSend := []

/-- What can happen next. -/
inductive ProxyAction where
  /-- A user asks for a session. -/
  | createSession (user : UserIdentity) (query : SessionQuery)
  /-- The service goes on, but for calls that come in. -/
  | service (action : GuacamoleAction)
  /-- Calls, and ends of sessions, store and drop cookies and tokens. -/
  | storeCookies
      (authCookies tunnelTokens tunnelCookies : List (String × String))
  | changeAgents (agents : List (String × JsonObject))
  | tunnelRequest (request : TunnelRequest) (now : Int)
  | tunnelAnswer (pending : Nat) (answer : TunnelAnswer)
  | openSocket (rawQuery : String) (now : Int)
  | connected (socket : Nat) (succeeded : Bool)
  /-- A browser sends a message. -/
  | receive (socket : Nat) (message : TunnelMessage) (now : Int)
  | close (socket : Nat)
  /-- `close_all_sessions` is called. -/
  | shutdown

namespace ProxyServer

variable (server : ProxyServer)

/-- `_mark_session_activity`. -/
def markActivity (authToken : String) (now : Int) : ProxyServer :=
  if authToken = "" then
    server
  else
    { server with
      service :=
        server.service.withMonitor
          (server.service.monitor.touchAuthToken authToken now) }

def touchTunnel (tunnelUuid : String) (now : Int) : ProxyServer :=
  { server with
    service :=
      server.service.withMonitor
        (server.service.monitor.touchTunnel tunnelUuid now) }

def send (sent : UpstreamSend) : ProxyServer :=
  { server with upstream := server.upstream ++ [sent] }

/-- `proxy_tunnel_request`, up to where it waits for Guacamole. -/
def handOn
    (library : QueryLibrary)
    (config : ProxyConfig)
    (request : TunnelRequest)
    (now : Int) : ProxyServer :=
  if server.memory.shutdownRequested then
    server
  else
    let marked := server.markActivity (request.authToken library) now
    if config.baseUrl = "" then
      marked
    else
      let touched :=
        (marked.touchTunnel (request.resumedTunnel library) now).touchTunnel
          (extractTunnelUuid request.rawQuery) now
      { touched.send
          (.request (request.upstream library config server.memory)) with
        pending := server.pending ++ [request] }

/-- `proxy_tunnel_request`, once Guacamole has answered. -/
def takeAnswer (request : TunnelRequest) : TunnelAnswer → ProxyServer
  | .answered text tunnelToken cookie =>
    if request.rawQuery = "connect" then
      { server with
        memory :=
          server.memory.remember (strip text) (strip tunnelToken)
            cookie }
    else
      server
  | .error code =>
    let tunnel := extractTunnelUuid request.rawQuery
    if tunnel ≠ "" ∧ (code = 404 ∨ code = 410) then
      { server with
        memory := server.memory.forget tunnel
        service :=
          server.service.withMonitor
            (server.service.monitor.releaseTunnel tunnel) }
    else
      server
  | .unreachable => server

/-- `api_guacamole_websocket_tunnel`, up to where it waits for Guacamole. -/
def openSocket
    (library : QueryLibrary)
    (config : ProxyConfig)
    (rawQuery : String)
    (now : Int) : ProxyServer :=
  let socket := server.sockets.length
  if config.websocketTunnelUrl = "" then
    { server with
      sockets := server.sockets ++ [{ rawQuery, point := .closed }] }
  else
    { (server.markActivity (extractAuthToken library rawQuery) now).send
        (.openSocket socket (withQuery config.websocketTunnelUrl rawQuery)) with
      sockets := server.sockets ++ [{ rawQuery }] }

/-- A websocket goes on to another point. -/
def moveSocket (socket : Nat) (tunnel : TunnelSocket)
    (point : TunnelPoint) : ProxyServer :=
  { server with
    sockets := server.sockets.set socket { tunnel with point } }

end ProxyServer

/-- Take a step, if it can be taken. -/
def proxyStep?
    (library : TextLibrary)
    (queries : QueryLibrary)
    (config : ProxyConfig)
    (server : ProxyServer) : ProxyAction → Option ProxyServer
  | .createSession user query =>
    match sessionRequest? library (server.agents.lookup query.agentId)
        user query with
    | none => some server
    | some request =>
      some
        { server with
          service :=
            { server.service with
              calls := server.service.calls ++ [{ request }] } }
  | .service (.request _) => none
  | .service action =>
    (guacamoleStep? server.service action).map fun service =>
      { server with service }
  | .storeCookies authCookies tunnelTokens tunnelCookies =>
    some
      { server with
        memory :=
          { server.memory with
            authCookies, tunnelTokens, tunnelCookies } }
  | .changeAgents agents => some { server with agents }
  | .tunnelRequest request now =>
    some (server.handOn queries config request now)
  | .tunnelAnswer position answer =>
    (server.pending[position]?).map fun request =>
      { server.takeAnswer request answer with
        pending := server.pending.eraseIdx position }
  | .openSocket rawQuery now =>
    some (server.openSocket queries config rawQuery now)
  | .connected socket succeeded =>
    (server.sockets[socket]?).bind fun tunnel =>
      if tunnel.point = .connecting then
        some
          (server.moveSocket socket tunnel
            (if succeeded then .relaying else .closed))
      else
        none
  | .receive socket message now =>
    (server.sockets[socket]?).bind fun tunnel =>
      if tunnel.point = .relaying then
        some
          ((server.markActivity
            (extractAuthToken queries tunnel.rawQuery) now).send
            (.message socket message))
      else
        none
  | .close socket =>
    (server.sockets[socket]?).map fun tunnel =>
      server.moveSocket socket tunnel .closed
  | .shutdown =>
    some
      { server with
        memory := { server.memory with shutdownRequested := true } }

end RpaPlatform.Agents
