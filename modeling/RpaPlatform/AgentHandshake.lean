import RpaPlatform.AgentCredentials

namespace RpaPlatform.Agents

/-!
# The handshake of an agent

One agent and the server.  The agent opens one connection after another, each
with the credential it then has, and answers the server's greeting with a
handshake.  The server authorizes it in two steps, since the credentials are
read before they are updated, and sends its verdict.  Connections break at any
point, and the server may still be busy with one that the agent has abandoned.
-/

/-- The credentials in the agent's configuration, persisted as they are. -/
structure RuntimeConfig where
  accessToken : Option String := none
  bootstrapToken : Option String := none

/-- The credential that a new connection presents. -/
def RuntimeConfig.authSecret (config : RuntimeConfig) : Option String :=
  match config.accessToken.filter (· ≠ "") with
  | some token => some token
  | none => config.bootstrapToken.filter (· ≠ "")

inductive AuthResultStatus where
  | ok
  | error
deriving DecidableEq

/-- The data of an `auth_result` event. -/
structure AuthResultData where
  status : AuthResultStatus := .ok
  accessToken : String := ""
  reason : String := ""

def AuthResultData.issues (result : AuthResultData) : Bool :=
  result.status = .ok && result.accessToken ≠ ""

/-- How far a connection has come. -/
inductive SocketState where
  /-- The agent has connected with a credential. -/
  | opened (token : Option String)
  /-- The handshake is on its way to the server. -/
  | handshake (token : Option String)
  /-- The server has read the credentials and not updated them yet. -/
  | authorizing
      (token : Option String)
      (credentials : Option CredentialsRow)
  /-- The verdict is on its way to the agent. -/
  | answered (result : AuthResultData)
  | finished

namespace SocketState

/-- The credential that the server has still to judge. -/
def pending : SocketState → Option (Option String)
  | opened token => some token
  | handshake token => some token
  | authorizing token _ => some token
  | _ => none

/-- The handshake has been sent and is not dealt with. -/
def inFlight : SocketState → Bool
  | handshake _ => true
  | authorizing _ _ => true
  | _ => false

def carriesToken : SocketState → Bool
  | answered result => result.issues
  | _ => false

end SocketState

/-- The agent and the server; connections are numbered as they are opened. -/
structure HandshakeSystem where
  db : RegistryDB
  config : RuntimeConfig
  sockets : List SocketState := []
  current : Option Nat := none
  running : Bool := true
  clock : Int

namespace HandshakeSystem

def handshakeInFlight (sys : HandshakeSystem) : Bool :=
  sys.sockets.any SocketState.inFlight

/-- Change the state of a connection. -/
def setSocket
    (sys : HandshakeSystem)
    (socket : Nat)
    (state : SocketState) : HandshakeSystem :=
  { sys with sockets := sys.sockets.set socket state }

end HandshakeSystem

/-- What can happen next. -/
inductive HandshakeAction where
  | openConnection
  | sendHandshake
  | readCredentials (socket : Nat)
  /-- A mismatch is the reason given for an unexpected host. -/
  | authorize (socket : Nat) (mismatch : Option String) (jti : String)
  | deliverAuthResult
  /-- Whatever is under way on a connection is lost. -/
  | lose (socket : Nat)
  /-- The agent finds its connection broken. -/
  | disconnect
  | restart
  | tick (later : Int)

/-- The verdict that `_handle_handshake` sends, if it sends one. -/
def handshakeReply
    (result : AuthResult)
    (mismatch : Option String) : SocketState :=
  match result with
  | .raised =>
    .finished
  | .rejected reason =>
    .answered { status := .error, reason }
  | .authorized _ issuedSecret =>
    match mismatch with
    | some reason =>
      .answered { status := .error, reason }
    | none =>
      .answered { accessToken := issuedSecret.getD "" }

def handleAuthResult
    (sys : HandshakeSystem)
    (result : AuthResultData) : HandshakeSystem :=
  match result.status with
  | .error =>
    { sys with running := false, current := none }
  | .ok =>
    if result.accessToken = "" then
      sys
    else
      { sys with config := { accessToken := some result.accessToken } }

section Step

variable (auth : AgentAuth) (agentId : String)

/-- Take a step, if it can be taken. -/
def handshakeStep?
    (sys : HandshakeSystem) : HandshakeAction → Option HandshakeSystem
  | .openConnection =>
    if sys.running && sys.current.isNone then
      some
        { sys with
          sockets := sys.sockets ++ [.opened sys.config.authSecret]
          current := some sys.sockets.length }
    else
      none
  | .sendHandshake =>
    match sys.current with
    | none => none
    | some socket =>
      match sys.sockets[socket]? with
      | some (.opened token) =>
        some (sys.setSocket socket (.handshake token))
      | _ => none
  | .readCredentials socket =>
    match sys.sockets[socket]? with
    | some (.handshake token) =>
      some (sys.setSocket socket
        (.authorizing token (sys.db.getAgentCredentials agentId)))
    | _ => none
  | .authorize socket mismatch jti =>
    match sys.sockets[socket]? with
    | some (.authorizing token credentials) =>
      let decision :=
        authorizeDecision auth agentId credentials token sys.clock jti
      some
        { sys.setSocket socket (handshakeReply decision.1 mismatch) with
          db := sys.db.applyUpdate agentId sys.clock decision.2 }
    | _ => none
  | .deliverAuthResult =>
    match sys.current with
    | none => none
    | some socket =>
      match sys.sockets[socket]? with
      | some (.answered result) =>
        some (handleAuthResult (sys.setSocket socket .finished) result)
      | _ => none
  | .lose socket =>
    some (sys.setSocket socket .finished)
  | .disconnect =>
    some { sys with current := none }
  | .restart =>
    some { sys with current := none, running := true }
  | .tick later =>
    if sys.clock ≤ later then some { sys with clock := later } else none

end Step

end RpaPlatform.Agents
