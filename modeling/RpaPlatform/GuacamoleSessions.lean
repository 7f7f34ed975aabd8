import RpaPlatform.Custody
import RpaPlatform.RdpMonitor

namespace RpaPlatform.Agents

open Transition

/-!
# Sessions for the users of Guacamole

`GuacamoleService`, as far as tracked sessions depend on it.  A user's session
is chosen or made by `create_client_session`, under a lock of the user, with
awaits in between; sessions are also closed, kicked and expired, and tunnels
are bound to them on threads of their own.
-/

/-! ### Calls -/

/-- The arguments of `create_client_session`. -/
structure ClientSessionRequest where
  agentId : String
  /-- The user of the user session, if there is one. -/
  user : Option RecordingOwner
  forceFresh : Bool := false
  refreshTunnel : Bool := false
  resumeAuthToken : String := ""
  connectionId : String := ""
  vmUsername : String := ""
  readOnly : Bool := false
  recorded : Bool := false

namespace ClientSessionRequest

variable (request : ClientSessionRequest)

/-- `_build_tracked_owner`. -/
def trackedOwner : Option RecordingOwner :=
  request.user.map RecordingOwner.strip

def ownerSubject : String :=
  strip ((request.trackedOwner.map RecordingOwner.subject).getD "")

/-- `_build_session_lock_key`. -/
def lockKey : String :=
  if request.ownerSubject ≠ "" then
    "owner:" ++ request.ownerSubject
  else if strip request.agentId ≠ "" then
    "agent:" ++ strip request.agentId
  else
    "__default__"

/-- The session that a browser asks to resume, if it may. -/
def resumed (monitor : RdpMonitor) : Option TrackedRdpSession :=
  (monitor.getSession request.resumeAuthToken).filter fun session =>
    decide (session.agentId = request.agentId) &&
      (decide (request.ownerSubject = "") ||
        decide (session.ownerSubject = request.ownerSubject))

/-- The existing session that a call finds. -/
def existing (monitor : RdpMonitor) : Option TrackedRdpSession :=
  (request.resumed monitor).or (if request.ownerSubject ≠ "" then
      monitor.getSessionForOwner request.ownerSubject
    else
      monitor.getSessionForAgent request.agentId)

/-- Whether an existing session is replaced by a fresh one. -/
def replaces (session : TrackedRdpSession) : Bool :=
  request.forceFresh || request.recorded ||
    decide (session.agentId ≠ request.agentId) ||
    (decide (strip request.connectionId ≠ "") &&
      decide (strip request.connectionId ≠ session.connectionId) &&
      decide (strip session.authToken ≠ strip request.resumeAuthToken))

end ClientSessionRequest

/-- What a call returns of a session with Guacamole. -/
structure ClientSession where
  authToken : String
  connectionId : String
  dataSource : String
  resumeTunnelUuid : String := ""
  readOnly : Bool

/-- Where a call is. -/
inductive ClientSessionPoint where
  /-- It waits for the lock. -/
  | waiting
  /-- The token of the session to be replaced is invalidated. -/
  | invalidating (session : TrackedRdpSession)
  /-- The sockets of the session that was replaced are closed. -/
  | closing
  | creating
  | reusing (session : TrackedRdpSession)
  /-- A tunnel is opened ahead. -/
  | opening (session : ClientSession)
  | returned (session : ClientSession)
  | failed

/-- Whether a call is inside its lock. -/
def ClientSessionPoint.isLocked : ClientSessionPoint → Bool
  | waiting => false
  | returned _ => false
  | failed => false
  | _ => true

/-- A call of `create_client_session`. -/
structure ClientSessionCall where
  request : ClientSessionRequest
  /-- The account on the machine, once it is resolved. -/
  username : String := ""
  point : ClientSessionPoint := .waiting

/-- What `create_guacamole_client_session` answers. -/
structure IssuedSession where
  authToken : String
  connectionId : String := ""
  dataSource : String := ""

/-! ### Ends of sessions -/

/-- An operation that ends sessions. -/
inductive Teardown where
  /-- `revoke_client_session`. -/
  | revoke (authToken : String)
  /-- `expire_idle_sessions`. -/
  | expireIdle (now : Int)
  /-- `close_tracked_sessions`. -/
  | close (authTokens : Option (List String))
  /-- `close_agent_owner_session`. -/
  | kick (agentId ownerSubject : String)
  /-- `schedule_session_close`, after the delay. -/
  | closeLater (authToken : String) (scheduledAt : Int) (socketOpen : Bool)

/-- The tokens of the sessions that an operation ends, one by one. -/
def Teardown.authTokens (monitor : RdpMonitor) : Teardown → List String
  | revoke authToken => [authToken]
  | expireIdle now => monitor.getIdleAuthTokens now
  | close none =>
    monitor.sessions.rows.map TrackedRdpSession.authToken
  | close (some authTokens) => (authTokens.map strip).filter (· ≠ "")
  | kick agentId ownerSubject =>
    let isOwner := fun session : TrackedRdpSession =>
      decide (session.ownerSubject = strip ownerSubject)
    if strip ownerSubject = "" then
      []
    else
      ((monitor.getSessionsForAgent agentId).find? isOwner).elim []
        fun session => [session.authToken]
  | closeLater authToken scheduledAt socketOpen =>
    match monitor.getSession authToken with
    | none => []
    | some session =>
      if scheduledAt < session.lastActivityAt || socketOpen then
        []
      else
        [authToken]

/-! ### Steps -/

/-- The tracked sessions, and what is under way. -/
structure SessionService where
  monitor : RdpMonitor := {}
  calls : List ClientSessionCall := []
  /-- The tokens whose sessions are still to be ended. -/
  teardowns : List (List String) := []
  /-- Threads that have found no session to bind a tunnel to. -/
  threads : List (String × String) := []

/-- What can happen next. -/
inductive GuacamoleAction where
  | request (request : ClientSessionRequest)
  /-- A call gets its lock, and the account on the machine is resolved. -/
  | choose (call : Nat) (username : String)
  /-- The session that was chosen is registered again. -/
  | reuse (call : Nat) (now : Int)
  /-- The token of the session to be replaced is invalid, or raised. -/
  | invalidated (call : Nat)
  | closed (call : Nat)
  /-- Guacamole has answered. -/
  | issue (call : Nat) (answer : IssuedSession) (now : Int)
  | opened (call : Nat) (tunnelUuid : String)
  /-- An await of a call raises, or is cancelled. -/
  | fail (call : Nat)
  | teardown (operation : Teardown)
  /-- The next session of an operation is forgotten. -/
  | forget (operation : Nat)
  /-- An operation raises, or is cancelled. -/
  | abandon (operation : Nat)
  /-- `bind_tunnel` looks for the session. -/
  | bindTunnel (authToken tunnelUuid : String) (now : Int)
  /-- A thread that has found none stores one. -/
  | bindUntracked (thread : Nat) (now : Int)
  | touch (authToken : String) (now : Int)
  | touchTunnel (tunnelUuid : String) (now : Int)
  | releaseTunnel (tunnelUuid : String)

namespace SessionService

variable (service : SessionService)

def withMonitor (monitor : RdpMonitor) : SessionService :=
  { service with monitor }

/-- A call goes on to another point. -/
def goTo
    (call : Nat)
    (created : ClientSessionCall)
    (point : ClientSessionPoint) : SessionService :=
  { service with
    calls := service.calls.set call { created with point } }

def isLocked (key : String) : Bool :=
  service.calls.any fun call =>
    call.point.isLocked && decide (call.request.lockKey = key)

/-- Where a call goes with the existing session that it has found. -/
def nextPoint
    (request : ClientSessionRequest)
    (monitor : RdpMonitor) : ClientSessionPoint :=
  match request.existing monitor with
  | none =>
    .creating
  | some session =>
    if request.replaces session then
      .invalidating session
    else
      .reusing session

/-- Register a session that is reused, and drop its tunnels if asked to. -/
def reuse
    (request : ClientSessionRequest)
    (username : String)
    (session : TrackedRdpSession)
    (now : Int) : RdpMonitor :=
  let registered :=
    service.monitor.registerSession
      { authToken := session.authToken
        agentId := request.agentId
        connectionId := session.connectionId
        dataSource := session.dataSource
        username := orText username session.username
        owner := request.trackedOwner }
      now
  if request.refreshTunnel then
    registered.releaseAllTunnels session.authToken
  else
    registered

end SessionService

open SessionService in
/-- A step of a call. -/
def clientSessionStep?
    (service : SessionService)
    (call : Nat)
    (created : ClientSessionCall) : GuacamoleAction → Option SessionService
  | .choose _ username =>
    match created.point with
    | .waiting =>
      if service.isLocked created.request.lockKey then
        none
      else
        let resolved :=
          orText (strip created.request.vmUsername) (strip username)
        some
          (service.goTo call { created with username := resolved }
            (nextPoint created.request service.monitor))
    | _ => none
  | .reuse _ now =>
    match created.point with
    | .reusing session =>
      some
        ((service.withMonitor
          (service.reuse created.request created.username session
            now)).goTo call created
          (.opening
            { authToken := session.authToken
              connectionId := session.connectionId
              dataSource := session.dataSource
              readOnly := created.request.readOnly }))
    | _ => none
  | .invalidated _ =>
    match created.point with
    | .invalidating session =>
      some
        ((service.withMonitor
          (service.monitor.removeSession session.authToken)).goTo call
          created .closing)
    | _ => none
  | .closed _ =>
    match created.point with
    | .closing => some (service.goTo call created .creating)
    | _ => none
  | .issue _ answer now =>
    match created.point with
    | .creating =>
      let session : ClientSession :=
        { authToken := answer.authToken
          connectionId := answer.connectionId
          dataSource := answer.dataSource
          readOnly := created.request.readOnly }
      if strip answer.authToken = "" then
        some (service.goTo call created (.returned session))
      else
        some
          ((service.withMonitor
            (service.monitor.registerSession
              { authToken := answer.authToken
                agentId := created.request.agentId
                connectionId := answer.connectionId
                dataSource := answer.dataSource
                username := created.username
                owner := created.request.trackedOwner }
              now)).goTo call created (.opening session))
    | _ => none
  | .opened _ tunnelUuid =>
    match created.point with
    | .opening session =>
      some
        (service.goTo call created
          (.returned { session with resumeTunnelUuid := tunnelUuid }))
    | _ => none
  | .fail _ =>
    match created.point with
    | .returned _ => none
    | .failed => none
    | _ => some (service.goTo call created .failed)
  | _ => none

open SessionService in
/-- The ways in which a call takes a step. -/
inductive ClientSessionTaken
    (service : SessionService)
    (call : Nat)
    (created : ClientSessionCall) :
    GuacamoleAction → SessionService → Prop where
  | chosen {wanted username} :
      created.point = .waiting →
      service.isLocked created.request.lockKey = false →
      ClientSessionTaken service call created (.choose wanted username)
        (service.goTo call
          { created with
            username :=
              orText (strip created.request.vmUsername) (strip username) }
          (nextPoint created.request service.monitor))
  | reused {wanted now session} :
      created.point = .reusing session →
      ClientSessionTaken service call created (.reuse wanted now)
        ((service.withMonitor
          (service.reuse created.request created.username session
            now)).goTo call created
          (.opening
            { authToken := session.authToken
              connectionId := session.connectionId
              dataSource := session.dataSource
              readOnly := created.request.readOnly }))
  | invalidated {wanted session} :
      created.point = .invalidating session →
      ClientSessionTaken service call created (.invalidated wanted)
        ((service.withMonitor
          (service.monitor.removeSession session.authToken)).goTo call
          created .closing)
  | closed {wanted} :
      created.point = .closing →
      ClientSessionTaken service call created (.closed wanted)
        (service.goTo call created .creating)
  | issuedNothing {wanted answer now} :
      created.point = .creating →
      strip answer.authToken = "" →
      ClientSessionTaken service call created (.issue wanted answer now)
        (service.goTo call created
          (.returned
            { authToken := answer.authToken
              connectionId := answer.connectionId
              dataSource := answer.dataSource
              readOnly := created.request.readOnly }))
  | issued {wanted answer now} :
      created.point = .creating →
      strip answer.authToken ≠ "" →
      ClientSessionTaken service call created (.issue wanted answer now)
        ((service.withMonitor
          (service.monitor.registerSession
            { authToken := answer.authToken
              agentId := created.request.agentId
              connectionId := answer.connectionId
              dataSource := answer.dataSource
              username := created.username
              owner := created.request.trackedOwner }
            now)).goTo call created
          (.opening
            { authToken := answer.authToken
              connectionId := answer.connectionId
              dataSource := answer.dataSource
              readOnly := created.request.readOnly }))
  | opened {wanted tunnelUuid session} :
      created.point = .opening session →
      ClientSessionTaken service call created (.opened wanted tunnelUuid)
        (service.goTo call created
          (.returned { session with resumeTunnelUuid := tunnelUuid }))
  | failed {wanted} :
      (∀ session, created.point ≠ .returned session) →
      created.point ≠ .failed →
      ClientSessionTaken service call created (.fail wanted)
        (service.goTo call created .failed)

theorem clientSessionTaken
    {service after : SessionService}
    {call : Nat}
    {created : ClientSessionCall}
    {action : GuacamoleAction}
    (stepped : clientSessionStep? service call created action = some after) :
    ClientSessionTaken service call created action after := by
  unfold clientSessionStep? at stepped
  split at stepped
  case h_1 =>
    split at stepped
    · rename_i isPoint
      split at stepped
      · cases stepped
      · rename_i isFree
        cases stepped
        exact .chosen isPoint (Bool.eq_false_iff.mpr isFree)
    · cases stepped
  case h_5 =>
    split at stepped
    · rename_i isPoint
      dsimp only at stepped
      split at stepped
      · rename_i isEmpty
        cases stepped
        exact .issuedNothing isPoint isEmpty
      · rename_i isGiven
        cases stepped
        exact .issued isPoint isGiven
    · cases stepped
  case h_7 =>
    split at stepped
    · cases stepped
    · cases stepped
    · cases stepped
      constructor <;> assumption
  case h_8 =>
    cases stepped
  all_goals
    split at stepped
    · cases stepped
      constructor
      assumption
    · cases stepped

/-- The call that takes a step. -/
def GuacamoleAction.call : GuacamoleAction → Option Nat
  | choose call _ => some call
  | reuse call _ => some call
  | invalidated call => some call
  | closed call => some call
  | issue call _ _ => some call
  | opened call _ => some call
  | fail call => some call
  | _ => none

/-- A step on which no call depends. -/
def trackingStep?
    (service : SessionService) : GuacamoleAction → Option SessionService
  | .teardown operation =>
    some
      { service with
        teardowns :=
          service.teardowns ++ [operation.authTokens service.monitor] }
  | .forget operation =>
    match service.teardowns[operation]? with
    | some (authToken :: rest) =>
      some
        { service.withMonitor (service.monitor.removeSession authToken) with
          teardowns := service.teardowns.set operation rest }
    | _ => none
  | .abandon operation =>
    some { service with teardowns := service.teardowns.set operation [] }
  | .bindTunnel authToken tunnelUuid now =>
    if strip authToken = "" ∨ strip tunnelUuid = "" then
      none
    else if (service.monitor.getSession authToken).isSome then
      some
        (service.withMonitor
          (service.monitor.addTunnel authToken tunnelUuid now))
    else
      some
        { service with
          threads := service.threads ++ [(authToken, tunnelUuid)] }
  | .bindUntracked thread now =>
    (service.threads[thread]?).map fun (authToken, tunnelUuid) =>
      { service.withMonitor
          ((service.monitor.storeUntracked authToken now).addTunnel
            authToken tunnelUuid now) with
        threads := service.threads.eraseIdx thread }
  | .touch authToken now =>
    some (service.withMonitor (service.monitor.touchAuthToken authToken now))
  | .touchTunnel tunnelUuid now =>
    some (service.withMonitor (service.monitor.touchTunnel tunnelUuid now))
  | .releaseTunnel tunnelUuid =>
    some (service.withMonitor (service.monitor.releaseTunnel tunnelUuid))
  | _ => none

/-- Take a step, if it can be taken. -/
def guacamoleStep?
    (service : SessionService)
    (action : GuacamoleAction) : Option SessionService :=
  match action.call with
  | some call =>
    service.calls[call]?.bind fun created =>
      clientSessionStep? service call created action
  | none =>
    match action with
    | .request request =>
      some { service with calls := service.calls ++ [{ request }] }
    | _ => trackingStep? service action

end RpaPlatform.Agents
