import RpaPlatform.DelayedCloses
import RpaPlatform.SessionActivity

namespace RpaPlatform.Agents

open Transition

/-!
# Sessions that expire

Sessions are ended by sweeps over the idle ones and by delayed closes.  Both
decide first, then let Guacamole invalidate the token on a thread, and then
forget the session; other coroutines and threads may run at each await.  The
calls to Guacamole are numbered, and go on when the coroutine that waits for
them is cancelled.
-/

/-! ### Activities -/

/-- What shows that a session is in use. -/
inductive Activity where
  /-- `_mark_session_activity`. -/
  | mark (authToken : String)
  /-- Its second half; on a thread others may run after the first. -/
  | touch (authToken : String)
  | touchTunnel (tunnelUuid : String)
  | bindTunnel (authToken tunnelUuid : String)
  | register (registration : Registration)
  /-- `register_websocket`. -/
  | openSocket (authToken : String)

namespace Activity

/-- The session that is in use. -/
def authToken? (monitor : RdpMonitor) : Activity → Option String
  | mark authToken => some (strip authToken)
  | touch authToken => some (strip authToken)
  | touchTunnel tunnelUuid => monitor.tunnelToken? tunnelUuid
  | bindTunnel authToken tunnelUuid =>
    if strip tunnelUuid = "" then none else some (strip authToken)
  | register registration => some (strip registration.authToken)
  | openSocket authToken => some (strip authToken)

/-- Whether a delayed close of the session is cancelled. -/
def cancels : Activity → Bool
  | mark _ => true
  | openSocket _ => true
  | _ => false

/-- Whether the session is tracked from there on, if it is not yet. -/
def registers : Activity → Bool
  | bindTunnel _ _ => true
  | register _ => true
  | _ => false

/-- What is tracked after an activity. -/
def observe (monitor : RdpMonitor) (now : Int) : Activity → RdpMonitor
  | mark authToken => monitor.touchAuthToken authToken now
  | touch authToken => monitor.touchAuthToken authToken now
  | touchTunnel tunnelUuid => monitor.touchTunnel tunnelUuid now
  | bindTunnel authToken tunnelUuid =>
    monitor.bindTunnel authToken tunnelUuid now
  | register registration => monitor.registerSession registration now
  | openSocket authToken => monitor.touchAuthToken authToken now

end Activity

/-! ### Coroutines and calls -/

/-- The coroutine that has decided that a session ends. -/
inductive Decider where
  | close (position : Nat)
  | sweep (position : Nat)
deriving DecidableEq

/-- A call of `_invalidate_guacamole_token`. -/
structure Invalidation where
  authToken : String
  decider : Decider
  /-- The sessions that were in use between the decision and the call. -/
  between : List String
  /-- Whether it has succeeded, once it has ended. -/
  outcome : Option Bool := none

/-- Where a sweep is. -/
inductive SweepPoint where
  | invalidating (authToken : String) (call : Nat)
  /-- The sockets of the session that was forgotten are closed. -/
  | closing
  | ended
deriving DecidableEq

/-- A run of `expire_idle_sessions`. -/
structure Sweep where
  /-- The sessions that are still to be ended. -/
  remaining : List String
  /-- Whether the address of Guacamole is known. -/
  bridged : Bool
  /-- How many activities there had been when the sessions were selected. -/
  selectedAt : Nat
  point : SweepPoint := .closing

/-- `GuacamoleService`, as far as the expiry of sessions depends on it. -/
structure ExpiringService where
  monitor : RdpMonitor := {}
  closes : DelayedCloses := {}
  sweeps : List Sweep := []
  invalidations : List Invalidation := []
  /-- The token of every websocket that is open. -/
  sockets : List String := []
  shutdownRequested : Bool := false
  /-- The sessions that have been in use, one for each activity. -/
  activities : List String := []
  /-- How many activities there had been when each close was scheduled. -/
  scheduledAfter : List Nat := []

/-- What can happen next. -/
inductive ExpiryAction where
  | observe (activity : Activity) (now : Int)
  | closeSocket (authToken : String)
  /-- Another operation forgets a session. -/
  | forget (authToken : String)
  | shutdown
  | schedule (authToken : String) (now : Int)
  | cancel (authToken : String)
  /-- A delayed close begins to run. -/
  | start (position : Nat)
  /-- A delayed close has slept, and decides. -/
  | wake (position : Nat) (bridged : Bool)
  /-- The call that a delayed close waits for has ended. -/
  | resume (position : Nat)
  | finish (position : Nat)
  /-- The cancellation of a delayed close is raised in it. -/
  | unwind (position : Nat)
  | sweep (now : Int) (bridged : Bool)
  /-- The call that a sweep waits for has ended. -/
  | resumeSweep (position : Nat)
  /-- A sweep turns to the next session. -/
  | nextSession (position : Nat)
  /-- A sweep is cancelled. -/
  | abort (position : Nat)
  /-- A call to Guacamole ends. -/
  | endCall (call : Nat) (succeeded : Bool)

namespace ExpiringService

variable (service : ExpiringService)

/-- Something shows that a session is in use. -/
def observe (activity : Activity) (now : Int) : ExpiringService :=
  match activity.authToken? service.monitor with
  | none => service
  | some authToken =>
    if authToken = "" then
      service
    else
      { service with
        monitor := activity.observe service.monitor now
        closes :=
          if activity.cancels then service.closes.cancel authToken
          else service.closes
        sockets :=
          match activity with
          | .openSocket _ => service.sockets ++ [authToken]
          | _ => service.sockets
        activities := service.activities ++ [authToken] }

/-- `_forget_session`, up to where the sockets are closed. -/
def forget (authToken : String) : ExpiringService :=
  { service with
    monitor := service.monitor.removeSession authToken
    sockets := service.sockets.filter (· ≠ strip authToken) }

/-- A call to Guacamole begins. -/
def beginCall
    (authToken : String)
    (decider : Decider)
    (decidedAt : Nat) : ExpiringService :=
  { service with
    invalidations :=
      service.invalidations ++
        [{ authToken
           decider
           between := service.activities.drop decidedAt }] }

/-- `schedule_session_close`. -/
def schedule (authToken : String) (now : Int) : ExpiringService :=
  if strip authToken = "" then
    service
  else
    { service with
      closes := service.closes.schedule authToken now
      scheduledAfter :=
        service.scheduledAfter ++ [service.activities.length] }

/-- Whether a delayed close that has slept still closes its session. -/
def closesStill (task : CloseTask) : Bool :=
  !service.shutdownRequested &&
    (service.monitor.getSession task.authToken).any (fun session =>
      decide (session.lastActivityAt ≤ task.scheduledAt)) &&
    decide (task.authToken ∉ service.sockets)

/-- A delayed close has slept. -/
def wake
    (position : Nat)
    (task : CloseTask)
    (scheduledAfter : Nat)
    (bridged : Bool) : ExpiringService :=
  if service.closesStill task then
    if bridged then
      { service.beginCall task.authToken (.close position) scheduledAfter with
        closes :=
          service.closes.moveTo position task
            (.invalidating service.invalidations.length) }
    else
      { service.forget task.authToken with
        closes := service.closes.moveTo position task .closing }
  else
    { service with closes := service.closes.finish position task }

/-- A sweep turns to its next session. -/
def takeNext (position : Nat) (sweep : Sweep) : ExpiringService × Sweep :=
  match sweep.remaining with
  | [] => (service, { sweep with point := .ended })
  | authToken :: rest =>
    if sweep.bridged then
      (service.beginCall authToken (.sweep position) sweep.selectedAt,
        { sweep with
          remaining := rest
          point :=
            .invalidating authToken service.invalidations.length })
    else
      (service.forget authToken,
        { sweep with remaining := rest, point := .closing })

/-- A sweep goes on to another point. -/
def moveSweep
    (position : Nat)
    (sweep : Sweep)
    (point : SweepPoint) : ExpiringService :=
  { service with
    sweeps := service.sweeps.set position { sweep with point } }

def callEnded (call : Nat) : Bool :=
  (service.invalidations[call]?).any fun call => call.outcome.isSome

/-- `expire_idle_sessions`, up to its first await. -/
def beginSweep (now : Int) (bridged : Bool) : ExpiringService :=
  let taken :=
    service.takeNext service.sweeps.length
      { remaining := service.monitor.getIdleAuthTokens now
        bridged
        selectedAt := service.activities.length }
  { taken.1 with sweeps := service.sweeps ++ [taken.2] }

/-- Take a step, if it can be taken. -/
def step? (service : ExpiringService) :
    ExpiryAction → Option ExpiringService
  | .observe activity now => some (service.observe activity now)
  | .closeSocket authToken =>
    some { service with sockets := service.sockets.erase (strip authToken) }
  | .forget authToken => some (service.forget authToken)
  | .shutdown => some { service with shutdownRequested := true }
  | .schedule authToken now => some (service.schedule authToken now)
  | .cancel authToken =>
    some { service with closes := service.closes.cancel authToken }
  | .start position =>
    (service.closes.tasks[position]?).bind fun task =>
      if task.cancelled = false ∧ task.stage = .created then
        some
          { service with
            closes := service.closes.moveTo position task .sleeping }
      else
        none
  | .wake position bridged =>
    (service.closes.tasks[position]?).bind fun task =>
      (service.scheduledAfter[position]?).bind fun scheduledAfter =>
        if task.cancelled = false ∧ task.stage = .sleeping then
          some (service.wake position task scheduledAfter bridged)
        else
          none
  | .resume position =>
    (service.closes.tasks[position]?).bind fun task =>
      match task.stage with
      | .invalidating call =>
        if task.cancelled = false ∧ service.callEnded call = true then
          some
            { service.forget task.authToken with
              closes := service.closes.moveTo position task .closing }
        else
          none
      | _ => none
  | .finish position =>
    (service.closes.tasks[position]?).bind fun task =>
      if task.cancelled = false ∧ task.stage = .closing then
        some { service with closes := service.closes.finish position task }
      else
        none
  | .unwind position =>
    (service.closes.tasks[position]?).bind fun task =>
      if task.cancelled = true ∧ task.stage ≠ .finished then
        some { service with closes := service.closes.unwind position task }
      else
        none
  | .sweep now bridged => some (service.beginSweep now bridged)
  | .resumeSweep position =>
    (service.sweeps[position]?).bind fun sweep =>
      match sweep.point with
      | .invalidating authToken call =>
        if service.callEnded call = true then
          some ((service.forget authToken).moveSweep position sweep .closing)
        else
          none
      | _ => none
  | .nextSession position =>
    (service.sweeps[position]?).bind fun sweep =>
      if sweep.point = .closing then
        let taken := service.takeNext position sweep
        some { taken.1 with sweeps := service.sweeps.set position taken.2 }
      else
        none
  | .abort position =>
    (service.sweeps[position]?).bind fun sweep =>
      if sweep.point = .ended then none
      else some (service.moveSweep position sweep .ended)
  | .endCall call succeeded =>
    (service.invalidations[call]?).bind fun invalidation =>
      if invalidation.outcome = none then
        some
          { service with
            invalidations :=
              service.invalidations.set call
                { invalidation with outcome := some succeeded } }
      else
        none

/-! ### The claim -/

/-- A coroutine has ended. -/
def Ended : Decider → Prop
  | .close position =>
    ∃ task, service.closes.tasks[position]? = some task ∧ task.stage = .finished
  | .sweep position =>
    ∃ sweep, service.sweeps[position]? = some sweep ∧ sweep.point = .ended

/-- Expiry spares sessions that are in use, and ends what it invalidates. -/
structure SparesActive : Prop where
  /-- No token is invalidated that was in use since the decision. -/
  spares : ∀ call ∈ service.invalidations, call.authToken ∉ call.between
  /-- What has been invalidated is not tracked when the decider has ended. -/
  forgets :
    ∀ call ∈ service.invalidations,
      call.outcome = some true →
      service.Ended call.decider →
      ¬ service.monitor.Tracks call.authToken

/-- Expiry spares sessions that are in use in every run. -/
def ExpirySparesActive
    (step : ExpiringService → ExpiryAction → ExpiringService → Prop) : Prop :=
  ∀ idleTimeoutSeconds actions service,
    Run step { monitor := { idleTimeoutSeconds } } actions service →
    service.SparesActive

end ExpiringService

/-! ### The condition -/

def CloseTask.isUndecided (task : CloseTask) : Bool :=
  !task.cancelled &&
    (decide (task.stage = .created) || decide (task.stage = .sleeping))

/-- The token that a delayed close waits for, and the call. -/
def CloseTask.awaits? (task : CloseTask) : Option (String × Nat) :=
  match task.stage with
  | .invalidating call => some (task.authToken, call)
  | _ => none

/-- The token that a sweep waits for, and the call. -/
def Sweep.awaits? (sweep : Sweep) : Option (String × Nat) :=
  match sweep.point with
  | .invalidating authToken call => some (authToken, call)
  | _ => none

namespace ExpiringService

variable (service : ExpiringService)

/-- The token that a coroutine waits for, and the call. -/
def awaits? : Decider → Option (String × Nat)
  | .close position =>
    (service.closes.tasks[position]?).bind CloseTask.awaits?
  | .sweep position => (service.sweeps[position]?).bind Sweep.awaits?

/-- A sweep turns only to sessions that were not in use since it selected
them. -/
def SweepsIdle : ExpiryAction → Prop
  | .nextSession position =>
    ∀ sweep ∈ service.sweeps[position]?,
      sweep.bridged = true →
      ∀ authToken ∈ sweep.remaining.head?,
        authToken ∉ service.activities.drop sweep.selectedAt
  | _ => True

/-- A session is in use at a later time than its delayed closes were
scheduled at, but for the one that is cancelled. -/
def ActsLater : ExpiryAction → Prop
  | .observe activity now =>
    ∀ authToken ∈ activity.authToken? service.monitor,
      ∀ task ∈
          (if activity.cancels then service.closes.cancel authToken
            else service.closes).tasks,
        task.isUndecided = true →
        task.authToken = authToken →
        task.scheduledAt < now
  | _ => True

def LosesNone (decider : Decider) : Prop :=
  ∀ waited ∈ service.awaits? decider,
    ∀ call ∈ service.invalidations[waited.2]?, call.outcome ≠ some true

/-- No coroutine is cancelled during a call that succeeds. -/
def AwaitsCalls : ExpiryAction → Prop
  | .unwind position => service.LosesNone (.close position)
  | .abort position => service.LosesNone (.sweep position)
  | .endCall call succeeded =>
    succeeded = true →
    ∀ invalidation ∈ service.invalidations[call]?,
      service.awaits? invalidation.decider = some (invalidation.authToken, call)
  | _ => True

/-- A token that has been invalidated is not tracked anew. -/
def RegistersValid : ExpiryAction → Prop
  | .observe activity _ =>
    activity.registers = true →
    ∀ authToken ∈ activity.authToken? service.monitor,
      (service.monitor.sessions.find? authToken).isSome = true ∨
        ∀ call ∈ service.invalidations,
          call.authToken = authToken → call.outcome ≠ some true
  | _ => True

/-- The condition under which expiry spares sessions that are in use. -/
def Undisturbed (action : ExpiryAction) : Prop :=
  service.SweepsIdle action ∧ service.ActsLater action ∧
    service.AwaitsCalls action ∧ service.RegistersValid action

end ExpiringService

end RpaPlatform.Agents
