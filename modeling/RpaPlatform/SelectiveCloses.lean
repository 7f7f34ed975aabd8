import RpaPlatform.DelayedCloses
import RpaPlatform.TunnelCredentials

namespace RpaPlatform.Agents

open Transition

/-!
# Closing some sessions

`close_tracked_sessions` closes the sessions of some tokens, one after another,
and `close_agent_owner_session` closes that of one owner.  At its awaits
anything else may happen to the service.

The answers to requests that read a tunnel are streamed.  The service knows
which streams are active, and not whose they are; `close_tracked_sessions`
closes all of them before it looks at the tokens.
-/

/-- An answer that is streamed to the reader of a tunnel. -/
structure TunnelStream where
  tunnelUuid : String
  number : Nat
deriving DecidableEq

/-- A websocket; its token is in the query that it was opened with. -/
structure SessionSocket where
  authToken : String
  number : Nat
deriving DecidableEq

/-- `GuacamoleService`: everything that it holds of the sessions. -/
structure ClosingService where
  credentials : CredentialService := {}
  agentTokens : List (String × List String) := []
  /-- `_recent_close_reasons`, with the times at which they expire. -/
  closeReasons : List (String × Int × String) := []
  closes : DelayedCloses := {}
  sockets : List SessionSocket := []
  closedSockets : List SessionSocket := []
  activeStreams : List TunnelStream := []
  closedStreams : List TunnelStream := []
  valid : closes.Valid := by
    intro _ _ isStored
    cases isStored

namespace ClosingService

variable (service : ClosingService)

def monitor : RdpMonitor :=
  service.credentials.monitor

/-- `cancel_scheduled_session_close`. -/
def cancelClose (authToken : String) : ClosingService :=
  { service with
    closes := service.closes.cancel authToken
    valid := DelayedCloses.Valid.cancel @service.valid authToken }

def closeActiveStreams : ClosingService :=
  { service with
    activeStreams := []
    closedStreams := service.closedStreams ++ service.activeStreams }

/-- `_remember_close_reason`: the reasons that are kept. -/
def rememberCloseReason
    (authToken closeReason : String)
    (now : Int) : List (String × Int × String) :=
  if strip authToken = "" ∨ strip closeReason = "" then
    service.closeReasons
  else
    Dictionary.set (strip authToken) (now + 120, strip closeReason)
      service.closeReasons

/-- The tokens of an agent without one; an empty set is removed. -/
def discardToken
    (authToken : String)
    (stored : String × List String) : Option (String × List String) :=
  if authToken ∈ stored.2 then
    let kept := stored.2.filter (· ≠ authToken)
    if kept = [] then none else some (stored.1, kept)
  else
    some stored

def forgetSession
    (authToken closeReason : String)
    (now : Int) : ClosingService :=
  if strip authToken = "" then
    service
  else
    { service with
      closeReasons :=
        service.rememberCloseReason authToken closeReason now
      credentials := service.credentials.forgetSession authToken
      agentTokens :=
        service.agentTokens.filterMap (discardToken (strip authToken))
      sockets :=
        service.sockets.filter (·.authToken ≠ strip authToken)
      closedSockets :=
        service.closedSockets ++
          service.sockets.filter (·.authToken = strip authToken) }

end ClosingService

/-! ### A call that closes sessions -/

/-- A call that closes some sessions. -/
inductive CloseRequest where
  /-- `close_tracked_sessions`. -/
  | tracked (authTokens : Option (List String))
  /-- `close_agent_owner_session`. -/
  | owner (agentId ownerSubject : String)

namespace CloseRequest

/-- The tokens of the sessions that are closed. -/
def authTokens (monitor : RdpMonitor) : CloseRequest → List String
  | tracked authTokens => (Teardown.close authTokens).authTokens monitor
  | owner agentId ownerSubject =>
    (Teardown.kick agentId ownerSubject).authTokens monitor

/-- Whether `close_tracked_sessions` is called at all. -/
def closes (monitor : RdpMonitor) : CloseRequest → Bool
  | tracked _ => true
  | owner agentId ownerSubject =>
    ((owner agentId ownerSubject).authTokens monitor) ≠ []

end CloseRequest

/-- Where a call is. -/
inductive ClosePoint where
  | called
  /-- The sessions that are still to be closed. -/
  | closing (remaining : List String)
  /-- Guacamole is told to invalidate a token. -/
  | invalidating (authToken : String) (remaining : List String)

/-- A call, and the service. -/
structure ClosingCall where
  service : ClosingService
  point : ClosePoint := .called

/-- What happens during a call. -/
inductive ClosingEvent where
  | begin
  /-- The close that is pending for the next session is cancelled. -/
  | cancel
  /-- The session is forgotten. -/
  | forget (now : Int)
  /-- Something else happens while the call waits. -/
  | elsewhere (service : ClosingService)

def ClosingEvent.isOwn : ClosingEvent → Bool
  | elsewhere _ => false
  | _ => true

namespace ClosingCall

variable (request : CloseRequest) (closeReason : String)

/-- A step of a call, or of something else. -/
def step? (call : ClosingCall) : ClosingEvent → Option ClosingCall
  | .begin =>
    match call.point with
    | .called =>
      if request.closes call.service.monitor then
        some
          { service := call.service.closeActiveStreams
            point :=
              .closing (request.authTokens call.service.monitor) }
      else
        some { call with point := .closing [] }
    | _ => none
  | .cancel =>
    match call.point with
    | .closing (authToken :: remaining) =>
      some
        { service := call.service.cancelClose authToken
          point := .invalidating authToken remaining }
    | _ => none
  | .forget now =>
    match call.point with
    | .invalidating authToken remaining =>
      some
        { service :=
            call.service.forgetSession authToken closeReason now
          point := .closing remaining }
    | _ => none
  | .elsewhere service =>
    match call.point with
    | .called => none
    | _ => some { call with service }

end ClosingCall

/-! ### What is kept of a session -/

/-- Everything that the service holds of one session. -/
structure SessionView where
  session : Option TrackedRdpSession
  primaryTunnel : Option String
  boundTunnels : List (String × String)
  credentials : List (Option String × Option String)
  authCookie : Option String
  agents : List String
  closeReason : Option (Int × String)
  pendingClose : Option Nat
  closeTasks : List CloseTask
  sockets : List SessionSocket
  closedSockets : List SessionSocket
  activeStreams : List TunnelStream
  closedStreams : List TunnelStream

namespace ClosingService

variable (service : ClosingService)

def tunnelsOf (authToken : String) : List String :=
  (service.monitor.sessions.find? authToken).elim []
    TrackedRdpSession.tunnelUuids

/-- What the service holds of the session of a token. -/
def view (authToken : String) : SessionView where
  session := service.monitor.sessions.find? authToken
  primaryTunnel := service.monitor.primaryTunnel.lookup authToken
  boundTunnels :=
    service.monitor.tokenByTunnel.filter (·.2 = authToken)
  credentials :=
    (service.tunnelsOf authToken).map fun tunnel =>
      (service.credentials.memory.tunnelTokens.lookup tunnel,
        service.credentials.memory.tunnelCookies.lookup tunnel)
  authCookie := service.credentials.memory.authCookies.lookup authToken
  agents :=
    (service.agentTokens.filter (authToken ∈ ·.2)).map Prod.fst
  closeReason := service.closeReasons.lookup authToken
  pendingClose := service.closes.pending.lookup authToken
  closeTasks := service.closes.tasks.filter (·.authToken = authToken)
  sockets := service.sockets.filter (·.authToken = authToken)
  closedSockets := service.closedSockets.filter (·.authToken = authToken)
  activeStreams :=
    service.activeStreams.filter (·.tunnelUuid ∈ service.tunnelsOf authToken)
  closedStreams :=
    service.closedStreams.filter (·.tunnelUuid ∈ service.tunnelsOf authToken)

end ClosingService

namespace CloseRequest

variable (request : CloseRequest)

/-- A step of the call leaves the sessions that are not closed untouched. -/
def SparingStep
    (closeReason : String)
    (service : ClosingService)
    (before : ClosingCall)
    (event : ClosingEvent)
    (after : ClosingCall) : Prop :=
  Fires (ClosingCall.step? request closeReason) before event after ∧
    (event.isOwn = true →
      ∀ authToken ∉ request.authTokens service.monitor,
        after.service.view authToken = before.service.view authToken)

/-- Whatever happens during a call, it leaves the sessions that are not closed
untouched. -/
def Selective (closeReason : String) (service : ClosingService) : Prop :=
  ∀ events reached,
    Run (Fires (ClosingCall.step? request closeReason)) { service } events
      reached →
    Run (request.SparingStep closeReason service) { service } events reached

/-- Every call leaves the sessions that it does not close untouched. -/
def AllSelective : Prop :=
  ∀ (request : CloseRequest) (closeReason : String)
    (service : ClosingService),
    request.Selective closeReason service

/-- Every stream that is active belongs to sessions that are closed only. -/
def SparesStreams (service : ClosingService) : Prop :=
  request.closes service.monitor = true →
  ∀ stream ∈ service.activeStreams,
    ∀ session ∈ service.monitor.sessions.rows,
      stream.tunnelUuid ∈ session.tunnelUuids →
      session.authToken ∈ request.authTokens service.monitor

end CloseRequest

/-! ### Forgetting another session -/

namespace RdpMonitor

variable
    {monitor : RdpMonitor}
    {authToken token : String}

theorem find?_removeSession_other (other : token ≠ strip authToken) :
    (monitor.removeSession authToken).sessions.find? token =
      monitor.sessions.find? token := by
  unfold removeSession
  split
  · rfl
  · exact monitor.sessions.find?_delete other

theorem primaryTunnel_removeSession_other
    (other : token ≠ strip authToken) :
    (monitor.removeSession authToken).primaryTunnel.lookup token =
      monitor.primaryTunnel.lookup token := by
  unfold removeSession
  split
  · rfl
  · exact Dictionary.lookup_erase_other other _

theorem boundTunnels_removeSession_other
    (other : token ≠ strip authToken) :
    (monitor.removeSession authToken).tokenByTunnel.filter (·.2 = token) =
      monitor.tokenByTunnel.filter (·.2 = token) := by
  unfold removeSession
  split
  · rfl
  · dsimp only
    rw [List.filter_filter]
    refine List.filter_congr fun entry _ => ?_
    by_cases bound : entry.2 = token
    · simp [bound, other]
    · simp [bound]

end RdpMonitor

theorem filter_modify_of_other
    {Entry : Type*}
    {kept : Entry → Bool}
    {change : Entry → Entry}
    {entries : List Entry}
    {position : Nat}
    {entry : Entry}
    (isEntry : entries[position]? = some entry)
    (before : kept entry = false)
    (after : kept (change entry) = false) :
    (entries.modify position change).filter kept = entries.filter kept := by
  induction entries generalizing position with
  | nil =>
    cases isEntry
  | cons first rest inductionHypothesis =>
    cases position with
    | zero =>
      cases isEntry
      rw [List.modify_zero_cons,
        List.filter_cons_of_neg (by simp [after]),
        List.filter_cons_of_neg (by simp [before])]
    | succ position =>
      rw [List.modify_succ_cons, List.filter_cons, List.filter_cons,
        inductionHypothesis isEntry]

theorem DelayedCloses.tasks_cancel_other
    {closes : DelayedCloses}
    (valid : closes.Valid)
    {authToken token : String}
    (other : token ≠ strip authToken) :
    (closes.cancel authToken).tasks.filter (·.authToken = token) =
      closes.tasks.filter (·.authToken = token) := by
  unfold DelayedCloses.cancel
  split
  · rfl
  · split
    · rfl
    · rename_i position isStored
      obtain ⟨task, isArmed, named⟩ := valid isStored
      have isOther : ¬ task.authToken = token := by
        rw [named]
        exact fun same => other same.symm
      have keepsToken : task.cancel.authToken = task.authToken := by
        unfold CloseTask.cancel
        split
        · rfl
        · rfl
      refine filter_modify_of_other isArmed.1 (decide_eq_false isOther) ?_
      rw [keepsToken]
      exact decide_eq_false isOther

namespace ClosingService

variable
    {service : ClosingService}
    {authToken token closeReason : String}
    {now : Int}

theorem view_cancelClose (other : token ≠ strip authToken) :
    (service.cancelClose authToken).view token = service.view token := by
  have sameLookup :
      (service.closes.cancel authToken).pending.lookup token =
        service.closes.pending.lookup token := by
    rw [DelayedCloses.lookup_cancel, if_neg fun both => other both.2]
  have sameTasks :=
    DelayedCloses.tasks_cancel_other @service.valid other
  unfold view cancelClose
  dsimp only
  rw [sameLookup, sameTasks]
  rfl

theorem discardToken_cases
    (other : token ≠ authToken)
    (stored : String × List String) :
    discardToken authToken stored = none ∧ token ∉ stored.2 ∨
      ∃ kept,
        discardToken authToken stored = some (stored.1, kept) ∧
          (token ∈ kept ↔ token ∈ stored.2) := by
  have keeps : token ∈ stored.2.filter (· ≠ authToken) ↔ token ∈ stored.2 := by
    simp [List.mem_filter, other]
  unfold discardToken
  dsimp only
  split
  · split
    · rename_i empty
      rw [empty] at keeps
      exact .inl ⟨rfl, fun member => List.not_mem_nil (keeps.mpr member)⟩
    · exact .inr ⟨_, rfl, keeps⟩
  · exact .inr ⟨_, rfl, Iff.rfl⟩

theorem agents_discardToken
    (other : token ≠ authToken)
    (agentTokens : List (String × List String)) :
    ((agentTokens.filterMap (discardToken authToken)).filter
        (token ∈ ·.2)).map Prod.fst =
      (agentTokens.filter (token ∈ ·.2)).map Prod.fst := by
  induction agentTokens with
  | nil =>
    rfl
  | cons stored rest inductionHypothesis =>
    rw [List.filterMap_cons]
    rcases discardToken_cases other stored with
      ⟨isNone, absent⟩ | ⟨kept, isSome, keeps⟩
    · rw [isNone, List.filter_cons_of_neg (by simpa using absent)]
      exact inductionHypothesis
    · rw [isSome]
      dsimp only
      rw [List.filter_cons, List.filter_cons]
      simp only [keeps]
      split
      · rw [List.map_cons, List.map_cons, inductionHypothesis]
      · exact inductionHypothesis

theorem lookup_rememberCloseReason
    (other : token ≠ strip authToken) :
    (service.rememberCloseReason authToken closeReason now).lookup token =
      service.closeReasons.lookup token := by
  unfold rememberCloseReason
  split
  · rfl
  · exact Dictionary.lookup_set_other other _ _

theorem authCookies_forgetSession
    (credentials : CredentialService)
    (other : token ≠ strip authToken) :
    (credentials.forgetSession authToken).memory.authCookies.lookup token =
      credentials.memory.authCookies.lookup token := by
  unfold CredentialService.forgetSession
  split
  · rfl
  · dsimp only
    rw [Dictionary.lookup_erase_other other]
    have noTunnels :
        (credentials.monitor.removed? authToken).elim []
            TrackedRdpSession.tunnelUuids = [] := by
      unfold RdpMonitor.removed?
      cases credentials.monitor.getSession authToken <;> rfl
    rw [noTunnels]
    rfl

theorem view_forgetSession (other : token ≠ strip authToken) :
    (service.forgetSession authToken closeReason now).view token =
      service.view token := by
  by_cases empty : strip authToken = ""
  · unfold forgetSession
    rw [if_pos empty]
  obtain ⟨isRemoved, sameTokens, sameCookies⟩ :=
    service.credentials.forgetSession_eq authToken
  have isOther : strip authToken ≠ token := fun same => other same.symm
  have sockets :
      (service.sockets.filter (·.authToken ≠ strip authToken)).filter
          (·.authToken = token) =
        service.sockets.filter (·.authToken = token) := by
    rw [List.filter_filter]
    refine List.filter_congr fun socket _ => ?_
    by_cases own : socket.authToken = token
    · simp [own, other]
    · simp [own]
  have closed :
      (service.sockets.filter (·.authToken = strip authToken)).filter
          (·.authToken = token) = [] := by
    rw [List.filter_eq_nil_iff]
    intro socket member
    have named := of_decide_eq_true (List.mem_filter.mp member).2
    rw [named]
    simpa using isOther
  unfold view tunnelsOf monitor forgetSession
  rw [if_neg empty]
  dsimp only
  rw [isRemoved, sameTokens, sameCookies,
    RdpMonitor.find?_removeSession_other other,
    RdpMonitor.primaryTunnel_removeSession_other other,
    RdpMonitor.boundTunnels_removeSession_other other,
    authCookies_forgetSession _ other, agents_discardToken other,
    lookup_rememberCloseReason other, sockets, List.filter_append, closed,
    List.append_nil]

theorem view_closeActiveStreams_iff :
    service.closeActiveStreams.view token = service.view token ↔
      ∀ stream ∈ service.activeStreams,
        stream.tunnelUuid ∉ service.tunnelsOf token := by
  have noneActive :
      service.activeStreams.filter
            (·.tunnelUuid ∈ service.tunnelsOf token) = [] ↔
        ∀ stream ∈ service.activeStreams,
          stream.tunnelUuid ∉ service.tunnelsOf token := by
    simp [List.filter_eq_nil_iff]
  rw [← noneActive]
  constructor
  · intro same
    exact (congrArg SessionView.activeStreams same).symm
  · intro isEmpty
    unfold view closeActiveStreams
    simp only [List.filter_append]
    rw [show
      ({ service with
          activeStreams := []
          closedStreams :=
            service.closedStreams ++ service.activeStreams } :
          ClosingService).tunnelsOf token = service.tunnelsOf token from
        rfl, isEmpty, List.append_nil]
    rfl

end ClosingService

/-! ### The steps of a call -/

namespace CloseRequest

variable
    {request : CloseRequest}
    {closeReason authToken : String}
    {service : ClosingService}
    {before after : ClosingCall}
    {event : ClosingEvent}

theorem strip_of_mem_authTokens
    {monitor : RdpMonitor}
    (member : authToken ∈ request.authTokens monitor) :
    strip authToken = authToken := by
  unfold authTokens at member
  cases request with
  | tracked authTokens =>
    cases authTokens with
    | none =>
      obtain ⟨session, _, rfl⟩ := List.mem_map.mp member
      exact session.clean
    | some authTokens =>
      obtain ⟨given, _, rfl⟩ :=
        List.mem_map.mp (List.mem_filter.mp member).1
      exact strip_strip given
  | owner agentId ownerSubject =>
    unfold Teardown.authTokens at member
    dsimp only at member
    split at member
    · cases member
    · cases found :
          (monitor.getSessionsForAgent agentId).find? fun session =>
            decide (session.ownerSubject = strip ownerSubject) with
      | none =>
        rw [found] at member
        cases member
      | some session =>
        rw [found] at member
        obtain rfl := List.mem_singleton.mp member
        exact session.clean

/-- Only sessions that are to be closed are still to be closed. -/
def Within
    (request : CloseRequest)
    (service : ClosingService)
    (call : ClosingCall) : Prop :=
  let closed := request.authTokens service.monitor
  match call.point with
  | .called => call.service = service
  | .closing remaining => remaining ⊆ closed
  | .invalidating authToken remaining =>
    authToken ∈ closed ∧ remaining ⊆ closed

theorem Within.step
    (within : request.Within service before)
    (stepped :
      ClosingCall.step? request closeReason before event = some after) :
    request.Within service after := by
  obtain ⟨current, point⟩ := before
  unfold ClosingCall.step? at stepped
  cases event with
  | begin =>
    cases point with
    | called =>
      obtain rfl : current = service := within
      dsimp only at stepped
      split at stepped
      · cases stepped
        exact List.Subset.refl _
      · cases stepped
        exact List.nil_subset _
    | closing remaining =>
      cases stepped
    | invalidating authToken remaining =>
      cases stepped
  | cancel =>
    cases point with
    | called =>
      cases stepped
    | closing remaining =>
      cases remaining with
      | nil =>
        cases stepped
      | cons authToken remaining =>
        cases stepped
        exact List.cons_subset.mp within
    | invalidating authToken remaining =>
      cases stepped
  | forget now =>
    cases point with
    | called =>
      cases stepped
    | closing remaining =>
      cases stepped
    | invalidating authToken remaining =>
      cases stepped
      exact within.2
  | elsewhere changed =>
    cases point with
    | called =>
      cases stepped
    | closing remaining | invalidating authToken remaining =>
      cases stepped
      exact within

/-- Closing all streams spares the sessions that are not closed exactly if no
stream of theirs is active. -/
theorem sparesStreams_iff :
    request.SparesStreams service ↔
      (request.closes service.monitor = true →
        ∀ authToken ∉ request.authTokens service.monitor,
          service.closeActiveStreams.view authToken =
            service.view authToken) := by
  unfold SparesStreams
  refine imp_congr_right fun _ => ?_
  simp only [ClosingService.view_closeActiveStreams_iff]
  unfold ClosingService.tunnelsOf
  constructor
  · intro spares authToken outside stream active member
    cases found : service.monitor.sessions.find? authToken with
    | none =>
      rw [found] at member
      cases member
    | some session =>
      rw [found] at member
      obtain ⟨stored, rfl⟩ :=
        service.monitor.sessions.find?_eq_some_iff.mp found
      exact outside (spares stream active session stored member)
  · intro spared stream active session stored member
    by_contra outside
    have found :
        service.monitor.sessions.find? session.authToken = some session :=
      service.monitor.sessions.find?_eq_some_iff.mpr ⟨stored, rfl⟩
    refine spared session.authToken outside stream active ?_
    rw [found]
    exact member

/-- A step of the call itself leaves the other sessions untouched. -/
theorem sparing_of_step
    (spares : request.SparesStreams service)
    (within : request.Within service before)
    (stepped : ClosingCall.step? request closeReason before event = some after)
    (isOwn : event.isOwn = true)
    {token : String}
    (outside : token ∉ request.authTokens service.monitor) :
    after.service.view token = before.service.view token := by
  obtain ⟨current, point⟩ := before
  -- The tokens that are closed are stripped, so `token` is none of them.
  have isOther :
      ∀ closed ∈ request.authTokens service.monitor, token ≠ strip closed := by
    rintro closed member rfl
    rw [strip_of_mem_authTokens member] at outside
    exact outside member
  unfold ClosingCall.step? at stepped
  cases event with
  | begin =>
    cases point with
    | called =>
      obtain rfl : current = service := within
      dsimp only at stepped
      split at stepped
      · rename_i closes
        cases stepped
        exact sparesStreams_iff.mp spares closes token outside
      · cases stepped
        rfl
    | closing remaining =>
      cases stepped
    | invalidating authToken remaining =>
      cases stepped
  | cancel =>
    cases point with
    | called =>
      cases stepped
    | closing remaining =>
      cases remaining with
      | nil =>
        cases stepped
      | cons authToken remaining =>
        cases stepped
        exact
          ClosingService.view_cancelClose
            (isOther authToken (List.cons_subset.mp within).1)
    | invalidating authToken remaining =>
      cases stepped
  | forget now =>
    cases point with
    | called =>
      cases stepped
    | closing remaining =>
      cases stepped
    | invalidating authToken remaining =>
      cases stepped
      exact ClosingService.view_forgetSession (isOther authToken within.1)
  | elsewhere changed =>
    cases isOwn

/--
A call leaves the sessions that it does not close untouched, whatever happens
meanwhile, if and only if none of them has an active stream when it begins.
-/
theorem selective_iff_sparesStreams
    (request : CloseRequest)
    (closeReason : String)
    (service : ClosingService) :
    request.Selective closeReason service ↔ request.SparesStreams service := by
  constructor
  · intro selective
    refine sparesStreams_iff.mpr fun closes authToken outside => ?_
    have begun :
        Fires (ClosingCall.step? request closeReason) { service } .begin
          { service := service.closeActiveStreams
            point := .closing (request.authTokens service.monitor) } :=
      if_pos closes
    cases selective _ _ (.single begun) with
    | cons taken _ =>
      obtain rfl := Option.some.inj (begun.symm.trans taken.1)
      exact taken.2 rfl authToken outside
  · intro spares events reached run
    have agree :
        ∀ before event after,
          request.Within service before →
          (Fires (ClosingCall.step? request closeReason) before event
              after ↔
            request.SparingStep closeReason service before event after) :=
      fun _ _ _ within =>
        ⟨fun stepped =>
          ⟨stepped, fun isOwn _ outside =>
            sparing_of_step spares within stepped isOwn outside⟩,
          And.left⟩
    have stepPreserves :
        ∀ before event after,
          Fires (ClosingCall.step? request closeReason) before event after →
          request.Within service before →
          request.Within service after :=
      fun _ _ _ stepped within => within.step stepped
    have start : request.Within service { service } := rfl
    exact (Run.congr agree stepPreserves start).mp run

/-- Two users have a session each, and the second one reads a tunnel. -/
def streaming : ClosingService where
  credentials :=
    { monitor :=
        ((({} : RdpMonitor).registerSession
            { authToken := "token-1"
              agentId := "agent-1"
              owner := some { subject := "alice" } } 10).registerSession
            { authToken := "token-2"
              agentId := "agent-1"
              owner := some { subject := "bob" } } 20).addTunnel
          "token-2" "tunnel-2" 20 }
  activeStreams := [⟨"tunnel-2", 0⟩]

/-- The first session is closed, and the stream of the second one with it. -/
theorem not_allSelective : ¬ AllSelective := by
  intro claimed
  have begun :
      Fires
        (ClosingCall.step? (.tracked (some ["token-1"])) "Operator terminated")
        { service := streaming } .begin
        { service := streaming.closeActiveStreams
          point :=
            .closing
              (authTokens streaming.monitor
                (.tracked (some ["token-1"]))) } :=
    rfl
  cases claimed _ _ _ _ _ (.single begun) with
  | cons taken _ =>
    obtain rfl := Option.some.inj (begun.symm.trans taken.1)
    have same := taken.2 rfl "token-2" (by decide +kernel)
    have lost := congrArg SessionView.activeStreams same
    revert lost
    decide +kernel

end CloseRequest

end RpaPlatform.Agents
