import RpaPlatform.ForgottenTokens

namespace RpaPlatform.Agents

open Transition

/-!
# Sessions that are reused

`create_client_session` hands an existing session out again unless the request
differs from it in the agent or in the connection.  The user on the machine is
not compared, and is written into the record of the session each time.

Next to the sessions this module keeps what each of them was created for in
Guacamole, by its token.
-/

/-- What a session was created for. -/
structure SessionOrigin where
  agentId : String
  /-- The connection that Guacamole has answered with. -/
  connectionId : String
  /-- The user on the machine. -/
  username : String

namespace SessionOrigin

variable (origin : SessionOrigin)

/-- A tracked session says what it was created for. -/
structure Matches (session : TrackedRdpSession) : Prop where
  agentId : session.agentId = strip origin.agentId
  connectionId : session.connectionId = strip origin.connectionId
  username : session.username = strip origin.username

/-- A session that is handed out was created for what is requested. -/
structure Serves
    (request : ClientSessionRequest)
    (authToken : String) : Prop where
  agentId : strip origin.agentId = strip request.agentId
  connectionId :
    strip request.connectionId ≠ "" →
    strip request.resumeAuthToken ≠ authToken →
    strip origin.connectionId = strip request.connectionId
  username :
    strip request.vmUsername ≠ "" →
    strip origin.username = strip request.vmUsername

end SessionOrigin

/-- The sessions, and what they were created for. -/
structure RequestingService where
  forgetting : ForgettingService := {}
  origins : List (String × SessionOrigin) := []

namespace RequestingService

variable (sys : RequestingService)

def service : SessionService :=
  sys.forgetting.service

def monitor : RdpMonitor :=
  sys.service.monitor

/-- Note what a session is created for that Guacamole issues. -/
def noteOrigin : GuacamoleAction → List (String × SessionOrigin)
  | .issue call answer _ =>
    match sys.service.calls[call]? with
    | none => sys.origins
    | some created =>
      Dictionary.set (strip answer.authToken)
        { agentId := created.request.agentId
          connectionId := answer.connectionId
          username := created.username }
        sys.origins
  | _ => sys.origins

/-- Take a step, if it can be taken. -/
def step?
    (sys : RequestingService)
    (action : GuacamoleAction) : Option RequestingService :=
  (sys.forgetting.step? action).map fun forgetting =>
    { forgetting, origins := sys.noteOrigin action }

/--
Guacamole issues no token of a session that is tracked, and no thread stores a
session: a request binds tunnels only to the session that it has registered.
-/
def OfRequests : GuacamoleAction → Prop
  | .issue _ answer _ => ¬ sys.monitor.Tracks (strip answer.authToken)
  | .bindUntracked _ _ => False
  | _ => True

/-- A session that is reused was created for what is requested. -/
def Respects : GuacamoleAction → Prop
  | .reuse call _ =>
    ∀ created ∈ sys.service.calls[call]?,
      ∀ session ∈ created.point.reused?,
        ∃ origin,
          sys.origins.lookup session.authToken = some origin ∧
            origin.Serves created.request session.authToken
  | _ => True

/-- The users that are recorded are those the sessions were created for. -/
def Recorded : Prop :=
  ∀ session ∈ sys.monitor.sessions.rows,
    ∃ origin,
      sys.origins.lookup session.authToken = some origin ∧
        session.username = strip origin.username

def RequestStep :
    RequestingService → GuacamoleAction → RequestingService → Prop :=
  Guarded (Fires step?) OfRequests

/-- The steps that respect the requests. -/
def RespectfulStep
    (before : RequestingService)
    (action : GuacamoleAction)
    (after : RequestingService) : Prop :=
  RequestStep before action after ∧ before.Respects action ∧ after.Recorded

def ReuseRespectsRequests : Prop :=
  ∀ actions sys,
    Run RequestStep {} actions sys → Run RespectfulStep {} actions sys

/--
The condition under which a session is reused as requested: the request names
no user on the machine, or the one in the record of the session.
-/
def SameUser : GuacamoleAction → Prop
  | .reuse call _ =>
    ∀ created ∈ sys.service.calls[call]?,
      ∀ session ∈ created.point.reused?,
        created.username = "" ∨ created.username = session.username
  | _ => True

end RequestingService

/-! ### What holds of all sessions -/

namespace RdpMonitor

def All (monitor : RdpMonitor) (property : TrackedRdpSession → Prop) : Prop :=
  ∀ session ∈ monitor.sessions.rows, property session

/-- A property that neither activity nor tunnels change. -/
def Lasting (property : TrackedRdpSession → Prop) : Prop :=
  ∀ session tunnelUuids lastActivityAt,
    property session →
    property { session with tunnelUuids, lastActivityAt }

variable
    {monitor : RdpMonitor}
    {property : TrackedRdpSession → Prop}
    {authToken tunnelUuid : String}
    {now : Int}

section Keeping

variable
    (all : monitor.All property)
include all

theorem All.modifySession
    {change : TrackedRdpSession → TrackedRdpSession}
    (keepsToken : ∀ session, (change session).authToken = session.authToken)
    (keeps : ∀ session, property session → property (change session)) :
    (monitor.modifySession authToken change keepsToken).All property := by
  intro session member
  have member :
      session ∈
        (monitor.sessions.modify (strip authToken) change keepsToken).rows :=
    member
  rcases KeyedTable.mem_rows_modify member with
    earlier | ⟨stored, isStored, _, rfl⟩
  · exact all session earlier
  · exact keeps stored (all stored isStored)

theorem All.touchAuthToken
    (lasting : Lasting property) :
    (monitor.touchAuthToken authToken now).All property := by
  unfold RdpMonitor.touchAuthToken
  refine all.modifySession _ fun session => ?_
  exact lasting session session.tunnelUuids now

theorem All.addTunnel
    (lasting : Lasting property) :
    (monitor.addTunnel authToken tunnelUuid now).All property := by
  have modified :
      (monitor.modifySession authToken
        (fun session =>
          { session with
            tunnelUuids := session.tunnelUuids.insert (strip tunnelUuid)
            lastActivityAt := now })
        fun _ => rfl).All property := by
    refine all.modifySession _ fun session => ?_
    exact lasting session (session.tunnelUuids.insert (strip tunnelUuid)) now
  unfold RdpMonitor.addTunnel
  exact modified

theorem All.touchTunnel
    (lasting : Lasting property) :
    (monitor.touchTunnel tunnelUuid now).All property := by
  unfold RdpMonitor.touchTunnel
  split
  · exact all
  · split
    · exact all
    · rename_i owner _
      split
      · exact all
      · change (monitor.touchAuthToken owner now).All property
        exact all.touchAuthToken lasting

theorem All.releaseTunnel
    (lasting : Lasting property) :
    (monitor.releaseTunnel tunnelUuid).All property := by
  unfold RdpMonitor.releaseTunnel
  dsimp only
  split
  · exact all
  · split
    · exact all
    · rename_i owner _
      have modified :
          (monitor.modifySession owner
            (fun session =>
              { session with
                tunnelUuids :=
                  session.tunnelUuids.erase (strip tunnelUuid) })
            fun _ => rfl).All property := by
        refine all.modifySession _ fun session => ?_
        exact
          lasting session (session.tunnelUuids.erase (strip tunnelUuid))
            session.lastActivityAt
      unfold All
      rw [sessions_releaseFrom]
      exact modified

theorem All.releaseAllTunnels
    (lasting : Lasting property) :
    (monitor.releaseAllTunnels authToken).All property := by
  unfold RdpMonitor.releaseAllTunnels
  split
  · exact all
  · rename_i session _
    generalize sortedTunnels session = tunnels
    have released :
        ∀ before : RdpMonitor,
          before.All property →
          (tunnels.foldl RdpMonitor.releaseTunnel before).All property := by
      induction tunnels with
      | nil =>
        exact fun _ earlier => earlier
      | cons tunnel rest inductionHypothesis =>
        exact fun before earlier =>
          inductionHypothesis (before.releaseTunnel tunnel)
            (earlier.releaseTunnel lasting)
    exact released monitor all

end Keeping

theorem All.removeSession (all : monitor.All property) :
    (monitor.removeSession authToken).All property := by
  unfold RdpMonitor.removeSession
  split
  · exact all
  · exact fun session member => all session (List.mem_filter.mp member).1

/-- A session that is registered is new, or what it was with what is given. -/
theorem all_registerSession
    {registration : Registration}
    (others :
      ∀ session ∈ monitor.sessions.rows,
        session.authToken ≠ strip registration.authToken →
        property session)
    (created :
      ∀ named,
        ¬ monitor.Tracks (strip registration.authToken) →
        property (registration.created now named))
    (renewed :
      ∀ session ∈ monitor.sessions.rows,
        session.authToken = strip registration.authToken →
        property (registration.renewed now session)) :
    (monitor.registerSession registration now).All property := by
  unfold RdpMonitor.registerSession
  split
  · rename_i unnamed
    intro session member
    refine others session member ?_
    rw [unnamed]
    exact session.nonempty
  · rename_i named
    intro session member
    have found := (KeyedTable.find?_eq_some_iff _).mpr ⟨member, rfl⟩
    dsimp only at found
    rw [KeyedTable.find?_upsert] at found
    split at found
    · rename_i isToken
      have isToken : strip registration.authToken = session.authToken :=
        isToken
      rw [← isToken] at found
      cases tracked : monitor.sessions.find? (strip registration.authToken) with
      | none =>
        rw [tracked] at found
        cases found
        refine created named ?_
        unfold Tracks
        rw [tracked]
        exact Bool.false_ne_true
      | some earlier =>
        rw [tracked] at found
        cases found
        obtain ⟨stored, isStored⟩ :=
          monitor.sessions.find?_eq_some_iff.mp tracked
        exact renewed earlier stored isStored
    · rename_i isOther
      obtain ⟨stored, isStored⟩ :=
        monitor.sessions.find?_eq_some_iff.mp found
      exact others session stored fun same => isOther same.symm

end RdpMonitor

theorem ClientSessionPoint.reused?_eq_some_iff
    {point : ClientSessionPoint}
    {session : TrackedRdpSession} :
    point.reused? = some session ↔ point = .reusing session := by
  unfold ClientSessionPoint.reused?
  split
  · simp
  · rename_i notReusing
    simp only [reduceCtorEq, false_iff]
    exact notReusing session

/-! ### What the records say -/

/-- There is an origin of a session, and its record matches it. -/
def Mirrors
    (origins : List (String × SessionOrigin))
    (session : TrackedRdpSession) : Prop :=
  ∃ origin,
    origins.lookup session.authToken = some origin ∧ origin.Matches session

theorem lasting_mirrors (origins : List (String × SessionOrigin)) :
    RdpMonitor.Lasting (Mirrors origins) := by
  rintro session _ _ ⟨origin, isOrigin, isSame⟩
  exact ⟨origin, isOrigin, isSame.agentId, isSame.connectionId, isSame.username⟩

/-- What is known of a call that is about to reuse a session. -/
structure Chosen
    (origins : List (String × SessionOrigin))
    (created : ClientSessionCall)
    (session : TrackedRdpSession) : Prop where
  mirrors : Mirrors origins session
  kept : created.request.replaces session = false
  resolved :
    ∃ username,
      created.username =
        orText (strip created.request.vmUsername) (strip username)

namespace Chosen

variable
    {origins : List (String × SessionOrigin)}
    {created : ClientSessionCall}
    {session : TrackedRdpSession}

theorem agentId (chosen : Chosen origins created session) :
    session.agentId = created.request.agentId := by
  have kept := chosen.kept
  unfold ClientSessionRequest.replaces at kept
  simp only [Bool.or_eq_false_iff, decide_eq_false_iff_not, not_not] at kept
  exact kept.1.2

theorem connectionId
    (chosen : Chosen origins created session)
    (requested : strip created.request.connectionId ≠ "")
    (notResumed : strip created.request.resumeAuthToken ≠ session.authToken) :
    session.connectionId = strip created.request.connectionId := by
  have kept := chosen.kept
  unfold ClientSessionRequest.replaces at kept
  rw [session.clean] at kept
  by_contra different
  have others : ¬ strip created.request.connectionId =
      session.connectionId := fun same => different same.symm
  have otherToken : ¬ session.authToken =
      strip created.request.resumeAuthToken :=
    fun same => notResumed same.symm
  simp [requested, others, otherToken] at kept

theorem strip_username (chosen : Chosen origins created session) :
    strip created.username = created.username := by
  obtain ⟨username, isResolved⟩ := chosen.resolved
  rw [isResolved]
  unfold orText
  split
  · exact strip_strip _
  · exact strip_strip username

theorem username_of_requested
    (chosen : Chosen origins created session)
    (requested : strip created.request.vmUsername ≠ "") :
    created.username = strip created.request.vmUsername := by
  obtain ⟨username, isResolved⟩ := chosen.resolved
  rw [isResolved]
  exact if_pos requested

end Chosen

/-- What a session that is reused is registered with. -/
def reusedRegistration
    (created : ClientSessionCall)
    (session : TrackedRdpSession) : Registration where
  authToken := session.authToken
  agentId := created.request.agentId
  connectionId := session.connectionId
  dataSource := session.dataSource
  username := orText created.username session.username
  owner := created.request.trackedOwner

section Reuse

variable
    {origins : List (String × SessionOrigin)}
    {service : SessionService}
    {created : ClientSessionCall}
    {session : TrackedRdpSession}
    {now : Int}

theorem reuse_eq :
    service.reuse created.request created.username session now =
      let registered :=
        service.monitor.registerSession (reusedRegistration created session) now
      if created.request.refreshTunnel then
        registered.releaseAllTunnels session.authToken
      else
        registered :=
  rfl

theorem all_reuse
    {property : TrackedRdpSession → Prop}
    (lasting : RdpMonitor.Lasting property)
    (others :
      ∀ other ∈ service.monitor.sessions.rows,
        other.authToken ≠ session.authToken → property other)
    (registered :
      ∀ named,
        property ((reusedRegistration created session).created now named))
    (renewed :
      ∀ earlier ∈ service.monitor.sessions.rows,
        earlier.authToken = session.authToken →
        property ((reusedRegistration created session).renewed now earlier)) :
    (service.reuse created.request created.username session now).All
      property := by
  have isToken :
      strip (reusedRegistration created session).authToken =
        session.authToken :=
    session.clean
  have all :
      (service.monitor.registerSession (reusedRegistration created session)
        now).All property := by
    refine
      RdpMonitor.all_registerSession ?_ (fun named _ => registered named) ?_
    · rw [isToken]
      exact others
    · rw [isToken]
      exact renewed
  rw [reuse_eq]
  dsimp only
  split
  · exact all.releaseAllTunnels lasting
  · exact all

theorem orText_self (text : String) : orText text text = text := by
  unfold orText
  split <;> rfl

/-- The user that is registered, if the request resolves to none or to the
one in the record. -/
theorem orText_same
    {text recorded : String}
    (same : text = "" ∨ text = recorded) : orText text recorded = recorded := by
  rcases same with rfl | rfl
  · rfl
  · exact orText_self _

theorem mirrors_reuse
    (records : service.monitor.All (Mirrors origins))
    (chosen : Chosen origins created session)
    (same : created.username = "" ∨ created.username = session.username) :
    (service.reuse created.request created.username session now).All
      (Mirrors origins) := by
  obtain ⟨origin, isOrigin, isSame⟩ := chosen.mirrors
  have agentId : strip created.request.agentId = strip origin.agentId := by
    rw [← chosen.agentId, isSame.agentId, strip_strip]
  have connectionId :
      strip session.connectionId = strip origin.connectionId := by
    rw [isSame.connectionId, strip_strip]
  have username :
      strip (reusedRegistration created session).username =
        strip origin.username := by
    unfold reusedRegistration
    dsimp only
    rw [orText_same same, isSame.username, strip_strip]
  refine all_reuse (lasting_mirrors origins) (fun other member _ =>
    records other member) ?_ ?_
  · intro named
    refine ⟨origin, ?_, agentId, connectionId, username⟩
    unfold Registration.created reusedRegistration
    dsimp only
    rw [session.clean, isOrigin]
  · intro earlier member isToken
    obtain ⟨other, isOther, mirrored⟩ := records earlier member
    rw [isToken, isOrigin] at isOther
    cases isOther
    refine ⟨origin, ?_, ?_, ?_, ?_⟩
    · rw [Registration.authToken_renewed, isToken, isOrigin]
    · unfold Registration.renewed reusedRegistration
      dsimp only
      rw [agentId, mirrored.agentId, orText_self]
    · unfold Registration.renewed reusedRegistration
      dsimp only
      rw [connectionId, mirrored.connectionId, orText_self]
    · unfold Registration.renewed
      dsimp only
      rw [username, mirrored.username, orText_self]

theorem username_reuse
    (chosen : Chosen origins created session)
    (resolved : created.username ≠ "") :
    (service.reuse created.request created.username session now).All
      fun row =>
        row.authToken = session.authToken →
        row.username = created.username := by
  have chosenUser :
      strip (reusedRegistration created session).username =
        created.username := by
    unfold reusedRegistration
    dsimp only
    rw [show orText created.username session.username = created.username
      from if_pos resolved, chosen.strip_username]
  refine all_reuse (fun _ _ _ holds => holds) ?_ ?_ ?_
  · exact fun other _ different same => absurd same different
  · exact fun _ _ => chosenUser
  · intro earlier _ _ _
    unfold Registration.renewed
    dsimp only
    rw [chosenUser]
    exact if_pos resolved

end Reuse

/-! ### The steps -/

/-- Whether a step registers a session. -/
def GuacamoleAction.isRegistering : GuacamoleAction → Bool
  | reuse _ _ => true
  | issue _ _ _ => true
  | bindUntracked _ _ => true
  | _ => false

/-- Other steps change activity and tunnels, and remove sessions. -/
theorem all_guacamoleStep
    {property : TrackedRdpSession → Prop}
    (lasting : RdpMonitor.Lasting property)
    {before after : SessionService}
    {action : GuacamoleAction}
    (all : before.monitor.All property)
    (stepped : guacamoleStep? before action = some after)
    (registersNone : action.isRegistering = false) :
    after.monitor.All property := by
  rcases guacamoleStep_cases stepped with
    ⟨call, created, _, _, stepped⟩ | ⟨request, _, rfl⟩ | stepped
  · cases clientSessionTaken stepped with
    | reused | issuedNothing | issued =>
      cases registersNone
    | invalidated =>
      exact all.removeSession
    | _ =>
      exact all
  · exact all
  · unfold trackingStep? at stepped
    split at stepped
    case h_1 | h_3 =>
      cases stepped
      exact all
    case h_2 =>
      split at stepped
      · cases stepped
        exact all.removeSession
      · cases stepped
    case h_4 =>
      split at stepped
      · cases stepped
      · split at stepped
        · cases stepped
          exact all.addTunnel lasting
        · cases stepped
          exact all
    case h_5 =>
      cases registersNone
    case h_6 =>
      cases stepped
      exact all.touchAuthToken lasting
    case h_7 =>
      cases stepped
      exact all.touchTunnel lasting
    case h_8 =>
      cases stepped
      exact all.releaseTunnel lasting
    case h_9 =>
      cases stepped

namespace RequestingService

/-- What holds between the steps. -/
structure Faithful (sys : RequestingService) : Prop where
  records : sys.monitor.All (Mirrors sys.origins)
  chosen :
    ∀ {call : Nat} {created : ClientSessionCall}
        {session : TrackedRdpSession},
      sys.service.calls[call]? = some created →
      created.point = .reusing session →
      Chosen sys.origins created session

variable
    {before after : RequestingService}
    {action : GuacamoleAction}
    {call : Nat}
    {now : Int}

theorem step_cases
    (stepped : step? before action = some after) :
    (before.service.isReusing = false ∨ action.onThread = true ∨
        action.isReuse = true) ∧
      guacamoleStep? before.service action = some after.service ∧
      after.origins = before.noteOrigin action := by
  obtain ⟨forgetting, taken, rfl⟩ := Option.map_eq_some_iff.mp stepped
  obtain ⟨allowed, fired, _⟩ := ForgettingService.step_cases taken
  exact ⟨allowed, fired, rfl⟩

theorem reuse_cases
    (fired :
      guacamoleStep? before.service (.reuse call now) = some after.service) :
    ∃ created session,
      before.service.calls[call]? = some created ∧
        created.point = .reusing session ∧
        after.monitor =
          before.service.reuse created.request created.username session
            now := by
  obtain ⟨created, found, stepped⟩ := Option.bind_eq_some_iff.mp fired
  generalize isAfter : after.service = service at stepped
  cases clientSessionTaken stepped with
  | @reused _ _ session isPoint =>
    refine ⟨created, session, found, isPoint, ?_⟩
    unfold monitor
    rw [isAfter]
    rfl

/-- A session that is issued is recorded with its origin. -/
theorem records_issue
    {answer : IssuedSession}
    (records : before.monitor.All (Mirrors before.origins))
    (fresh : ¬ before.monitor.Tracks (strip answer.authToken))
    (fired :
      guacamoleStep? before.service (.issue call answer now) =
        some after.service)
    (noted : after.origins = before.noteOrigin (.issue call answer now)) :
    after.monitor.All (Mirrors after.origins) := by
  obtain ⟨created, found, stepped⟩ := Option.bind_eq_some_iff.mp fired
  unfold noteOrigin at noted
  dsimp only at noted
  rw [found] at noted
  dsimp only at noted
  have isOrigin :
      after.origins.lookup (strip answer.authToken) =
        some
          { agentId := created.request.agentId
            connectionId := answer.connectionId
            username := created.username } := by
    rw [noted]
    exact Dictionary.lookup_set_self _ _ _
  -- The sessions that are tracked already have other tokens.
  have others : before.monitor.All (Mirrors after.origins) := by
    intro session member
    have different : session.authToken ≠ strip answer.authToken := by
      intro same
      rw [← same] at fresh
      exact fresh (tracks_of_member member)
    obtain ⟨origin, isOrigin, isSame⟩ := records session member
    refine ⟨origin, ?_, isSame⟩
    rw [noted, Dictionary.lookup_set_other different, isOrigin]
  generalize isAfter : after.service = service at stepped
  unfold monitor
  rw [isAfter]
  cases clientSessionTaken stepped with
  | issuedNothing =>
    exact others
  | issued =>
    refine
      RdpMonitor.all_registerSession (fun session member _ =>
        others session member) ?_ ?_
    · intro _ _
      refine ⟨_, isOrigin, ?_⟩
      constructor
      · rfl
      · rfl
      · rfl
    · intro session member isToken
      rw [← isToken] at fresh
      exact absurd (tracks_of_member member) fresh

theorem origins_of_harmless
    (noted : after.origins = before.noteOrigin action)
    (harmless : action.onThread = true ∨ action.isReuse = true) :
    after.origins = before.origins := by
  cases action with
  | issue call answer now =>
    simp [GuacamoleAction.onThread, GuacamoleAction.isReuse] at harmless
  | _ =>
    exact noted

theorem Faithful.records_of_step
    (faithful : before.Faithful)
    (taken : RequestStep before action after)
    (same : before.SameUser action) :
    after.monitor.All (Mirrors after.origins) := by
  obtain ⟨_, fired, noted⟩ := step_cases taken.1
  cases action with
  | issue call answer now =>
    exact records_issue faithful.records taken.2 fired noted
  | bindUntracked thread now =>
    exact taken.2.elim
  | reuse call now =>
    obtain ⟨created, session, found, isPoint, isRegistered⟩ :=
      reuse_cases fired
    rw [show after.origins = before.origins from noted, isRegistered]
    refine mirrors_reuse faithful.records (faithful.chosen found isPoint) ?_
    refine same created found session ?_
    rw [isPoint]
    rfl
  | _ =>
    rw [show after.origins = before.origins from noted]
    exact
      all_guacamoleStep (lasting_mirrors before.origins) faithful.records
        fired rfl

theorem Faithful.step
    (faithful : before.Faithful)
    (taken : RequestStep before action after)
    (same : before.SameUser action) : after.Faithful where
  records := faithful.records_of_step taken same
  chosen := by
    intro call created session found isPoint
    obtain ⟨allowed, fired, noted⟩ := step_cases taken.1
    rcases reusing_of_step fired found isPoint with
      earlier | ⟨isExisting, isKept, isResolved⟩
    · have isReusing :=
        ForgettingService.isReusing_of_point earlier isPoint
      rcases allowed with notReusing | harmless
      · rw [isReusing] at notReusing
        cases notReusing
      · rw [origins_of_harmless noted harmless]
        exact faithful.chosen earlier isPoint
    · refine ⟨?_, isKept, isResolved⟩
      exact
        faithful.records_of_step taken same session
          (member_of_existing isExisting)

theorem Faithful.respects
    (faithful : before.Faithful)
    (same : before.SameUser action) : before.Respects action := by
  cases action with
  | reuse call now =>
    intro created found session isReused
    have chosen :=
      faithful.chosen found (ClientSessionPoint.reused?_eq_some_iff.mp isReused)
    obtain ⟨origin, isOrigin, isSame⟩ := chosen.mirrors
    refine ⟨origin, isOrigin, ?_, ?_, ?_⟩
    · rw [← chosen.agentId, isSame.agentId, strip_strip]
    · intro requested notResumed
      rw [← isSame.connectionId]
      exact chosen.connectionId requested notResumed
    · intro requested
      have isRequested := chosen.username_of_requested requested
      rw [← isSame.username, ← isRequested]
      rcases same created found session isReused with unset | isSession
      · rw [isRequested] at unset
        exact absurd unset requested
      · exact isSession.symm
  | _ =>
    trivial

theorem Faithful.sameUser
    (faithful : before.Faithful)
    (taken : RequestStep before action after)
    (recorded : after.Recorded) : before.SameUser action := by
  obtain ⟨_, fired, noted⟩ := step_cases taken.1
  cases action with
  | reuse call now =>
    intro created found session isReused
    refine or_iff_not_imp_left.mpr fun resolved => ?_
    obtain ⟨registered, chosenSession, isCall, isPoint, isAfter⟩ :=
      reuse_cases fired
    obtain rfl := Option.some.inj (isCall.symm.trans found)
    rw [isPoint] at isReused
    obtain rfl := Option.some.inj isReused
    have chosen := faithful.chosen isCall isPoint
    have tracks :
        (before.service.reuse registered.request registered.username
          chosenSession now).Tracks chosenSession.authToken :=
      tracks_reuse.mpr (.inl ⟨chosenSession.clean, chosenSession.nonempty⟩)
    obtain ⟨row, isRow⟩ := Option.isSome_iff_exists.mp tracks
    obtain ⟨member, isToken⟩ :=
      (KeyedTable.find?_eq_some_iff _).mp isRow
    have isUser := username_reuse chosen resolved row member isToken
    rw [← isAfter] at member
    obtain ⟨origin, isOrigin, isOriginal⟩ := recorded row member
    rw [show after.origins = before.origins from noted, isToken] at isOrigin
    obtain ⟨other, isOther, isSame⟩ := chosen.mirrors
    obtain rfl := Option.some.inj (isOrigin.symm.trans isOther)
    rw [← isUser, isOriginal, isSame.username]
  | _ =>
    trivial

theorem faithful_started : ({} : RequestingService).Faithful where
  records _ member := absurd member List.not_mem_nil
  chosen found := by
    cases found

/--
In a run sessions are reused as requested, and recorded as they were created,
if and only if every request that reuses one resolves to the user in its
record, or to none.
-/
theorem respectful_iff_sameUser
    (actions : List GuacamoleAction)
    (sys : RequestingService) :
    Run RespectfulStep {} actions sys ↔
      Run (Guarded RequestStep SameUser) {} actions sys := by
  have agree :
      ∀ before action after,
        Faithful before →
        (RespectfulStep before action after ↔
          Guarded RequestStep SameUser before action after) := by
    intro before action after faithful
    constructor
    · rintro ⟨taken, _, recorded⟩
      exact ⟨taken, faithful.sameUser taken recorded⟩
    · rintro ⟨taken, same⟩
      refine ⟨taken, faithful.respects same, fun session member => ?_⟩
      obtain ⟨origin, isOrigin, isSame⟩ :=
        faithful.records_of_step taken same session member
      exact ⟨origin, isOrigin, isSame.username⟩
  have stepPreserves :
      ∀ before action after,
        RespectfulStep before action after →
        Faithful before →
        Faithful after :=
    fun _ _ _ taken faithful =>
      faithful.step taken.1 (faithful.sameUser taken.1 taken.2.2)
  exact Run.congr agree stepPreserves faithful_started

instance (sys : RequestingService) :
    (action : GuacamoleAction) → Decidable (sys.OfRequests action)
  | .issue _ answer _ =>
    inferInstanceAs
      (Decidable
        (¬ (sys.monitor.sessions.find? (strip answer.authToken)).isSome = true))
  | .bindUntracked _ _ => inferInstanceAs (Decidable False)
  | .request _ | .choose _ _ | .reuse _ _ | .invalidated _ | .closed _
  | .opened _ _ | .fail _ | .teardown _ | .forget _ | .abandon _
  | .bindTunnel _ _ _ | .touch _ _ | .touchTunnel _ _
  | .releaseTunnel _ => inferInstanceAs (Decidable True)

/-- A request of a user of the platform for a user on a machine. -/
def requestFor (vmUsername : String) : ClientSessionRequest where
  agentId := "agent-1"
  user := some { subject := "alice" }
  vmUsername := vmUsername

/-- A session is created for one user, and requested for another one. -/
def requestedTwice : List GuacamoleAction :=
  [.request (requestFor "user-1"), .choose 0 "",
    .issue 0 { authToken := "token-1", connectionId := "7" } 10,
    .opened 0 "", .request (requestFor "user-2"), .choose 1 "",
    .reuse 1 20]

/-- The second request gets the session of the first user, and the record
names the second one. -/
theorem not_reuseRespectsRequests : ¬ ReuseRespectsRequests := by
  intro claimed
  obtain ⟨sys, checkedRun, overwritten⟩ :=
    exists_run_of_execute
      (show
        (execute (checked step? OfRequests) {} requestedTwice).any
            (fun sys =>
              decide
                (sys.monitor.sessions.rows.map
                    TrackedRdpSession.username = ["user-2"]) &&
                decide (sys.origins.map (·.2.username) = ["user-1"])) =
          true by
        decide +kernel)
  have respectful := claimed _ _ checkedRun.guarded_of_checked
  have recorded : sys.Recorded := by
    refine respectful.preserves (fun _ _ _ taken _ => taken.2.2) ?_
    exact fun session member => absurd member List.not_mem_nil
  rw [Bool.and_eq_true, decide_eq_true_eq, decide_eq_true_eq] at overwritten
  obtain ⟨isRecord, isOrigin⟩ := overwritten
  obtain ⟨session, rows, isUser⟩ :
      ∃ session,
        session ∈ sys.monitor.sessions.rows ∧ session.username = "user-2" := by
    rw [← List.mem_map, isRecord]
    exact List.mem_singleton_self _
  obtain ⟨origin, found, isCreated⟩ := recorded session rows
  have named : origin.username ∈ sys.origins.map (·.2.username) :=
    List.mem_map.mpr ⟨_, Dictionary.mem_of_lookup found, rfl⟩
  rw [isOrigin, List.mem_singleton] at named
  rw [isUser, named] at isCreated
  revert isCreated
  decide +kernel

end RequestingService

end RpaPlatform.Agents
