import RpaPlatform.GuacamoleConnection

namespace RpaPlatform.Agents

/-!
# The sessions that are tracked

`RdpMonitorService`: the sessions that are open in Guacamole, by the token that
they were issued, with the user who opened them and the tunnels that are bound
to them.  Tokens and the fields of an owner are stored stripped.
-/

/-- A record of texts with every text stripped. -/
def RecordingOwner.strip (owner : RecordingOwner) : RecordingOwner where
  username := Agents.strip owner.username
  displayName := Agents.strip owner.displayName
  email := Agents.strip owner.email
  subject := Agents.strip owner.subject

/-- `TrackedRdpSession`; its token is stripped, and not empty. -/
structure TrackedRdpSession where
  authToken : String
  agentId : String := ""
  connectionId : String := ""
  dataSource : String := ""
  createdAt : Int
  lastActivityAt : Int
  username : String := ""
  owner : Option RecordingOwner := none
  tunnelUuids : List String := []
  clean : strip authToken = authToken
  nonempty : authToken ≠ ""

namespace TrackedRdpSession

/-- `_get_owner_subject`. -/
def ownerSubject (session : TrackedRdpSession) : String :=
  strip ((session.owner.map RecordingOwner.subject).getD "")

/-- Whether a session is later than another one. -/
def later (session other : TrackedRdpSession) : Bool :=
  decide (other.lastActivityAt < session.lastActivityAt) ||
    (decide (other.lastActivityAt = session.lastActivityAt) &&
      decide (other.createdAt < session.createdAt))

/-- The first of the latest sessions. -/
def latest? : List TrackedRdpSession → Option TrackedRdpSession
  | [] =>
    none
  | session :: rest =>
    some
      (rest.foldl
        (fun best next => if next.later best then next else best)
        session)

theorem latest?_eq_none_iff
    {sessions : List TrackedRdpSession} :
    latest? sessions = none ↔ sessions = [] := by
  cases sessions with
  | nil | cons =>
    simp [latest?]

theorem mem_of_latest?
    {sessions : List TrackedRdpSession}
    {session : TrackedRdpSession}
    (isLatest : latest? sessions = some session) :
    session ∈ sessions := by
  cases sessions with
  | nil =>
    cases isLatest
  | cons first rest =>
    cases isLatest
    induction rest generalizing first with
    | nil =>
      exact List.mem_singleton_self first
    | cons next rest inductionHypothesis =>
      rw [List.foldl_cons]
      split
      · exact List.mem_cons_of_mem _ (inductionHypothesis next)
      · rcases List.mem_cons.mp (inductionHypothesis first) with
          isFirst | isLater
        · exact List.mem_cons.mpr (.inl isFirst)
        · exact List.mem_cons_of_mem _ (List.mem_cons_of_mem _ isLater)

end TrackedRdpSession

/-- What `RdpMonitorService` holds. -/
structure RdpMonitor where
  idleTimeoutSeconds : Int := 900
  sessions : KeyedTable TrackedRdpSession TrackedRdpSession.authToken :=
    .empty
  tokenByTunnel : List (String × String) := []
  primaryTunnel : List (String × String) := []

/-- The arguments of `register_session`. -/
structure Registration where
  authToken : String
  agentId : String := ""
  connectionId : String := ""
  dataSource : String := ""
  username : String := ""
  owner : Option RecordingOwner := none

namespace Registration

/-- The session that is registered under a token that is not tracked. -/
def created
    (registration : Registration)
    (now : Int)
    (nonempty : strip registration.authToken ≠ "") :
    TrackedRdpSession where
  authToken := strip registration.authToken
  agentId := strip registration.agentId
  connectionId := strip registration.connectionId
  dataSource := strip registration.dataSource
  createdAt := now
  lastActivityAt := now
  username := strip registration.username
  owner := registration.owner.map RecordingOwner.strip
  clean := strip_strip registration.authToken
  nonempty := nonempty

/-- What a session that is tracked already becomes. -/
def renewed
    (registration : Registration)
    (now : Int)
    (session : TrackedRdpSession) : TrackedRdpSession :=
  { session with
    agentId := orText (strip registration.agentId) session.agentId
    connectionId :=
      orText (strip registration.connectionId) session.connectionId
    dataSource :=
      orText (strip registration.dataSource) session.dataSource
    username := orText (strip registration.username) session.username
    owner := (registration.owner.map RecordingOwner.strip).or session.owner
    lastActivityAt := now }

theorem authToken_renewed
    (registration : Registration)
    (now : Int)
    (session : TrackedRdpSession) :
    (registration.renewed now session).authToken = session.authToken :=
  rfl

end Registration

namespace RdpMonitor

variable (monitor : RdpMonitor)

def getSession (authToken : String) : Option TrackedRdpSession :=
  if strip authToken = "" then
    none
  else
    monitor.sessions.find? (strip authToken)

def registerSession (registration : Registration) (now : Int) :
    RdpMonitor :=
  if empty : strip registration.authToken = "" then
    monitor
  else
    { monitor with
      sessions :=
        monitor.sessions.upsert (registration.created now empty)
          (registration.renewed now)
          (registration.authToken_renewed now) }

def getSessionForAgent (agentId : String) : Option TrackedRdpSession :=
  let clean := strip agentId
  if clean = "" then
    none
  else
    TrackedRdpSession.latest?
      (monitor.sessions.rows.filter fun session => session.agentId = clean)

def getSessionForOwner (ownerSubject : String) :
    Option TrackedRdpSession :=
  let clean := strip ownerSubject
  if clean = "" then
    none
  else
    TrackedRdpSession.latest?
      (monitor.sessions.rows.filter fun session =>
        session.ownerSubject = clean)

/-- `get_sessions_for_agent`: the latest ones first. -/
def getSessionsForAgent (agentId : String) : List TrackedRdpSession :=
  let clean := strip agentId
  if clean = "" then
    []
  else
    (monitor.sessions.rows.filter fun session =>
        session.agentId = clean).mergeSort
      fun first second => !second.later first

/-- Change the session of a token. -/
def modifySession
    (authToken : String)
    (change : TrackedRdpSession → TrackedRdpSession)
    (keepsToken : ∀ session, (change session).authToken = session.authToken) :
    RdpMonitor :=
  { monitor with
    sessions :=
      monitor.sessions.modify (strip authToken) change keepsToken }

def touchAuthToken (authToken : String) (now : Int) : RdpMonitor :=
  monitor.modifySession authToken
    (fun session => { session with lastActivityAt := now }) fun _ => rfl

/-- `bind_tunnel`, once there is a session for the token. -/
def addTunnel (authToken tunnelUuid : String) (now : Int) : RdpMonitor :=
  { monitor.modifySession authToken
      (fun session =>
        { session with
          tunnelUuids := session.tunnelUuids.insert (strip tunnelUuid)
          lastActivityAt := now })
      fun _ => rfl with
    tokenByTunnel :=
      Dictionary.set (strip tunnelUuid) (strip authToken) monitor.tokenByTunnel
    primaryTunnel :=
      Dictionary.set (strip authToken) (strip tunnelUuid)
        monitor.primaryTunnel }

def touchTunnel (tunnelUuid : String) (now : Int) : RdpMonitor :=
  if strip tunnelUuid = "" then
    monitor
  else
    match monitor.tokenByTunnel.lookup (strip tunnelUuid) with
    | none =>
      monitor
    | some authToken =>
      if authToken = "" then
        monitor
      else
        { monitor.touchAuthToken authToken now with
          primaryTunnel :=
            Dictionary.set authToken (strip tunnelUuid)
              monitor.primaryTunnel }

def sortedTunnels (session : TrackedRdpSession) : List String :=
  session.tunnelUuids.mergeSort fun first second =>
    decide (first ≤ second)

/-- `release_tunnel`, of a tunnel that is bound to a token. -/
def releaseFrom (authToken clean : String) : RdpMonitor :=
  let released :=
    { monitor.modifySession authToken
        (fun session =>
          { session with
            tunnelUuids := session.tunnelUuids.erase clean })
        fun _ => rfl with
      tokenByTunnel := Dictionary.erase clean monitor.tokenByTunnel }
  match released.getSession authToken with
  | none =>
    released
  | some session =>
    if monitor.primaryTunnel.lookup authToken = some clean then
      { released with
        primaryTunnel :=
          match (sortedTunnels session).getLast? with
          | none => Dictionary.erase authToken monitor.primaryTunnel
          | some last =>
            Dictionary.set authToken last monitor.primaryTunnel }
    else
      released

def releaseTunnel (tunnelUuid : String) : RdpMonitor :=
  let clean := strip tunnelUuid
  if clean = "" then
    monitor
  else
    match monitor.tokenByTunnel.lookup clean with
    | none =>
      monitor
    | some authToken =>
      monitor.releaseFrom authToken clean

def releaseAllTunnels (authToken : String) : RdpMonitor :=
  match monitor.getSession authToken with
  | none =>
    monitor
  | some session =>
    (sortedTunnels session).foldl releaseTunnel monitor

def removeSession (authToken : String) : RdpMonitor :=
  match monitor.getSession authToken with
  | none =>
    monitor
  | some session =>
    { monitor with
      sessions := monitor.sessions.delete (strip authToken)
      primaryTunnel :=
        Dictionary.erase (strip authToken) monitor.primaryTunnel
      tokenByTunnel :=
        monitor.tokenByTunnel.filter fun entry =>
          !(decide (entry.1 ∈ session.tunnelUuids) &&
            decide (entry.2 = strip authToken)) }

def getIdleAuthTokens (now : Int) : List String :=
  if monitor.idleTimeoutSeconds ≤ 0 then
    []
  else
    (monitor.sessions.rows.filter fun session =>
        session.lastActivityAt ≤ now - monitor.idleTimeoutSeconds).map
      TrackedRdpSession.authToken

/--
Store a session without an owner, as a thread does that has found no session
for the token; one that is there by now is replaced.
-/
def storeUntracked (authToken : String) (now : Int) : RdpMonitor :=
  if empty : strip authToken = "" then
    monitor
  else
    let fresh := Registration.created { authToken } now empty
    { monitor with
      sessions :=
        monitor.sessions.upsert fresh
          (fun session =>
            { fresh with
              authToken := session.authToken
              clean := session.clean
              nonempty := session.nonempty })
          fun _ => rfl }

/-! ### Owners -/

/-- The session of a token is one that a subject owns. -/
def Owns (subject authToken : String) : Prop :=
  ∃ session,
    monitor.sessions.find? authToken = some session ∧
      session.ownerSubject = subject

/-- No subject owns a session that it has not owned before. -/
def NoNewOwner (before after : RdpMonitor) : Prop :=
  ∀ subject,
    subject ≠ "" →
    ∀ authToken, after.Owns subject authToken → before.Owns subject authToken

theorem NoNewOwner.refl : NoNewOwner monitor monitor :=
  fun _ _ _ owns => owns

theorem NoNewOwner.trans
    {first second third : RdpMonitor}
    (leading : NoNewOwner first second)
    (trailing : NoNewOwner second third) : NoNewOwner first third :=
  fun subject named authToken owns =>
    leading subject named authToken (trailing subject named authToken owns)

variable {monitor}

theorem tracked_of_getSession
    {authToken : String}
    {session : TrackedRdpSession}
    (found : monitor.getSession authToken = some session) :
    monitor.sessions.find? (strip authToken) = some session := by
  unfold getSession at found
  split at found
  · cases found
  · exact found

theorem owns_of_member
    {session : TrackedRdpSession}
    (member : session ∈ monitor.sessions.rows) :
    monitor.Owns session.ownerSubject session.authToken :=
  ⟨session, (monitor.sessions.find?_eq_some_iff).mpr ⟨member, rfl⟩, rfl⟩

theorem noNewOwner_modifySession
    {authToken : String}
    {change : TrackedRdpSession → TrackedRdpSession}
    {keepsToken :
      ∀ session, (change session).authToken = session.authToken}
    (keepsOwner : ∀ session, (change session).owner = session.owner) :
    NoNewOwner monitor (monitor.modifySession authToken change keepsToken) := by
  rintro subject _ token ⟨session, found, owned⟩
  have modified :=
    monitor.sessions.find?_modify (strip authToken) change keepsToken token
  rw [show
    (monitor.modifySession authToken change keepsToken).sessions.find?
        token = _ from modified] at found
  split at found
  · obtain ⟨earlier, tracked, rfl⟩ := Option.map_eq_some_iff.mp found
    refine ⟨earlier, tracked, ?_⟩
    unfold TrackedRdpSession.ownerSubject at owned ⊢
    rwa [keepsOwner] at owned
  · exact ⟨session, found, owned⟩

theorem noNewOwner_touchAuthToken (authToken : String) (now : Int) :
    NoNewOwner monitor (monitor.touchAuthToken authToken now) :=
  noNewOwner_modifySession fun _ => rfl

theorem noNewOwner_addTunnel
    (authToken tunnelUuid : String)
    (now : Int) :
    NoNewOwner monitor (monitor.addTunnel authToken tunnelUuid now) :=
  have modified :
      NoNewOwner monitor
        (monitor.modifySession authToken
          (fun session =>
            { session with
              tunnelUuids := session.tunnelUuids.insert (strip tunnelUuid)
              lastActivityAt := now })
          fun _ => rfl) :=
    noNewOwner_modifySession fun _ => rfl
  modified

theorem noNewOwner_touchTunnel (tunnelUuid : String) (now : Int) :
    NoNewOwner monitor (monitor.touchTunnel tunnelUuid now) := by
  unfold touchTunnel
  split
  · exact .refl monitor
  split
  · exact .refl monitor
  · rename_i authToken _
    have touched : NoNewOwner monitor (monitor.touchAuthToken authToken now) :=
      noNewOwner_touchAuthToken authToken now
    split
    · exact .refl monitor
    · exact touched

theorem noNewOwner_releaseFrom (authToken clean : String) :
    NoNewOwner monitor (monitor.releaseFrom authToken clean) := by
  have released :
      NoNewOwner monitor
        (monitor.modifySession authToken
          (fun session =>
            { session with
              tunnelUuids := session.tunnelUuids.erase clean })
          fun _ => rfl) :=
    noNewOwner_modifySession fun _ => rfl
  unfold releaseFrom
  dsimp only
  split
  · exact released
  · split <;> exact released

theorem noNewOwner_releaseTunnel (tunnelUuid : String) :
    NoNewOwner monitor (monitor.releaseTunnel tunnelUuid) := by
  unfold releaseTunnel
  dsimp only
  split
  · exact .refl monitor
  · split
    · exact .refl monitor
    · exact noNewOwner_releaseFrom _ _

theorem noNewOwner_releaseAllTunnels (authToken : String) :
    NoNewOwner monitor (monitor.releaseAllTunnels authToken) := by
  unfold releaseAllTunnels
  split
  · exact .refl monitor
  · rename_i session _
    generalize sortedTunnels session = tunnels
    have released :
        ∀ before : RdpMonitor,
          NoNewOwner before (tunnels.foldl releaseTunnel before) := by
      induction tunnels with
      | nil =>
        exact NoNewOwner.refl
      | cons tunnel rest inductionHypothesis =>
        exact fun before =>
          (noNewOwner_releaseTunnel tunnel).trans
            (inductionHypothesis (before.releaseTunnel tunnel))
    exact released monitor

theorem noNewOwner_removeSession (authToken : String) :
    NoNewOwner monitor (monitor.removeSession authToken) := by
  unfold removeSession
  split
  · exact .refl monitor
  · rintro subject _ token ⟨session, found, owned⟩
    by_cases removed : token = strip authToken
    · subst removed
      have gone :=
        monitor.sessions.find?_delete_self (strip authToken)
      cases gone.symm.trans found
    · have kept := monitor.sessions.find?_delete removed
      exact ⟨session, kept.symm.trans found, owned⟩

theorem not_owns_removeSession
    (session : TrackedRdpSession)
    (subject : String) :
    ¬ (monitor.removeSession session.authToken).Owns subject
        session.authToken := by
  rintro ⟨other, found, _⟩
  unfold removeSession at found
  split at found
  · rename_i absent
    unfold getSession at absent
    rw [session.clean, if_neg session.nonempty] at absent
    cases absent.symm.trans found
  · have gone :=
      monitor.sessions.find?_delete_self (strip session.authToken)
    rw [session.clean] at gone
    dsimp only at found
    rw [session.clean] at found
    cases gone.symm.trans found

theorem noNewOwner_storeUntracked (authToken : String) (now : Int) :
    NoNewOwner monitor (monitor.storeUntracked authToken now) := by
  rintro subject named token ⟨session, found, owned⟩
  unfold storeUntracked at found
  split at found
  · exact ⟨session, found, owned⟩
  dsimp only at found
  rw [KeyedTable.find?_upsert] at found
  split at found
  · have ownerless : session.owner = none := by
      generalize monitor.sessions.find? token = tracked at found
      cases tracked <;> cases found <;> rfl
    unfold TrackedRdpSession.ownerSubject at owned
    rw [ownerless] at owned
    exact absurd owned.symm named
  · exact ⟨session, found, owned⟩

theorem owns_of_registerSession
    {registration : Registration}
    {now : Int}
    {subject authToken : String}
    (named : subject ≠ "")
    (owns : (monitor.registerSession registration now).Owns subject authToken) :
    monitor.Owns subject authToken ∨
      (authToken = strip registration.authToken ∧
        (registration.owner.map RecordingOwner.strip).map
            RecordingOwner.subject =
          some subject) := by
  unfold registerSession at owns
  split at owns
  · exact .inl owns
  · obtain ⟨session, found, owned⟩ := owns
    dsimp only at found
    rw [KeyedTable.find?_upsert] at found
    split at found
    · rename_i sameToken
      cases given : registration.owner with
      | none =>
        -- The owner of a session that is tracked already is kept.
        cases tracked : monitor.sessions.find? authToken with
        | none =>
          rw [tracked] at found
          cases found
          simp [TrackedRdpSession.ownerSubject, Registration.created,
            given] at owned
          exact absurd owned.symm named
        | some earlier =>
          rw [tracked] at found
          cases found
          refine .inl ⟨earlier, tracked, ?_⟩
          simpa [TrackedRdpSession.ownerSubject, Registration.renewed,
            given] using owned
      | some owner =>
        refine .inr ⟨sameToken.symm, ?_⟩
        have isOwner : session.owner = some owner.strip := by
          generalize monitor.sessions.find? authToken = tracked at found
          cases tracked <;> cases found <;>
            simp [Registration.created, Registration.renewed, given]
        simpa [TrackedRdpSession.ownerSubject, isOwner,
          RecordingOwner.strip] using owned
    · exact .inl ⟨session, found, owned⟩

-- What is known of them is said above; unifying their bodies is slow.
attribute [irreducible]
  registerSession touchAuthToken addTunnel touchTunnel releaseFrom
  releaseTunnel releaseAllTunnels removeSession storeUntracked getSession

end RdpMonitor

end RpaPlatform.Agents
