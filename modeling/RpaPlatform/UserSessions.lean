import RpaPlatform.AccessPolicy

namespace RpaPlatform.Agents

/-!
# The sessions of users

`UserService` keeps the sessions of logged-in users by their access tokens.  A
session ends when it is revoked, or once its time has expired.
-/

/-- Which agents a user sees. -/
inductive AgentVisibility where
  | all
  | none
deriving DecidableEq

/-- `UserIdentity`, as far as what a user may do depends on it. -/
structure UserIdentity extends PolicyUser where
  username : String := ""
  displayName : String := ""
  email : String := ""
  agentVisibility : AgentVisibility := .all

namespace UserIdentity

/-- `user_has_agent_visibility`. -/
def hasAgentVisibility (user : UserIdentity) : Bool :=
  decide (user.agentVisibility ≠ .none)

/-- `has_minimum_role`, of a user. -/
def hasMinimumRole
    (library : TextLibrary)
    (user : UserIdentity)
    (minimumRole : Role) : Bool :=
  Agents.hasMinimumRole library user.roles minimumRole

end UserIdentity

structure UserSession where
  accessToken : String
  user : UserIdentity
  createdAt : Int
  expiresAt : Int
  lastSeenAt : Int

/-- The sessions by their tokens. -/
abbrev UserSessions :=
  KeyedTable UserSession UserSession.accessToken

namespace UserSessions

variable (sessions : UserSessions)

/-- `_purge_expired_sessions`. -/
def purgeExpired (now : Int) : UserSessions where
  rows := sessions.rows.filter fun session => now < session.expiresAt
  distinct := sessions.distinct.sublist (List.filter_sublist.map _)

/-- `create_session`; the token is a random one. -/
def createSession
    (accessToken : String)
    (user : UserIdentity)
    (ttlSeconds now : Int) : UserSessions :=
  let ttl := max 900 (if ttlSeconds ≠ 0 then ttlSeconds else 43200)
  let session : UserSession :=
    { accessToken, user, createdAt := now, expiresAt := now + ttl
      lastSeenAt := now }
  (sessions.purgeExpired now).upsert session
    (fun old => { session with accessToken := old.accessToken })
    fun _ => rfl

def getSession (accessToken : String) (now : Int) :
    UserSessions × Option UserSession :=
  let current := sessions.purgeExpired now
  if accessToken = "" then
    (current, none)
  else
    (current.modify accessToken
        (fun session => { session with lastSeenAt := now }) fun _ => rfl,
      (current.find? accessToken).map fun session =>
        { session with lastSeenAt := now })

def revokeSession (accessToken : String) : UserSessions :=
  if accessToken = "" then
    sessions
  else
    sessions.delete accessToken

def InForce (accessToken : String) (now : Int) : Prop :=
  ∃ session ∈ sessions.find? accessToken, now < session.expiresAt

instance (accessToken : String) (now : Int) :
    Decidable (sessions.InForce accessToken now) :=
  inferInstanceAs (Decidable (∃ session ∈ sessions.find? accessToken, _))

variable {sessions}

variable
    {accessToken : String}
    {now : Int}

theorem inForce_purgeExpired
    (inForce : sessions.InForce accessToken now) :
    (sessions.purgeExpired now).InForce accessToken now := by
  obtain ⟨session, found, unexpired⟩ := inForce
  have tracked := (sessions.find?_eq_some_iff).mp found
  refine ⟨session, ?_, unexpired⟩
  refine (KeyedTable.find?_eq_some_iff _).mpr ⟨?_, tracked.2⟩
  exact List.mem_filter.mpr ⟨tracked.1, decide_eq_true unexpired⟩

theorem inForce_createSession
    (inForce : sessions.InForce accessToken now)
    (created : String)
    (user : UserIdentity)
    (ttlSeconds : Int) :
    (sessions.createSession created user ttlSeconds now).InForce
      accessToken now := by
  obtain ⟨session, found, unexpired⟩ := inForce_purgeExpired inForce
  unfold createSession InForce
  dsimp only
  generalize isTtl :
    max 900 (if ttlSeconds ≠ 0 then ttlSeconds else 43200) = ttl
  have longEnough : 900 ≤ ttl := isTtl ▸ Int.le_max_left ..
  rw [KeyedTable.find?_upsert]
  split
  · rw [Option.mem_def.mp found]
    refine ⟨_, rfl, ?_⟩
    dsimp only [Option.map_some, Option.getD_some]
    omega
  · exact ⟨session, found, unexpired⟩

theorem inForce_getSession
    (inForce : sessions.InForce accessToken now)
    (wanted : String) :
    (sessions.getSession wanted now).1.InForce accessToken now := by
  have current := inForce_purgeExpired inForce
  unfold getSession
  dsimp only
  split
  · exact current
  · obtain ⟨session, found, unexpired⟩ := current
    unfold InForce
    dsimp only
    rw [KeyedTable.find?_modify]
    split
    · rw [Option.mem_def.mp found]
      exact ⟨_, rfl, unexpired⟩
    · exact ⟨session, found, unexpired⟩

theorem inForce_of_getSession
    {session : UserSession}
    (got : (sessions.getSession accessToken now).2 = some session) :
    session.accessToken = accessToken ∧
      (sessions.getSession accessToken now).1.InForce accessToken now := by
  unfold getSession at got ⊢
  dsimp only at got ⊢
  split at got
  · cases got
  · rename_i nonempty
    obtain ⟨stored, found, rfl⟩ := Option.map_eq_some_iff.mp got
    have tracked := (KeyedTable.find?_eq_some_iff _).mp found
    have unexpired := (List.mem_filter.mp tracked.1).2
    refine ⟨tracked.2, ?_⟩
    rw [if_neg nonempty]
    unfold InForce
    dsimp only
    rw [KeyedTable.find?_modify, if_pos rfl, found]
    exact ⟨_, rfl, of_decide_eq_true unexpired⟩

theorem inForce_revokeSession
    {accessToken revoked : String}
    (different : accessToken ≠ revoked)
    (inForce : sessions.InForce accessToken now) :
    (sessions.revokeSession revoked).InForce accessToken now := by
  unfold revokeSession
  split
  · exact inForce
  · obtain ⟨session, found, unexpired⟩ := inForce
    exact ⟨session, (sessions.find?_delete different).trans found, unexpired⟩

end UserSessions

end RpaPlatform.Agents
