import RpaPlatform.UserSessions

namespace RpaPlatform.Agents

/-!
# The gate before the API

The middleware looks up the session of a request before a route handles it.
What it answers depends on the last login with the presented access token, and
on whether that login has been ended or has expired since, and on nothing else
that users do.
-/

/-- What the middleware reads of a request. -/
structure GateRequest where
  method : String
  path : String
  /-- The `Authorization` header. -/
  authorization : Option String := none
  /-- The parameters `access_token` and `app_access_token` of the query. -/
  accessToken : Option String := none
  appAccessToken : Option String := none

section Gate

variable (library : TextLibrary)

/-- `_extract_bearer_token`. -/
def extractBearerToken (headerValue : Option String) : Option String :=
  (headerValue.filter (· ≠ "")).bind fun value =>
    if "bearer ".toList.isPrefixOf (library.lower value).toList then
      some (strip (String.ofList (value.toList.drop 7)))
    else
      none

namespace GateRequest

variable (request : GateRequest)

/-- The access token that is looked up; without one it is empty. -/
def presented : String :=
  orText ((extractBearerToken library request.authorization).getD "")
    (orText (request.accessToken.getD "")
      (request.appAccessToken.getD ""))

/-- The requests that need no session; `_is_public_user_api_path` is among it. -/
def isExempt : Bool :=
  request.method = "OPTIONS" ||
    !"/api".toList.isPrefixOf request.path.toList ||
    request.path ∈
      ["/api/users/auth-config", "/api/users/login/local",
        "/api/users/login/microsoft", "/api/users/callback/microsoft",
        "/api/guacamole/tunnel"]

end GateRequest

inductive GateAnswer where
  | unauthorized
  /-- A route handles the request on behalf of a session, or of none. -/
  | handled (session : Option UserSession)

variable
    (sessions : UserSessions)
    (request : GateRequest)
    (now : Int)

def userAuthMiddleware : UserSessions × GateAnswer :=
  if request.isExempt then
    (sessions, .handled none)
  else
    let got := sessions.getSession (request.presented library) now
    (got.1, got.2.elim .unauthorized fun session => .handled (some session))

/-- `api_user_logout`, behind the middleware. -/
def userLogout : UserSessions :=
  let passed := userAuthMiddleware library sessions request now
  match passed.2 with
  | .handled (some session) => passed.1.revokeSession session.accessToken
  | _ => passed.1

end Gate

/-! ### What users do -/

inductive GateAction where
  /-- `create_session`, by one of the ways to log in. -/
  | login (accessToken : String) (user : UserIdentity) (ttlSeconds : Int)
  | logout (request : GateRequest)
  | request (request : GateRequest)
  /-- A websocket of the dashboard looks its session up. -/
  | openSocket (accessToken : String)
  /-- `list_active_identities` and other calls purge what has expired. -/
  | purge
  | wait (seconds : Nat)

/-- The sessions, and the time. -/
structure GateState where
  sessions : UserSessions := .empty
  now : Int

def GateState.step
    (library : TextLibrary)
    (state : GateState) : GateAction → GateState
  | .login accessToken user ttlSeconds =>
    { state with
      sessions :=
        state.sessions.createSession accessToken user ttlSeconds state.now }
  | .logout request =>
    { state with
      sessions := userLogout library state.sessions request state.now }
  | .request request =>
    { state with
      sessions :=
        (userAuthMiddleware library state.sessions request state.now).1 }
  | .openSocket accessToken =>
    { state with
      sessions := (state.sessions.getSession (strip accessToken) state.now).1 }
  | .purge => { state with sessions := state.sessions.purgeExpired state.now }
  | .wait seconds => { state with now := state.now + seconds }

/-! ### One access token -/

/-- The session, if it has not expired, as of a time. -/
def seenAt (now : Int) (session : Option UserSession) : Option UserSession :=
  (session.filter (now < ·.expiresAt)).map ({ · with lastSeenAt := now })

/-- The last login with an access token that no logout has ended, and the time. -/
structure Standing where
  session : Option UserSession := none
  now : Int

/-- What an action does to the standing of one access token. -/
def Standing.step
    (library : TextLibrary)
    (accessToken : String)
    (standing : Standing) : GateAction → Standing
  | .login created user ttlSeconds =>
    { standing with
      session :=
        if created = accessToken then
          some
            { accessToken
              user
              createdAt := standing.now
              expiresAt :=
                standing.now +
                  max 900 (if ttlSeconds ≠ 0 then ttlSeconds else 43200)
              lastSeenAt := standing.now }
        else
          standing.session }
  | .logout request =>
    { standing with
      session :=
        if !request.isExempt && request.presented library = accessToken then
          none
        else
          standing.session }
  | .wait seconds => { standing with now := standing.now + seconds }
  | _ => standing

theorem seenAt_seenAt
    {now later : Int}
    (isLater : now ≤ later)
    (session : Option UserSession) :
    seenAt later (seenAt now session) = seenAt later session := by
  cases session with
  | none =>
    rfl
  | some session =>
    unfold seenAt
    by_cases unexpired : now < session.expiresAt
    · simp [Option.filter, unexpired]
    · have expired : ¬ later < session.expiresAt := by
        omega
      simp [Option.filter, unexpired, expired]

namespace UserSessions

variable (sessions : UserSessions) (accessToken : String) (now : Int)

theorem seenAt_purgeExpired :
    seenAt now ((sessions.purgeExpired now).find? accessToken) =
      seenAt now (sessions.find? accessToken) := by
  have found :
      (sessions.purgeExpired now).find? accessToken =
        (sessions.find? accessToken).filter (now < ·.expiresAt) := by
    apply Option.ext
    intro session
    rw [KeyedTable.find?_eq_some_iff, Option.filter_eq_some_iff,
      KeyedTable.find?_eq_some_iff, purgeExpired, List.mem_filter,
      and_right_comm]
  unfold seenAt
  rw [found, Option.filter_filter]
  simp only [Bool.and_self]

theorem seenAt_createSession
    (created : String)
    (user : UserIdentity)
    (ttlSeconds : Int) :
    seenAt now
        ((sessions.createSession created user ttlSeconds now).find?
          accessToken) =
      seenAt now
        (if created = accessToken then
          some
            { accessToken
              user
              createdAt := now
              expiresAt :=
                now + max 900 (if ttlSeconds ≠ 0 then ttlSeconds else 43200)
              lastSeenAt := now }
        else
          sessions.find? accessToken) := by
  unfold createSession
  dsimp only
  rw [KeyedTable.find?_upsert]
  by_cases same : created = accessToken
  · rw [if_pos same, if_pos same]
    cases found : (sessions.purgeExpired now).find? accessToken with
    | none =>
      rw [← same]
      rfl
    | some stored =>
      rw [← KeyedTable.key_of_find? found]
      rfl
  · rw [if_neg same, if_neg same]
    exact sessions.seenAt_purgeExpired accessToken now

theorem seenAt_getSession (wanted : String) :
    seenAt now ((sessions.getSession wanted now).1.find? accessToken) =
      seenAt now (sessions.find? accessToken) := by
  rw [← seenAt_purgeExpired sessions]
  unfold getSession
  dsimp only
  split
  · rfl
  · rw [KeyedTable.find?_modify]
    split
    · unfold seenAt
      cases (sessions.purgeExpired now).find? accessToken with
      | none =>
        rfl
      | some session =>
        by_cases unexpired : now < session.expiresAt
        · simp [Option.filter, unexpired]
        · simp [Option.filter, unexpired]
    · rfl

theorem getSession_eq (wanted : String) :
    (sessions.getSession wanted now).2 =
      if wanted = "" then none else seenAt now (sessions.find? wanted) := by
  rw [← seenAt_purgeExpired sessions]
  unfold getSession seenAt
  dsimp only
  split
  · rfl
  · cases found : (sessions.purgeExpired now).find? wanted with
    | none =>
      rfl
    | some session =>
      obtain ⟨member, rfl⟩ := (KeyedTable.find?_eq_some_iff _).mp found
      have unexpired := (List.mem_filter.mp member).2
      simp [Option.filter, of_decide_eq_true unexpired]

theorem find?_revokeSession {revoked : String} (named : revoked ≠ "") :
    (sessions.revokeSession revoked).find? accessToken =
      if revoked = accessToken then none else sessions.find? accessToken := by
  unfold revokeSession
  rw [if_neg named]
  split
  · rename_i same
    rw [same, KeyedTable.find?_delete_self]
  · rename_i other
    exact sessions.find?_delete (Ne.symm other)

end UserSessions

/-! ### Every run -/

namespace GateState

variable
    {library : TextLibrary}
    {accessToken : String}
    {state : GateState}
    {standing : Standing}

/-- The sessions hold what the logins and logouts leave of an access token. -/
structure Agrees
    (accessToken : String)
    (state : GateState)
    (standing : Standing) : Prop where
  now : state.now = standing.now
  session :
    seenAt state.now (state.sessions.find? accessToken) =
      seenAt state.now standing.session

theorem seenAt_userAuthMiddleware (request : GateRequest) :
    seenAt state.now
        ((userAuthMiddleware library state.sessions request
          state.now).1.find? accessToken) =
      seenAt state.now (state.sessions.find? accessToken) := by
  unfold userAuthMiddleware
  split
  · rfl
  · exact state.sessions.seenAt_getSession ..

theorem userAuthMiddleware_eq (request : GateRequest) :
    (userAuthMiddleware library state.sessions request state.now).2 =
      if request.isExempt then
        .handled none
      else if request.presented library = "" then
        .unauthorized
      else
        (seenAt state.now
          (state.sessions.find? (request.presented library))).elim
          .unauthorized fun session => .handled (some session) := by
  unfold userAuthMiddleware
  split
  · rfl
  · dsimp only
    rw [UserSessions.getSession_eq]
    split
    · rfl
    · rfl

theorem seenAt_userLogout
    (named : accessToken ≠ "")
    (request : GateRequest) :
    seenAt state.now
        ((userLogout library state.sessions request state.now).find?
          accessToken) =
      seenAt state.now
        (if !request.isExempt && request.presented library = accessToken then
          none
        else
          state.sessions.find? accessToken) := by
  have kept := @seenAt_userAuthMiddleware library accessToken state request
  unfold userLogout
  dsimp only
  rw [userAuthMiddleware_eq]
  cases request.isExempt with
  | true =>
    exact kept
  | false =>
    simp only [Bool.false_eq_true, if_false, Bool.not_false, Bool.true_and,
      decide_eq_true_eq]
    by_cases absent : request.presented library = ""
    · rw [if_pos absent, absent, if_neg named.symm]
      exact kept
    · rw [if_neg absent]
      cases found :
          seenAt state.now
            (state.sessions.find? (request.presented library)) with
      | none =>
        refine kept.trans ?_
        split
        · rename_i same
          rw [← same, found]
          rfl
        · rfl
      | some session =>
        obtain ⟨stored, isStored, rfl⟩ := Option.map_eq_some_iff.mp found
        have isToken : stored.accessToken = request.presented library :=
          KeyedTable.key_of_find? (Option.filter_eq_some_iff.mp isStored).1
        dsimp only [Option.elim]
        rw [UserSessions.find?_revokeSession _ _ (isToken ▸ absent), isToken]
        split
        · rfl
        · exact kept

/-- Every action changes the sessions as it changes the standing. -/
theorem Agrees.step
    (agrees : Agrees accessToken state standing)
    (named : accessToken ≠ "")
    (action : GateAction) :
    Agrees accessToken (state.step library action)
      (standing.step library accessToken action) := by
  obtain ⟨sameNow, same⟩ := agrees
  obtain ⟨session, now⟩ := standing
  change state.now = now at sameNow
  subst now
  cases action with
  | login created user ttlSeconds =>
    refine ⟨rfl, (state.sessions.seenAt_createSession ..).trans ?_⟩
    unfold Standing.step
    dsimp only
    split
    · rfl
    · exact same
  | logout request =>
    unfold step Standing.step
    refine ⟨rfl, ?_⟩
    dsimp only
    rw [seenAt_userLogout named]
    split
    · rfl
    · exact same
  | request request =>
    exact ⟨rfl, (seenAt_userAuthMiddleware request).trans same⟩
  | openSocket wanted =>
    unfold step
    exact ⟨rfl, (state.sessions.seenAt_getSession ..).trans same⟩
  | purge =>
    exact ⟨rfl, (state.sessions.seenAt_purgeExpired ..).trans same⟩
  | wait seconds =>
    have later : state.now ≤ state.now + seconds := by
      omega
    refine ⟨rfl, (seenAt_seenAt later _).symm.trans ?_⟩
    exact (congrArg (seenAt _) same).trans (seenAt_seenAt later session)

variable (library)

/-- What users do from a start of the server on, when no session exists. -/
def after (start : Int) (actions : List GateAction) : GateState :=
  actions.foldl (GateState.step library) { now := start }

theorem agrees_after
    (named : accessToken ≠ "")
    (start : Int)
    (actions : List GateAction) :
    Agrees accessToken (after library start actions)
      (actions.foldl (Standing.step library accessToken) { now := start }) := by
  have stays :
      ∀ {state standing},
        Agrees accessToken state standing →
        Agrees accessToken (actions.foldl (GateState.step library) state)
          (actions.foldl (Standing.step library accessToken) standing) := by
    induction actions with
    | nil =>
      exact id
    | cons action rest inductionHypothesis =>
      exact fun agrees => inductionHypothesis (agrees.step named action)
  exact stays ⟨rfl, rfl⟩

end GateState

/--
Whatever has been done since the start, a request that is not exempt is handled
for the user of the last login with its access token, if no logout has ended
that login and it has not expired, and is answered as unauthorized otherwise.
-/
theorem userAuthMiddleware_after
    (library : TextLibrary)
    (start : Int)
    (actions : List GateAction)
    (request : GateRequest) :
    let state := GateState.after library start actions
    let token := request.presented library
    (userAuthMiddleware library state.sessions request state.now).2 =
      if request.isExempt then
        .handled none
      else if token = "" then
        .unauthorized
      else
        (seenAt state.now
          (actions.foldl (Standing.step library token)
            { now := start }).session).elim
          .unauthorized fun session => .handled (some session) := by
  intro state token
  rw [GateState.userAuthMiddleware_eq]
  split
  · rfl
  · split
    · rfl
    · rename_i named
      rw [(GateState.agrees_after library named start actions).session]

end RpaPlatform.Agents
