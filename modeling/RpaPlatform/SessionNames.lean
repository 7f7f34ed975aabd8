import RpaPlatform.ReplicaKeys

namespace RpaPlatform.Replica

open Transition

/-!
# The session that a task runs in

`SessionManager` keeps the sessions of users by their bare user names, in the
order in which Windows has enumerated them first.  The session of a task is
looked for by several kinds of names, and for a name with a domain also by what
follows the domain.  Windows is asked for the names of a session again each
time; of a session that has ended, the user name remains that was read last.
-/

/-! ### What Windows says -/

/-- A session of Windows, and what `WTSQuerySessionInformation` says of it. -/
structure WtsSession where
  sessionId : Nat
  domain : String
  username : String
  winStation : String := ""

/-- `WTSEnumerateSessions`; to query another session raises. -/
structure Windows where
  sessions : List WtsSession := []
  distinct : (sessions.map WtsSession.sessionId).Nodup := by exact List.nodup_nil

/-- A user of a domain. -/
def qualified (domain username : String) : String :=
  domain ++ "\\" ++ username

namespace WtsSession

variable (session : WtsSession)

/-- Services, listeners and sessions that nobody is logged on to are skipped. -/
def isUser : Bool :=
  session.sessionId ∉ [0, 65536, 65537] && session.username ≠ ""

def fullname : String :=
  qualified session.domain session.username

end WtsSession

namespace Windows

variable (windows : Windows)

def query (sessionId : Nat) : Option WtsSession :=
  windows.sessions.find? fun session => session.sessionId = sessionId

/-- The session of a user name that is enumerated last. -/
def lastOf (username : String) : Option WtsSession :=
  (windows.sessions.filter fun session =>
    session.isUser && session.username = username).getLast?

end Windows

/-! ### What the agent tracks -/

/-- `_username` and `_session_name` of a `UserSession`; both are cached. -/
structure NameCache where
  username : String
  sessionName : String := ""

/-- What the texts of names depend on. -/
structure NameSetting where
  library : SystemLibrary
  computerName : String

variable (setting : NameSetting)

namespace NameCache

/-- The names that `get_username` and `get_session_name` leave behind. -/
def visit
    (windows : Windows)
    (sessionId : Nat)
    (cache : NameCache) : NameCache :=
  match windows.query sessionId with
  | none =>
    cache
  | some session =>
    { username := session.username
      sessionName :=
        if cache.sessionName ≠ "" then cache.sessionName
        else session.winStation }

/-- What `get_session_name` returns. -/
def shownName (sessionId : Nat) (cache : NameCache) : String :=
  if cache.sessionName ≠ "" then
    cache.sessionName
  else if cache.username ≠ "" then
    setting.computerName ++ "-" ++ cache.username
  else
    "Session-" ++ toString sessionId

end NameCache

/-- `username.lower().strip()`. -/
def normalized (name : String) : String :=
  setting.library.strip (setting.library.lower name)

/-- What follows the first backslash, where there is one. -/
def withoutDomain (name : String) : Option String :=
  match name.toList.dropWhile (· ≠ '\\') with
  | [] =>
    none
  | _ :: rest =>
    some (String.ofList rest)

/-- The tests by which `get_session_by_username` returns a session. -/
def answersTo
    (windows : Windows)
    (name : String)
    (sessionId : Nat)
    (cache : NameCache) : Bool :=
  let lower := setting.library.lower
  let visited := cache.visit windows sessionId
  let fullname :=
    ((windows.query sessionId).map WtsSession.fullname).getD ""
  lower visited.username = name || lower fullname = name ||
    lower (visited.shownName setting sessionId) = name ||
    withoutDomain name = some (lower visited.username)

/-- The sessions in turn, until one answers; those before it are visited. -/
def lookUp
    (windows : Windows)
    (name : String)
    (caches : String → NameCache) :
    List (String × Nat) → Option (String × Nat) × (String → NameCache)
  | [] =>
    (none, caches)
  | (key, sessionId) :: rest =>
    let visited := (caches key).visit windows sessionId
    let remembered := fun other =>
      if other = key then visited else caches other
    if answersTo setting windows name sessionId (caches key) then
      (some (key, sessionId), remembered)
    else
      lookUp windows name remembered rest

namespace SessionManager

variable (manager : SessionManager)

/-- The ids of the users' sessions, by user names. -/
def idsByUser : List (String × Nat) :=
  manager.sessions.map fun entry => (entry.1, entry.2.sessionId)

/-- `is_healthy` of a session: no monitored process is down. -/
def isHealthy (username : String) : Bool :=
  (manager.session? (some username)).all fun session =>
    session.procs.all fun entry =>
      !(manager.processes entry.2).isMonitored ||
        (manager.processes entry.2).isRunning

end SessionManager

/-- The sessions of an agent, their cached names and those of Windows. -/
structure NamedSessions where
  manager : SessionManager := {}
  /-- The user name that is cached first is the key of the session. -/
  caches : String → NameCache := fun username => { username }
  windows : Windows := {}

/-- How a task ends, or where it is started. -/
inductive TaskStart where
  | failed
  | startedIn (sessionId : Nat)
  /-- Looking for the session raises. -/
  | raised
deriving DecidableEq

namespace NamedSessions

variable (state : NamedSessions)

/-- `_refresh_sessions`, after Windows has changed. -/
def refreshSessions (windows : Windows) : NamedSessions :=
  { state with
    manager :=
      windows.sessions.foldl
        (fun manager session =>
          manager.refreshSession session.sessionId (some session.username))
        state.manager
    windows }

/--
`get_session_by_username`; without a name, it is the first session, and what
raises where there is none.
-/
def getSessionByUsername (username : String) :
    Option (Option (String × Nat) × NamedSessions) :=
  let name := normalized setting username
  if name = "" then
    state.manager.idsByUser.head?.map fun entry => (some entry, state)
  else
    let found :=
      lookUp setting state.windows name state.caches state.manager.idsByUser
    some (found.1, { state with caches := found.2 })

/--
`execute` of a task in a session.  There is no token of a session that has
ended or that nobody is logged on to: this raises, and is reported.
-/
def startTask (sessionId : Nat) : TaskStart :=
  if (state.windows.query sessionId).any fun session => session.username ≠ ""
  then .startedIn sessionId
  else .failed

/-- `_execute_task`. -/
def executeTask (session : String) : TaskStart × NamedSessions :=
  if session = "" then
    (.startedIn state.manager.system.sessionId, state)
  else
    match state.getSessionByUsername setting session with
    | none =>
      (.raised, state)
    | some (none, looked) =>
      (.failed, looked)
    | some (some (key, sessionId), looked) =>
      if state.manager.isHealthy key then
        (looked.startTask sessionId, looked)
      else
        (.failed, looked)

end NamedSessions

/-- What happens to the sessions of an agent. -/
inductive SessionAction where
  /-- Windows is enumerated. -/
  | refresh (windows : Windows)
  | task (session : String)
  /-- Processes start, tick and stop; this leaves the sessions. -/
  | work (after : SessionManager)

/-- The steps of an agent and of Windows. -/
def sessionStep?
    (state : NamedSessions) :
    SessionAction → Option NamedSessions
  | .refresh windows =>
    some (state.refreshSessions windows)
  | .task session =>
    some (state.executeTask setting session).2
  | .work after =>
    if after.idsByUser = state.manager.idsByUser then
      some { state with manager := after }
    else
      none

/-! ### Tasks that run in the session they name -/

namespace NamedSessions

variable (state : NamedSessions)

/-- A session is one of the user that a name says; case is disregarded. -/
def IsOf (name : String) (sessionId : Nat) : Prop :=
  ∃ session ∈ state.windows.sessions,
    session.sessionId = sessionId ∧
      setting.library.lower session.fullname = normalized setting name

/-- The user that a name says is logged on. -/
def Live (name : String) : Prop :=
  ∃ session ∈ state.windows.sessions,
    session.isUser = true ∧
      setting.library.lower session.fullname = normalized setting name

/-- The session that is found for a name. -/
def foundFor (name : String) : Option (String × Nat) :=
  (state.getSessionByUsername setting name).bind Prod.fst

/-- A task that names a user of a domain runs in a session of that user. -/
structure RunsAsNamed (name : String) : Prop where
  started :
    ∀ sessionId,
      (state.executeTask setting name).1 = .startedIn sessionId →
      state.IsOf setting name sessionId
  found :
    state.Live setting name →
    ∃ entry,
      state.foundFor setting name = some entry ∧ state.IsOf setting name entry.2
  failed :
    ¬state.Live setting name →
    (state.executeTask setting name).1 = .failed

/--
Where the user is logged on, one of the user's sessions is the last one that is
enumerated with its user name.  A session that answers to the name is one of
the user, or comes after one, or nothing is started in it while the user is not
logged on.
-/
structure Unambiguous (name : String) : Prop where
  last :
    state.Live setting name →
    ∃ session,
      state.windows.lastOf session.username = some session ∧
        setting.library.lower session.fullname = normalized setting name
  answers :
    ∀ earlier entry later,
      state.manager.idsByUser = earlier ++ entry :: later →
      answersTo setting state.windows (normalized setting name) entry.2
          (state.caches entry.1) = true →
      state.IsOf setting name entry.2 ∨
        (∃ other ∈ earlier, state.IsOf setting name other.2) ∨
          ¬state.Live setting name ∧
            (state.manager.isHealthy entry.1 = false ∨
              state.startTask entry.2 = .failed)

/-- The sessions that were enumerated last are tracked, by user names. -/
structure Tracks : Prop where
  distinct : (state.manager.idsByUser.map Prod.fst).Nodup
  users : ∀ entry ∈ state.manager.idsByUser, entry.2 ∉ [0, 65536, 65537]
  last :
    ∀ username session,
      state.windows.lastOf username = some session →
      state.manager.idsByUser.lookup username = some session.sessionId

end NamedSessions

/-! ### Looking for a session -/

theorem Windows.query_of_mem
    {windows : Windows}
    {session : WtsSession}
    (member : session ∈ windows.sessions) :
    windows.query session.sessionId = some session := by
  unfold query
  cases isFound :
      windows.sessions.find? fun other =>
        other.sessionId = session.sessionId with
  | none =>
    simpa using List.find?_eq_none.mp isFound session member
  | some other =>
    have sameId : other.sessionId = session.sessionId := by
      simpa using List.find?_some isFound
    rw [List.inj_on_of_nodup_map windows.distinct
      (List.mem_of_find?_eq_some isFound) member sameId]

theorem lookUp_fst
    (windows : Windows)
    (name : String)
    {entries : List (String × Nat)}
    (distinct : (entries.map Prod.fst).Nodup)
    {caches current : String → NameCache}
    (same : ∀ entry ∈ entries, current entry.1 = caches entry.1) :
    (lookUp setting windows name current entries).1 =
      entries.find? fun entry =>
        answersTo setting windows name entry.2 (caches entry.1) := by
  induction entries generalizing current with
  | nil =>
    rfl
  | cons entry rest inductionHypothesis =>
    obtain ⟨isNew, distinctRest⟩ := List.nodup_cons.mp distinct
    have isCurrent := same entry List.mem_cons_self
    unfold lookUp
    rw [isCurrent]
    dsimp only
    split
    · rename_i answers
      simp only [List.find?_cons, answers]
    · rename_i silent
      rw [Bool.not_eq_true] at silent
      simp only [List.find?_cons, silent]
      refine inductionHypothesis distinctRest ?_
      intro other later
      have isOther : other.1 ≠ entry.1 := by
        intro sameKey
        exact isNew (sameKey ▸ List.mem_map_of_mem later)
      rw [if_neg isOther]
      exact same other (List.mem_cons_of_mem _ later)

namespace NamedSessions

variable
    {setting}
    {state : NamedSessions}
    {name : String}

theorem answersTo_of_isOf
    {sessionId : Nat}
    (isOf : state.IsOf setting name sessionId)
    (cache : NameCache) :
    answersTo setting state.windows (normalized setting name) sessionId cache =
      true := by
  obtain ⟨session, member, rfl, isName⟩ := isOf
  simp [answersTo, Windows.query_of_mem member, isName]

theorem foundFor_eq
    (distinct : (state.manager.idsByUser.map Prod.fst).Nodup)
    (isText : normalized setting name ≠ "") :
    state.foundFor setting name =
      state.manager.idsByUser.find? fun entry =>
        answersTo setting state.windows (normalized setting name) entry.2
          (state.caches entry.1) := by
  unfold foundFor getSessionByUsername
  rw [if_neg isText]
  exact lookUp_fst setting _ _ distinct fun _ _ => rfl

theorem executeTask_fst
    (isGiven : name ≠ "")
    (isText : normalized setting name ≠ "") :
    (state.executeTask setting name).1 =
      match state.foundFor setting name with
      | none => .failed
      | some entry =>
        if state.manager.isHealthy entry.1 then state.startTask entry.2
        else .failed := by
  unfold executeTask foundFor getSessionByUsername
  rw [if_neg isGiven]
  dsimp only
  rw [if_neg isText]
  generalize lookUp setting state.windows (normalized setting name)
    state.caches state.manager.idsByUser = looked
  obtain ⟨_ | entry, caches⟩ := looked
  · rfl
  · dsimp only [Option.bind_some]
    split <;> rfl

theorem Tracks.isOf
    (tracks : state.Tracks)
    (unambiguous : state.Unambiguous setting name)
    (live : state.Live setting name) :
    ∃ entry ∈ state.manager.idsByUser, state.IsOf setting name entry.2 := by
  obtain ⟨session, isLast, isName⟩ := unambiguous.last live
  have member :=
    (List.mem_filter.mp (List.mem_of_getLast? isLast)).1
  have isTracked := tracks.last _ _ isLast
  exact ⟨_, Dictionary.mem_of_lookup isTracked, session, member, rfl, isName⟩

theorem Tracks.startTask_eq_failed
    (tracks : state.Tracks)
    {entry : String × Nat}
    (isTracked : entry ∈ state.manager.idsByUser)
    (isOf : state.IsOf setting name entry.2)
    (gone : ¬state.Live setting name) :
    state.startTask entry.2 = .failed := by
  obtain ⟨session, member, sameId, isName⟩ := isOf
  have queried := Windows.query_of_mem member
  rw [sameId] at queried
  unfold startTask
  rw [queried, Option.any_some, if_neg]
  intro hasUser
  refine gone ⟨session, member, ?_, isName⟩
  rw [WtsSession.isUser, hasUser, Bool.and_true, decide_eq_true_eq, sameId]
  exact tracks.users entry isTracked

theorem Tracks.runsAsNamed
    (tracks : state.Tracks)
    (isGiven : name ≠ "")
    (isText : normalized setting name ≠ "")
    (unambiguous : state.Unambiguous setting name) :
    state.RunsAsNamed setting name := by
  have outcome : (state.executeTask setting name).1 = _ :=
    executeTask_fst isGiven isText
  have isFound := foundFor_eq tracks.distinct isText
  cases found : state.foundFor setting name with
  | none =>
    rw [found] at outcome isFound
    have silent := List.find?_eq_none.mp isFound.symm
    refine ⟨fun _ started => ?_, fun live => ?_, fun _ => outcome⟩
    · rw [outcome] at started
      cases started
    · obtain ⟨entry, isTracked, isOf⟩ := tracks.isOf unambiguous live
      exact absurd (answersTo_of_isOf isOf _) (silent entry isTracked)
  | some entry =>
    rw [found] at outcome isFound
    obtain ⟨answers, earlier, later, shape, silent⟩ :=
      List.find?_eq_some_iff_append.mp isFound.symm
    have isTracked : entry ∈ state.manager.idsByUser := by
      rw [shape]
      simp
    rcases unambiguous.answers earlier entry later shape answers with
      isOf | ⟨other, isEarlier, isOf⟩ | ⟨gone, notStarted⟩
    · refine ⟨fun _ started => ?_, fun _ => ⟨entry, found, isOf⟩, fun gone => ?_⟩
      · rw [outcome] at started
        dsimp only [startTask] at started
        split at started
        · split at started
          · obtain rfl := TaskStart.startedIn.inj started
            exact isOf
          · cases started
        · cases started
      · rw [outcome]
        dsimp only
        split
        · exact tracks.startTask_eq_failed isTracked isOf gone
        · rfl
    · have isSilent := silent other isEarlier
      simp [answersTo_of_isOf isOf] at isSilent
    · have isFailed : (state.executeTask setting name).1 = .failed := by
        rw [outcome]
        dsimp only
        split
        · rename_i healthy
          exact notStarted.resolve_left (by simp [healthy])
        · rfl
      refine ⟨fun _ started => ?_, fun live => absurd live gone,
        fun _ => isFailed⟩
      rw [isFailed] at started
      cases started

end NamedSessions

/-! ### What an enumeration leaves behind -/

namespace SessionManager

variable {manager : SessionManager}

theorem lookup_idsByUser (username : String) :
    manager.idsByUser.lookup username =
      (manager.session? (some username)).map UserSession.sessionId := by
  have inTable :
      ∀ sessions : List (String × UserSession),
        (sessions.map fun entry => (entry.1, entry.2.sessionId)).lookup
            username =
          ((sessions.map fun entry => (some entry.1, entry.2)).lookup
            (some username)).map UserSession.sessionId := by
    intro sessions
    induction sessions with
    | nil =>
      rfl
    | cons entry rest inductionHypothesis =>
      by_cases same : username = entry.1
      · simp [same]
      · have other : (username == entry.1) = false := by simpa using same
        simp [List.lookup_cons, other, inductionHypothesis]
  exact inTable manager.sessions

theorem idsByUser_modifySession
    (name : SessionName)
    {change : UserSession → UserSession}
    (leaves : ∀ session, (change session).sessionId = session.sessionId) :
    (manager.modifySession name change).idsByUser = manager.idsByUser := by
  cases name with
  | none =>
    rfl
  | some username =>
    simp only [idsByUser, modifySession, List.map_map]
    refine List.map_congr_left fun entry _ => ?_
    dsimp only [Function.comp_apply]
    split
    · rw [leaves]
    · rfl

theorem idsByUser_stopUnmonitored (name : SessionName) (dropped : Nat → Bool) :
    (manager.stopUnmonitored name dropped).idsByUser = manager.idsByUser := by
  have stopped :
      ∀ (entries : List (Nat × ProcessRef)) (manager : SessionManager),
        (entries.foldl (fun manager entry => manager.stop entry.2)
          manager).idsByUser = manager.idsByUser := by
    intro entries
    induction entries with
    | nil =>
      exact fun _ => rfl
    | cons entry rest inductionHypothesis =>
      exact fun manager => inductionHypothesis (manager.stop entry.2)
  unfold stopUnmonitored
  dsimp only
  rw [idsByUser_modifySession]
  · exact stopped _ manager
  · exact fun _ => rfl

theorem idsByUser_refreshSession
    (distinct : (manager.idsByUser.map Prod.fst).Nodup)
    (session : WtsSession) :
    (manager.refreshSession session.sessionId
        (some session.username)).idsByUser =
      if session.isUser then
        Dictionary.set session.username session.sessionId manager.idsByUser
      else manager.idsByUser := by
  have isTracked := manager.lookup_idsByUser session.username
  unfold refreshSession WtsSession.isUser
  split
  · rename_i skipped
    simp [skipped]
  · rename_i notSkipped
    dsimp only
    split
    · rename_i unnamed
      simp [unnamed]
    · rename_i isNamed
      rw [if_pos (by simp [notSkipped, isNamed])]
      split
      · rename_i isNew
        rw [isNew, Option.map_none, Dictionary.lookup_eq_none_iff] at isTracked
        rw [Dictionary.set_of_absent _ isTracked]
        simp [idsByUser]
      · rename_i tracked isOld
        rw [isOld, Option.map_some] at isTracked
        split
        · unfold closeAllProcesses
          rw [idsByUser_stopUnmonitored]
          have isKey :=
            List.mem_map_of_mem (f := Prod.fst)
              (Dictionary.mem_of_lookup isTracked)
          rw [Dictionary.set_of_distinct _ distinct isKey]
          simp only [modifySession, idsByUser, List.map_map]
          refine List.map_congr_left fun entry _ => ?_
          dsimp only [Function.comp_apply]
          by_cases same : entry.1 = session.username <;> simp [same]
        · rename_i sameId
          rw [ne_eq, not_not] at sameId
          rw [sameId] at isTracked
          exact (Dictionary.set_of_lookup isTracked).symm

/-- The ids that are tracked of users' sessions. -/
structure TracksUsers (manager : SessionManager) : Prop where
  distinct : (manager.idsByUser.map Prod.fst).Nodup
  users : ∀ entry ∈ manager.idsByUser, entry.2 ∉ [0, 65536, 65537]

theorem TracksUsers.refreshSession
    (tracks : manager.TracksUsers)
    (session : WtsSession) :
    (manager.refreshSession session.sessionId
      (some session.username)).TracksUsers := by
  constructor
  all_goals rw [idsByUser_refreshSession tracks.distinct]
  · split
    · exact Dictionary.nodup_keys_set _ _ tracks.distinct
    · exact tracks.distinct
  · intro entry isTracked
    split at isTracked
    · rename_i isUser
      rcases Dictionary.mem_set isTracked with rfl | earlier
      · exact of_decide_eq_true ((Bool.and_eq_true _ _).mp isUser).1
      · exact tracks.users entry earlier
    · exact tracks.users entry isTracked

theorem lookup_idsByUser_refreshSession
    (tracks : manager.TracksUsers)
    (session : WtsSession)
    (username : String) :
    (manager.refreshSession session.sessionId
        (some session.username)).idsByUser.lookup username =
      if session.isUser && session.username = username then
        some session.sessionId
      else manager.idsByUser.lookup username := by
  rw [idsByUser_refreshSession tracks.distinct]
  by_cases isUser : session.isUser = true
  · by_cases same : session.username = username
    · subst same
      simp [isUser]
    · simp [isUser, same, Dictionary.lookup_set_other (Ne.symm same)]
  · simp [isUser]

theorem TracksUsers.refreshSessions
    (tracks : manager.TracksUsers)
    (sessions : List WtsSession) :
    let after :=
      sessions.foldl
        (fun manager session =>
          manager.refreshSession session.sessionId (some session.username))
        manager
    after.TracksUsers ∧
      ∀ username,
        after.idsByUser.lookup username =
          (((sessions.filter fun session =>
              session.isUser && session.username = username).getLast?).map
            WtsSession.sessionId).or (manager.idsByUser.lookup username) := by
  induction sessions generalizing manager with
  | nil =>
    exact ⟨tracks, fun _ => rfl⟩
  | cons session rest inductionHypothesis =>
    obtain ⟨after, lookups⟩ :=
      inductionHypothesis (tracks.refreshSession session)
    refine ⟨after, fun username => (lookups username).trans ?_⟩
    rw [lookup_idsByUser_refreshSession tracks, List.filter_cons]
    split
    · rw [List.getLast?_cons]
      cases (rest.filter fun session =>
          session.isUser && session.username = username).getLast? <;> rfl
    · rfl

end SessionManager

namespace NamedSessions

variable {state : NamedSessions}

theorem Tracks.refreshSessions (tracks : state.Tracks) (windows : Windows) :
    (state.refreshSessions windows).Tracks := by
  obtain ⟨⟨distinct, users⟩, lookups⟩ :=
    SessionManager.TracksUsers.refreshSessions
      ⟨tracks.distinct, tracks.users⟩ windows.sessions
  refine ⟨distinct, users, fun username session isLast => ?_⟩
  refine (lookups username).trans ?_
  change windows.lastOf username = some session at isLast
  unfold Windows.lastOf at isLast
  rw [isLast]
  rfl

theorem getSessionByUsername_snd
    {username : String}
    {found : Option (String × Nat)}
    {looked : NamedSessions}
    (returns :
      state.getSessionByUsername setting username = some (found, looked)) :
    ∃ caches, looked = { state with caches } := by
  unfold getSessionByUsername at returns
  dsimp only at returns
  split at returns
  · obtain ⟨entry, _, same⟩ := Option.map_eq_some_iff.mp returns
    exact ⟨state.caches, (Prod.mk.inj same).2.symm⟩
  · exact ⟨_, (Prod.mk.inj (Option.some.inj returns)).2.symm⟩

theorem executeTask_snd (session : String) :
    ∃ caches, (state.executeTask setting session).2 = { state with caches } := by
  unfold executeTask
  split
  · exact ⟨state.caches, rfl⟩
  · split
    · exact ⟨state.caches, rfl⟩
    · rename_i looked returns
      exact getSessionByUsername_snd setting returns
    · rename_i key sessionId looked returns
      split <;> exact getSessionByUsername_snd setting returns

variable {setting}

theorem Tracks.step
    {action : SessionAction}
    {after : NamedSessions}
    (tracks : state.Tracks)
    (taken : Fires (sessionStep? setting) state action after) :
    after.Tracks := by
  unfold Fires sessionStep? at taken
  cases action with
  | refresh windows =>
    cases taken
    exact tracks.refreshSessions windows
  | task session =>
    cases taken
    obtain ⟨caches, same⟩ := @executeTask_snd setting state session
    rw [same]
    exact ⟨tracks.distinct, tracks.users, tracks.last⟩
  | work manager =>
    dsimp only at taken
    split at taken
    · rename_i same
      cases taken
      exact ⟨same ▸ tracks.distinct, same ▸ tracks.users, same ▸ tracks.last⟩
    · cases taken

theorem tracks_empty : ({} : NamedSessions).Tracks where
  distinct := List.nodup_nil
  users _ member := by cases member
  last _ _ isLast := by cases isLast

def asciiNames : NameSetting where
  library := asciiSystemLibrary
  computerName := "VM-1"

/-- A user of one domain, and one of another. -/
def twoDomains (second : String) : List WtsSession :=
  [{ sessionId := 2, domain := "A", username := "bob" },
    { sessionId := 5, domain := "B", username := second }]

theorem run_refresh (windows : Windows) :
    Run (Fires (sessionStep? setting)) {} [.refresh windows]
      (({} : NamedSessions).refreshSessions windows) :=
  .cons rfl (.nil _)

end NamedSessions

end RpaPlatform.Replica
