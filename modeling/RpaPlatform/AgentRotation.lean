import RpaPlatform.AgentFreshToken

namespace RpaPlatform.Agents

open RegistryDB Transition

/-!
# Rotations beside authorizations

Both `rotate_agent_token_version` and `authorize_agent` read the version in
force, compute the next one, and write it in a statement of its own.  Between
the read and the write other calls for the agent go on, and the write does
not check that the version is still the one that was read.
-/

/-- A call for the agent, between two of its awaits. -/
inductive CredentialsCall where
  | authorizing (token : Option String)
  | authorizeRead
      (token : Option String)
      (credentials : Option CredentialsRow)
  | authorizeWritten (result : AuthResult)
  | authorizeReturned (result : AuthResult)
  | rotating
  | rotateFound
  | rotateRead (tokenVersion : Option Int)
  | rotateWritten (tokenVersion : Int)
  | rotateReturned (tokenVersion : Option Int)

/-- The registry, and the calls for the agent in the order they were made. -/
structure RotationSystem where
  db : RegistryDB
  calls : List CredentialsCall := []

/-- What can happen next. -/
inductive RotationAction where
  | authorize (token : Option String)
  | rotate
  | resume (call : Nat) (now : Int) (jti : String)

def nextVersion (tokenVersion : Option Int) : Int :=
  max (tokenVersion.getD 0) 0 + 1

/-- The statement of `rotate_agent_token_version`. -/
def RegistryDB.writeTokenVersion
    (db : RegistryDB)
    (agentId : String)
    (tokenVersion now : Int) : RegistryDB :=
  { db with
    credentials :=
      db.credentials.upsert
        { agentId
          tokenVersion
          secretRotatedAt := some now
          updatedAt := now }
        (fun row =>
          { row with
            secretHash := none
            tokenVersion
            secretRotatedAt := some now
            updatedAt := now })
        fun _ => rfl }

section Machine

variable (auth : AgentAuth) (agentId : String)

/-- Resume a call up to its next await. -/
def resumeCall
    (db : RegistryDB)
    (now : Int)
    (jti : String) :
    CredentialsCall → Option (RegistryDB × CredentialsCall)
  | .authorizing token =>
    some (db, .authorizeRead token (db.getAgentCredentials agentId))
  | .authorizeRead token credentials =>
    let decision :=
      authorizeDecision auth agentId credentials token now jti
    match decision.2 with
    | none =>
      some (db, .authorizeReturned decision.1)
    | some update =>
      some (db.applyUpdate agentId now (some update),
        .authorizeWritten decision.1)
  | .authorizeWritten result =>
    some (db, .authorizeReturned result)
  | .rotating =>
    if db.registered agentId then
      some (db, .rotateFound)
    else
      some (db, .rotateReturned none)
  | .rotateFound =>
    some (db, .rotateRead (db.tokenVersion agentId))
  | .rotateRead tokenVersion =>
    some
      (db.writeTokenVersion agentId (nextVersion tokenVersion) now,
        .rotateWritten (nextVersion tokenVersion))
  | .rotateWritten tokenVersion =>
    some (db, .rotateReturned (some tokenVersion))
  | .authorizeReturned _ =>
    none
  | .rotateReturned _ =>
    none

/-- Take a step, if it can be taken. -/
def rotationStep?
    (sys : RotationSystem) : RotationAction → Option RotationSystem
  | .authorize token =>
    some { sys with calls := sys.calls ++ [.authorizing token] }
  | .rotate =>
    some { sys with calls := sys.calls ++ [.rotating] }
  | .resume call now jti =>
    match sys.calls[call]? with
    | none =>
      none
    | some state =>
      (resumeCall auth agentId sys.db now jti state).map
        fun (db, next) => { db, calls := sys.calls.set call next }

/-- The token is the bootstrap token, and an access token is issued. -/
def CredentialsRow.issues
    (row : CredentialsRow)
    (token : String)
    (now : Int) : Bool :=
  decide (token ≠ "") && !looksLikeJwt token &&
    !matchesHash row.secretHash (auth.hashToken token) &&
    matchesHash row.bootstrapTokenHash (auth.hashToken token) &&
    (row.bootstrapOpen now || row.recoveryOpen auth.recoveryWindowSeconds now)

/-- The version that is raised is still the one that was read. -/
def RaisesCurrent
    (sys : RotationSystem) : RotationAction → Prop
  | .resume call now _ =>
    match sys.calls[call]? with
    | some (.authorizeRead (some token) (some row)) =>
      row.issues auth token now = true →
        nextVersion (some row.tokenVersion) =
          nextVersion (sys.db.tokenVersion agentId)
    | some (.rotateRead tokenVersion) =>
      nextVersion tokenVersion = nextVersion (sys.db.tokenVersion agentId)
    | _ => True
  | _ => True

end Machine

def AuthResult.issuedSecret : AuthResult → Option String
  | .authorized _ issuedSecret => issuedSecret
  | _ => none

def CredentialsCall.issued : CredentialsCall → Option String
  | .authorizeReturned result => result.issuedSecret
  | _ => none

def CredentialsCall.hasRead : CredentialsCall → Bool
  | .authorizing _ => false
  | _ => true

/--
Once a rotation has returned, the access tokens are rejected that were issued
by calls that had read the credentials before the rotation's write; and no
two access tokens carry one version.
-/
structure RotationRevokes
    (auth : AgentAuth)
    (agentId : String)
    (step : RotationSystem → RotationAction → RotationSystem → Prop) :
    Prop where
  rejected :
    ∀ {initial before after final : RotationSystem}
      {earlier later : List RotationAction}
      {rotation call : Nat}
      {writtenAt : Int}
      {jti : String}
      {version : Int}
      {read : Option Int}
      {state returned : CredentialsCall}
      {token : String},
      initial.calls = [] →
      Run step initial earlier before →
      before.calls[rotation]? = some (.rotateRead read) →
      step before (.resume rotation writtenAt jti) after →
      Run step after later final →
      final.calls[rotation]? = some (.rotateReturned (some version)) →
      before.calls[call]? = some state →
      state.hasRead = true →
      final.calls[call]? = some returned →
      returned.issued = some token →
      ∀ now jti,
        (final.db.authorizeAgent auth agentId (some token) now
          jti).1.isAuthorized = false
  distinct :
    ∀ {initial final : RotationSystem}
      {actions : List RotationAction}
      {first second : Nat}
      {firstCall secondCall : CredentialsCall}
      {firstToken secondToken : String},
      initial.calls = [] →
      Run step initial actions final →
      first ≠ second →
      final.calls[first]? = some firstCall →
      final.calls[second]? = some secondCall →
      firstCall.issued = some firstToken →
      secondCall.issued = some secondToken →
      auth.carriedVersion firstToken ≠ auth.carriedVersion secondToken

/-! ### Versions seen by the calls -/

/-- The access token that a call returns, or has decided to return. -/
def CredentialsCall.token : CredentialsCall → Option String
  | .authorizeWritten result => result.issuedSecret
  | .authorizeReturned result => result.issuedSecret
  | _ => none

variable {state : CredentialsCall}

theorem CredentialsCall.token_of_issued
    {token : String}
    (issued : state.issued = some token) :
    state.token = some token := by
  unfold CredentialsCall.issued at issued
  split at issued
  · exact issued
  · cases issued

/-- What the call has read or issued is not beyond a version. -/
structure Bounded
    (auth : AgentAuth)
    (agentId : String)
    (limit : Int)
    (state : CredentialsCall) : Prop where
  read :
    ∀ {token : Option String} {row : CredentialsRow},
      state = .authorizeRead token (some row) →
      nextVersion (some row.tokenVersion) ≤ limit
  issued :
    ∀ {token : String},
      state.token = some token →
      ∃ version issuedAt jti,
        token = auth.issueAgentAccessToken agentId version issuedAt jti ∧
          version < limit

theorem Bounded.mono
    {auth : AgentAuth}
    {agentId : String}
    {limit later : Int}
    (bounded : Bounded auth agentId limit state)
    (forward : limit ≤ later) :
    Bounded auth agentId later state where
  read isRead := (bounded.read isRead).trans forward
  issued isIssued := by
    obtain ⟨version, issuedAt, jti, same, below⟩ :=
      bounded.issued isIssued
    exact ⟨version, issuedAt, jti, same, lt_of_lt_of_le below forward⟩

theorem bounded_of_quiet
    {auth : AgentAuth}
    {agentId : String}
    {limit : Int}
    (unread : ∀ {token row}, state ≠ .authorizeRead token (some row))
    (unissued : state.token = none) :
    Bounded auth agentId limit state where
  read isRead := (unread isRead).elim
  issued isIssued := by
    rw [unissued] at isIssued
    cases isIssued

section Versions

variable
    {auth : AgentAuth}
    {agentId : String}
    {db after : RegistryDB}
    {state next : CredentialsCall}
    {now : Int}
    {jti : String}

theorem tokenVersion_applyUpdate
    (db : RegistryDB)
    (now : Int)
    (update : CredentialsUpdate) :
    (db.applyUpdate agentId now (some update)).tokenVersion agentId =
      (db.getAgentCredentials agentId).map
        fun row => (row.updated now update).tokenVersion := by
  unfold tokenVersion
  cases found : db.getAgentCredentials agentId with
  | none =>
    unfold getAgentCredentials at found
    unfold getAgentCredentials applyUpdate
    dsimp only
    rw [KeyedTable.find?_modify, if_pos rfl, found]
    rfl
  | some row =>
    rw [getAgentCredentials_applyUpdate found]
    rfl

theorem tokenVersion_writeTokenVersion
    (db : RegistryDB)
    (tokenVersion now : Int) :
    (db.writeTokenVersion agentId tokenVersion now).tokenVersion agentId =
      some tokenVersion := by
  unfold RegistryDB.tokenVersion getAgentCredentials writeTokenVersion
  dsimp only
  rw [KeyedTable.find?_upsert, if_pos rfl]
  cases db.credentials.find? agentId <;> rfl

/-- What resuming a call does to the version in force. -/
inductive ResumeStep
    (auth : AgentAuth)
    (agentId : String)
    (db : RegistryDB)
    (now : Int) :
    CredentialsCall → RegistryDB → CredentialsCall → Prop where
  /-- The version stays, and no token is issued. -/
  | quiet
      {state next : CredentialsCall}
      {after : RegistryDB} :
      after.tokenVersion agentId = db.tokenVersion agentId →
      next.token = state.token →
      next.hasRead = true →
      (∀ {token row},
        next = .authorizeRead token (some row) →
        state = .authorizing token ∧
          db.getAgentCredentials agentId = some row) →
      ResumeStep auth agentId db now state after next
  /-- A token is issued under the version that is written. -/
  | issues
      {after : RegistryDB}
      {token : String}
      {row : CredentialsRow}
      {mode : AuthMode}
      {jti : String} :
      row.issues auth token now = true →
      after.tokenVersion agentId =
        (db.tokenVersion agentId).map
          (fun _ => nextVersion (some row.tokenVersion)) →
      ResumeStep auth agentId db now
        (.authorizeRead (some token) (some row)) after
        (.authorizeWritten
          (.authorized mode
            (some (auth.issueAgentAccessToken agentId
              (nextVersion (some row.tokenVersion)) now jti))))
  /-- A rotation writes its version. -/
  | rotates
      {after : RegistryDB}
      {tokenVersion : Option Int} :
      after.tokenVersion agentId = some (nextVersion tokenVersion) →
      ResumeStep auth agentId db now (.rotateRead tokenVersion) after
        (.rotateWritten (nextVersion tokenVersion))

theorem issuedSecret_of_not_raises
    {credentials : Option CredentialsRow}
    {presented : Option String}
    (unraised :
      ∀ {tokenVersion : Int},
        (authorizeDecision auth agentId credentials presented now jti).2 ≠
          some (.raiseVersion tokenVersion)) :
    (authorizeDecision auth agentId credentials presented now
        jti).1.issuedSecret = none := by
  cases decided :
      (authorizeDecision auth agentId credentials presented now jti).1 with
  | authorized mode issuedSecret =>
    cases issuedSecret with
    | none =>
      rfl
    | some token =>
      obtain ⟨_, _, _, raises⟩ := raises_of_issued decided
      exact (unraised raises).elim
  | _ =>
    rfl

theorem authorizeRead_step
    {presented : Option String}
    {credentials : Option CredentialsRow}
    (resumed :
      resumeCall auth agentId db now jti
          (.authorizeRead presented credentials) =
        some (after, next)) :
    ResumeStep auth agentId db now (.authorizeRead presented credentials)
      after next := by
  simp only [resumeCall] at resumed
  split at resumed
  · rename_i unchanged
    cases resumed
    refine .quiet rfl ?_ rfl nofun
    exact issuedSecret_of_not_raises (by rw [unchanged]; exact nofun)
  · rename_i update decided
    cases resumed
    cases update with
    | markUsed =>
      refine .quiet ?_ ?_ rfl nofun
      · rw [tokenVersion_applyUpdate]
        rfl
      · exact issuedSecret_of_not_raises (by rw [decided]; exact nofun)
    | raiseVersion tokenVersion =>
      cases credentials with
      | none =>
        cases decided
      | some row =>
        obtain ⟨token, rfl, raises⟩ :=
          raisesVersion_of_decision decided
        obtain ⟨mode, _, isResult⟩ := raises.issued
        obtain rfl : tokenVersion = nextVersion (some row.tokenVersion) :=
          raises.next
        rw [isResult]
        refine .issues ?_ ?_
        · rcases raises.accepts with accepts | accepts <;>
            simp [CredentialsRow.issues, raises.nonempty,
              raises.isOpaque, raises.otherSecret, raises.stored,
              accepts]
        · rw [tokenVersion_applyUpdate]
          unfold tokenVersion
          cases db.getAgentCredentials agentId <;> rfl

theorem resumeCall_cases
    (resumed : resumeCall auth agentId db now jti state = some (after, next)) :
    ResumeStep auth agentId db now state after next := by
  cases state with
  | authorizing token =>
    cases resumed
    refine .quiet rfl rfl rfl ?_
    intro presented row same
    simp only [CredentialsCall.authorizeRead.injEq] at same
    obtain ⟨rfl, found⟩ := same
    exact ⟨rfl, found⟩
  | authorizeRead token credentials =>
    exact authorizeRead_step resumed
  | authorizeWritten | rotateFound | rotateWritten =>
    cases resumed
    exact .quiet rfl rfl rfl nofun
  | rotating =>
    simp only [resumeCall] at resumed
    split at resumed <;> cases resumed <;> exact .quiet rfl rfl rfl nofun
  | rotateRead tokenVersion =>
    cases resumed
    exact .rotates (tokenVersion_writeTokenVersion db _ now)
  | _ =>
    cases resumed

def RegistryDB.following (db : RegistryDB) (agentId : String) : Int :=
  nextVersion (db.tokenVersion agentId)

/-- What a call computes from what it has read is up to date. -/
def UpToDate
    (auth : AgentAuth)
    (following now : Int) : CredentialsCall → Prop
  | .authorizeRead (some token) (some row) =>
    row.issues auth token now = true →
      nextVersion (some row.tokenVersion) = following
  | .rotateRead tokenVersion =>
    nextVersion tokenVersion = following
  | _ => True

theorem nextVersion_following (tokenVersion : Option Int) :
    nextVersion (some (nextVersion tokenVersion)) =
      nextVersion tokenVersion + 1 := by
  unfold nextVersion
  dsimp only [Option.getD_some]
  omega

section Resuming

variable
    (stepped : ResumeStep auth agentId db now state after next)
    (upToDate : UpToDate auth (db.following agentId) now state)
    (stored :
      ∀ {token row},
        state = .authorizeRead token (some row) →
        (db.tokenVersion agentId).isSome = true)
include stepped upToDate stored

theorem ResumeStep.following :
    after.following agentId = db.following agentId ∧
        next.token = state.token ∨
      after.following agentId = db.following agentId + 1 ∧
        ∀ {token : String},
          next.token = some token →
          ∃ issuedAt jti,
            token =
              auth.issueAgentAccessToken agentId (db.following agentId)
                issuedAt jti := by
  cases stepped with
  | quiet kept sameToken _ _ =>
    refine .inl ⟨?_, sameToken⟩
    rw [RegistryDB.following, kept, RegistryDB.following]
  | @issues _ token row mode jti accepted written =>
    have current := upToDate accepted
    obtain ⟨inForce, isInForce⟩ :=
      Option.isSome_iff_exists.mp (stored rfl)
    refine .inr ⟨?_, ?_⟩
    · rw [RegistryDB.following, written, isInForce, Option.map_some,
        nextVersion_following, current]
    · intro token isToken
      rw [← Option.some.inj isToken]
      exact ⟨now, jti, by rw [current]⟩
  | rotates written =>
    refine .inr ⟨?_, nofun⟩
    have current : nextVersion _ = db.following agentId := upToDate
    rw [RegistryDB.following, written, nextVersion_following, current]

theorem ResumeStep.bounded
    (bounded : Bounded auth agentId (db.following agentId) state) :
    Bounded auth agentId (after.following agentId) next where
  read := by
    rintro token row rfl
    cases stepped with
    | quiet kept _ _ reads =>
      obtain ⟨_, found⟩ := reads rfl
      have inForce : db.tokenVersion agentId = some row.tokenVersion := by
        rw [tokenVersion, found]
        rfl
      rw [RegistryDB.following, kept, inForce]
  issued := by
    intro token isIssued
    rcases stepped.following upToDate stored with
      ⟨same, sameToken⟩ | ⟨raised, issued⟩
    · rw [sameToken] at isIssued
      rw [same]
      exact bounded.issued isIssued
    · obtain ⟨issuedAt, jti, rfl⟩ := issued isIssued
      exact ⟨db.following agentId, issuedAt, jti, rfl, by omega⟩

end Resuming

theorem ResumeStep.stored
    (stepped : ResumeStep auth agentId db now state after next)
    (stored : (db.tokenVersion agentId).isSome = true) :
    (after.tokenVersion agentId).isSome = true := by
  cases stepped with
  | quiet kept _ _ _ =>
    rw [kept]
    exact stored
  | issues _ written =>
    rw [written, Option.isSome_map]
    exact stored
  | rotates written =>
    rw [written]
    rfl

theorem ResumeStep.behind
    {limit : Int}
    (stepped : ResumeStep auth agentId db now state after next)
    (upToDate : UpToDate auth (db.following agentId) now state)
    (hasRead : state.hasRead = true)
    (behind : limit < db.following agentId)
    (bounded : Bounded auth agentId limit state) :
    Bounded auth agentId limit next ∧ next.hasRead = true := by
  cases stepped with
  | quiet _ sameToken nextHasRead reads =>
    refine ⟨⟨?_, ?_⟩, nextHasRead⟩
    · rintro token row rfl
      obtain ⟨rfl, _⟩ := reads rfl
      cases hasRead
    · intro token isIssued
      rw [sameToken] at isIssued
      exact bounded.issued isIssued
  | issues accepted _ =>
    have current := upToDate accepted
    have read := bounded.read rfl
    omega
  | rotates _ =>
    exact ⟨bounded_of_quiet nofun rfl, rfl⟩

end Versions

/-! ### Runs without lost increments -/

/-- The calls of a system keep within the version in force. -/
structure Synchronised
    (auth : AgentAuth)
    (agentId : String)
    (sys : RotationSystem) : Prop where
  bounded :
    ∀ {call : Nat} {state : CredentialsCall},
      sys.calls[call]? = some state →
      Bounded auth agentId (sys.db.following agentId) state
  stored :
    ∀ {call : Nat} {token : Option String} {row : CredentialsRow},
      sys.calls[call]? = some (.authorizeRead token (some row)) →
      (sys.db.tokenVersion agentId).isSome = true
  distinct :
    ∀ {first second : Nat}
      {firstCall secondCall : CredentialsCall}
      {firstToken secondToken : String},
      first ≠ second →
      sys.calls[first]? = some firstCall →
      sys.calls[second]? = some secondCall →
      firstCall.token = some firstToken →
      secondCall.token = some secondToken →
      auth.carriedVersion firstToken ≠ auth.carriedVersion secondToken

section Runs

variable
    {auth : AgentAuth}
    {agentId : String}
    {before after : RotationSystem}
    {action : RotationAction}

theorem upToDate_of_raisesCurrent
    {call : Nat}
    {now : Int}
    {jti : String}
    {state : CredentialsCall}
    (current : RaisesCurrent auth agentId before (.resume call now jti))
    (found : before.calls[call]? = some state) :
    UpToDate auth (before.db.following agentId) now state := by
  simp only [RaisesCurrent, found] at current
  unfold UpToDate
  split
  · exact current
  · exact current
  · trivial

theorem rotationStep_cases
    (fired : Fires (rotationStep? auth agentId) before action after) :
    (∃ state : CredentialsCall,
        after = { before with calls := before.calls ++ [state] } ∧
          state.token = none ∧
          ∀ {token row}, state ≠ .authorizeRead token (some row)) ∨
      ∃ call now jti state db next,
        action = .resume call now jti ∧
          before.calls[call]? = some state ∧
          after = { db, calls := before.calls.set call next } ∧
          ResumeStep auth agentId before.db now state db next := by
  cases action with
  | authorize token =>
    cases fired
    exact .inl ⟨.authorizing token, rfl, rfl, nofun⟩
  | rotate =>
    cases fired
    exact .inl ⟨.rotating, rfl, rfl, nofun⟩
  | resume call now jti =>
    simp only [Fires, rotationStep?] at fired
    split at fired
    · cases fired
    · rename_i state found
      obtain ⟨⟨db, next⟩, resumed, rfl⟩ :=
        Option.map_eq_some_iff.mp fired
      exact .inr ⟨call, now, jti, state, db, next, rfl, found, rfl,
        resumeCall_cases resumed⟩

theorem Synchronised.differs
    (lawful : auth.library.Lawful)
    (synchronised : Synchronised auth agentId before)
    {resumed other : Nat}
    {now : Int}
    {state next otherState : CredentialsCall}
    {db : RegistryDB}
    {token otherToken : String}
    (found : before.calls[resumed]? = some state)
    (upToDate : UpToDate auth (before.db.following agentId) now state)
    (stepped : ResumeStep auth agentId before.db now state db next)
    (different : other ≠ resumed)
    (isOther : before.calls[other]? = some otherState)
    (issued : next.token = some token)
    (otherIssued : otherState.token = some otherToken) :
    auth.carriedVersion token ≠ auth.carriedVersion otherToken := by
  have stored :
      ∀ {token row},
        state = .authorizeRead token (some row) →
        (before.db.tokenVersion agentId).isSome = true := by
    rintro token row rfl
    exact synchronised.stored found
  rcases stepped.following upToDate stored with
    ⟨_, sameToken⟩ | ⟨_, isIssued⟩
  · rw [sameToken] at issued
    exact synchronised.distinct different.symm found isOther issued otherIssued
  · obtain ⟨issuedAt, jti, rfl⟩ := isIssued issued
    obtain ⟨version, otherAt, otherJti, rfl, below⟩ :=
      (synchronised.bounded isOther).issued otherIssued
    rw [AgentAuth.carriedVersion_issue lawful,
      AgentAuth.carriedVersion_issue lawful]
    intro same
    cases same
    exact lt_irrefl _ below

/-- A step that is up to date keeps the system synchronised. -/
theorem Synchronised.step
    (lawful : auth.library.Lawful)
    (synchronised : Synchronised auth agentId before)
    (fired : Fires (rotationStep? auth agentId) before action after)
    (current : RaisesCurrent auth agentId before action) :
    Synchronised auth agentId after ∧
      before.db.following agentId ≤ after.db.following agentId := by
  rcases rotationStep_cases fired with
    ⟨state, rfl, unissued, unread⟩ |
      ⟨call, now, jti, state, db, next, rfl, found, rfl, stepped⟩
  · refine ⟨⟨?_, ?_, ?_⟩, le_rfl⟩
    · intro other otherState isFound
      rcases getElem?_append_cases isFound with rfl | isFound
      · exact bounded_of_quiet unread unissued
      · exact synchronised.bounded isFound
    · intro other token row isFound
      rcases getElem?_append_cases isFound with same | isFound
      · exact (unread same.symm).elim
      · exact synchronised.stored isFound
    · intro first second firstCall secondCall firstToken secondToken
        different isFirst isSecond firstIssued secondIssued
      rcases getElem?_append_cases isFirst with rfl | isFirst
      · rw [unissued] at firstIssued
        cases firstIssued
      · rcases getElem?_append_cases isSecond with rfl | isSecond
        · rw [unissued] at secondIssued
          cases secondIssued
        · exact synchronised.distinct different isFirst isSecond
            firstIssued secondIssued
  · have upToDate := upToDate_of_raisesCurrent current found
    have stored :
        ∀ {token row},
          state = .authorizeRead token (some row) →
          (before.db.tokenVersion agentId).isSome = true := by
      rintro token row rfl
      exact synchronised.stored found
    have effect := stepped.following upToDate stored
    have forward : before.db.following agentId ≤ db.following agentId := by
      rcases effect with ⟨same, _⟩ | ⟨raised, _⟩ <;> omega
    refine ⟨⟨?_, ?_, ?_⟩, forward⟩
    · intro other otherState isFound
      rcases getElem?_set_cases isFound with ⟨rfl, rfl⟩ | ⟨_, isFound⟩
      · exact stepped.bounded upToDate stored (synchronised.bounded found)
      · exact (synchronised.bounded isFound).mono forward
    · intro other token row isFound
      rcases getElem?_set_cases isFound with ⟨rfl, rfl⟩ | ⟨_, isFound⟩
      · cases stepped with
        | quiet kept _ _ reads =>
          obtain ⟨_, isRow⟩ := reads rfl
          rw [kept, tokenVersion, isRow]
          rfl
      · exact stepped.stored (synchronised.stored isFound)
    · intro first second firstCall secondCall firstToken secondToken
        different isFirst isSecond firstIssued secondIssued
      rcases getElem?_set_cases isFirst with
        ⟨rfl, rfl⟩ | ⟨_, wasFirst⟩
      · rcases getElem?_set_cases isSecond with
          ⟨same, _⟩ | ⟨_, wasSecond⟩
        · exact (different same.symm).elim
        · exact synchronised.differs lawful found upToDate stepped
            different.symm wasSecond firstIssued secondIssued
      · rcases getElem?_set_cases isSecond with
          ⟨rfl, rfl⟩ | ⟨_, wasSecond⟩
        · exact
            (synchronised.differs lawful found upToDate stepped different
              wasFirst secondIssued firstIssued).symm
        · exact synchronised.distinct different wasFirst wasSecond
            firstIssued secondIssued

theorem synchronised_of_run
    (lawful : auth.library.Lawful)
    {actions : List RotationAction}
    (idle : before.calls = [])
    (run :
      Run
        (Guarded (Fires (rotationStep? auth agentId))
          (RaisesCurrent auth agentId))
        before actions after) :
    Synchronised auth agentId after := by
  have initially : Synchronised auth agentId before := by
    refine ⟨?_, ?_, ?_⟩ <;> simp [idle]
  refine run.preserves ?_ initially
  rintro before action after ⟨fired, current⟩ synchronised
  exact (synchronised.step lawful fired current).1

/-- A call has fallen behind the version in force. -/
structure Behind
    (auth : AgentAuth)
    (agentId : String)
    (limit : Int)
    (call : Nat)
    (sys : RotationSystem) : Prop where
  positive : 0 < limit
  raised : limit < sys.db.following agentId
  bounded :
    ∃ state,
      sys.calls[call]? = some state ∧
        state.hasRead = true ∧ Bounded auth agentId limit state

theorem Synchronised.behind
    {rotation call : Nat}
    {writtenAt : Int}
    {jti : String}
    {read : Option Int}
    {state : CredentialsCall}
    (synchronised : Synchronised auth agentId before)
    (isRotation : before.calls[rotation]? = some (.rotateRead read))
    (isCall : before.calls[call]? = some state)
    (hasRead : state.hasRead = true)
    (fired :
      Fires (rotationStep? auth agentId) before
        (.resume rotation writtenAt jti) after)
    (current :
      RaisesCurrent auth agentId before (.resume rotation writtenAt jti)) :
    Behind auth agentId (before.db.following agentId) call after := by
  have upToDate : nextVersion read = before.db.following agentId :=
    upToDate_of_raisesCurrent current isRotation
  simp only [Fires, rotationStep?, isRotation, resumeCall,
    Option.map_some, Option.some.injEq] at fired
  subst after
  have positive : 0 < before.db.following agentId := by
    unfold following nextVersion
    omega
  have raised :
      (before.db.writeTokenVersion agentId (nextVersion read)
          writtenAt).following agentId =
        before.db.following agentId + 1 := by
    rw [following, tokenVersion_writeTokenVersion, nextVersion_following,
      upToDate]
  refine ⟨positive, ?_, ?_⟩
  · dsimp only
    omega
  · by_cases same : rotation = call
    · subst rotation
      have isPosition : call < before.calls.length :=
        (List.getElem?_eq_some_iff.mp isCall).1
      exact ⟨_, List.getElem?_set_self isPosition, rfl,
        bounded_of_quiet nofun rfl⟩
    · refine ⟨state, ?_, hasRead, synchronised.bounded isCall⟩
      dsimp only
      rw [List.getElem?_set_ne same, isCall]

theorem Behind.step
    (lawful : auth.library.Lawful)
    {limit : Int}
    {call : Nat}
    (synchronised : Synchronised auth agentId before)
    (fired : Fires (rotationStep? auth agentId) before action after)
    (current : RaisesCurrent auth agentId before action)
    (behind : Behind auth agentId limit call before) :
    Behind auth agentId limit call after := by
  have forward := (synchronised.step lawful fired current).2
  refine ⟨behind.positive, lt_of_lt_of_le behind.raised forward, ?_⟩
  obtain ⟨state, found, hasRead, bounded⟩ := behind.bounded
  have isCall : call < before.calls.length :=
    (List.getElem?_eq_some_iff.mp found).1
  rcases rotationStep_cases fired with
    ⟨added, rfl, _, _⟩ |
      ⟨resumed, now, jti, other, db, next, rfl, isOther, rfl, stepped⟩
  · refine ⟨state, ?_, hasRead, bounded⟩
    dsimp only
    rw [List.getElem?_append_left isCall, found]
  · by_cases same : resumed = call
    · subst resumed
      rw [found, Option.some.injEq] at isOther
      subst other
      have upToDate := upToDate_of_raisesCurrent current found
      obtain ⟨nextBounded, nextHasRead⟩ :=
        stepped.behind upToDate hasRead behind.raised bounded
      refine ⟨next, ?_, nextHasRead, nextBounded⟩
      rw [List.getElem?_set_self isCall]
    · refine ⟨state, ?_, hasRead, bounded⟩
      dsimp only
      rw [List.getElem?_set_ne same, found]

theorem Behind.rejected
    {limit : Int}
    {call : Nat}
    {returned : CredentialsCall}
    {token : String}
    (lawful : auth.library.Lawful)
    (behind : Behind auth agentId limit call after)
    (found : after.calls[call]? = some returned)
    (issued : returned.issued = some token)
    (now : Int)
    (jti : String) :
    (after.db.authorizeAgent auth agentId (some token) now
      jti).1.isAuthorized = false := by
  obtain ⟨state, isState, _, bounded⟩ := behind.bounded
  rw [found, Option.some.injEq] at isState
  subst state
  obtain ⟨version, issuedAt, issuedJti, rfl, below⟩ :=
    bounded.issued (CredentialsCall.token_of_issued issued)
  have positive := behind.positive
  have raised := behind.raised
  unfold following tokenVersion at raised
  rw [Bool.eq_false_iff]
  intro authorized
  rw [authorizeAgent_fst] at authorized
  cases stored : after.db.getAgentCredentials agentId with
  | none =>
    rw [stored] at raised
    simp only [Option.map_none, nextVersion, Option.getD_none] at raised
    omega
  | some row =>
    rw [stored] at authorized raised
    have current :=
      carriedVersion_of_authorized
        (AgentAuth.looksLikeJwt_issue lawful _ _ _ _) authorized
    rw [AgentAuth.carriedVersion_issue lawful, Option.some.injEq] at current
    simp only [Option.map_some, nextVersion, Option.getD_some] at raised
    omega

end Runs

/-- Without lost increments, rotations revoke what was read before them. -/
theorem rotationRevokes_of_raisesCurrent
    {auth : AgentAuth}
    (lawful : auth.library.Lawful)
    (agentId : String) :
    RotationRevokes auth agentId
      (Guarded (Fires (rotationStep? auth agentId))
        (RaisesCurrent auth agentId)) where
  rejected := by
    intro initial before after final earlier later rotation call writtenAt
      jti version read state returned token idle leading isRotation taken
      trailing _ isCall hasRead isReturned issued now presentedJti
    have synchronised := synchronised_of_run lawful idle leading
    have behind := synchronised.behind isRotation isCall hasRead taken.1 taken.2
    let keeps : RotationSystem → Prop :=
      fun sys =>
        Synchronised auth agentId sys ∧
          Behind auth agentId (before.db.following agentId) call sys
    have start : keeps after :=
      ⟨(synchronised.step lawful taken.1 taken.2).1, behind⟩
    have kept : keeps final := by
      refine trailing.preserves ?_ start
      rintro earlier action later ⟨fired, current⟩ ⟨synchronised, behind⟩
      exact ⟨(synchronised.step lawful fired current).1,
        behind.step lawful synchronised fired current⟩
    exact kept.2.rejected lawful isReturned issued now presentedJti
  distinct := by
    intro initial final actions first second firstCall secondCall
      firstToken secondToken idle run different isFirst isSecond
      firstIssued secondIssued
    have synchronised := synchronised_of_run lawful idle run
    exact synchronised.distinct different isFirst isSecond
      (CredentialsCall.token_of_issued firstIssued)
      (CredentialsCall.token_of_issued secondIssued)

/-! ### A rotation after an authorization -/

instance (auth : AgentAuth) (agentId : String) (sys : RotationSystem)
    (action : RotationAction) :
    Decidable (RaisesCurrent auth agentId sys action) := by
  unfold RaisesCurrent
  split
  · split <;> infer_instance
  · infer_instance

/-- An agent is given an access token, and a rotation reads its version. -/
def authorizedThenRotating : List RotationAction :=
  [.authorize (some secondBootstrapToken.text),
    .resume 0 1700605000 secondJti, .resume 0 1700605000 secondJti,
    .resume 0 1700605000 secondJti, .rotate,
    .resume 1 1700605100 secondJti, .resume 1 1700605100 secondJti]

def rotationReturning : List RotationAction :=
  [.resume 1 1700605100 secondJti, .resume 1 1700605100 secondJti]

/-- Both calls have read the credentials. -/
def rotationHasRead (sys : RotationSystem) : Bool :=
  match sys.calls with
  | [state, .rotateRead _] => state.hasRead
  | _ => false

/-- Both calls have returned, and the first one has issued a token. -/
def rotationHasReturned (sys : RotationSystem) : Bool :=
  match sys.calls with
  | [returned, .rotateReturned (some _)] => returned.issued.isSome
  | _ => false

/-- The access token is rejected after the rotation. -/
theorem authorizedThenRotated_rejected :
    ∃ final returned token,
      Run
          (Guarded (Fires (rotationStep? redeploymentAuth "agent-1"))
            (RaisesCurrent redeploymentAuth "agent-1"))
          { db := redeployed deployedRegistry }
          (authorizedThenRotating ++ rotationReturning) final ∧
        final.calls[0]? = some returned ∧
        CredentialsCall.issued returned = some token ∧
        (final.db.authorizeAgent redeploymentAuth "agent-1" (some token)
          1700605200 secondJti).1.isAuthorized = false := by
  obtain ⟨before, final, leading, trailing, passed, reached⟩ :=
    exists_runs_of_execute
      (show
        (execute
            (checked (rotationStep? redeploymentAuth "agent-1")
              (RaisesCurrent redeploymentAuth "agent-1"))
            { db := redeployed deployedRegistry }
            authorizedThenRotating).any
          rotationHasRead =
        true by decide)
      (show
        (execute
            (checked (rotationStep? redeploymentAuth "agent-1")
              (RaisesCurrent redeploymentAuth "agent-1"))
            { db := redeployed deployedRegistry }
            (authorizedThenRotating ++ rotationReturning)).any
          rotationHasReturned =
        true by decide)
  have leading := leading.guarded_of_checked
  have trailing := trailing.guarded_of_checked
  unfold rotationHasRead at passed
  unfold rotationHasReturned at reached
  split at passed
  · rename_i state read isBefore
    split at reached
    · rename_i returned version isFinal
      obtain ⟨token, issued⟩ := Option.isSome_iff_exists.mp reached
      have whole := leading.append trailing
      cases trailing with
      | cons taken rest =>
        refine ⟨final, returned, token, whole, ?_, issued, ?_⟩
        · rw [isFinal]
          rfl
        · exact
            (rotationRevokes_of_raisesCurrent redeploymentLibrary_lawful
              "agent-1").rejected rfl leading
              (show before.calls[1]? = _ by rw [isBefore]; rfl) taken
              rest (show final.calls[1]? = _ by rw [isFinal]; rfl)
              (show before.calls[0]? = some state by
                rw [isBefore]; rfl)
              passed
              (show final.calls[0]? = some returned by
                rw [isFinal]; rfl)
              issued 1700605200 secondJti
    · cases reached
  · cases passed

/-! ### A rotation that is overtaken -/

section Overtaken

variable
    {auth : AgentAuth}
    {agentId token issued : String}
    {db : RegistryDB}
    {row : CredentialsRow}
    {mode : AuthMode}
    {version writtenAt now : Int}
    {jti : String}

/-- A rotation and an authorization have both read the credentials. -/
def bothRead
    (db : RegistryDB)
    (row : CredentialsRow)
    (token : String) : RotationSystem where
  db
  calls :=
    [.rotateRead (some row.tokenVersion),
      .authorizeRead (some token) (some row)]

/-- The rotation has written its version. -/
def rotationWritten
    (db : RegistryDB)
    (agentId : String)
    (row : CredentialsRow)
    (token : String)
    (writtenAt : Int) : RotationSystem where
  db :=
    db.writeTokenVersion agentId (nextVersion (some row.tokenVersion)) writtenAt
  calls :=
    [.rotateWritten (nextVersion (some row.tokenVersion)),
      .authorizeRead (some token) (some row)]

/-- The authorization has written the version that it had computed. -/
def bothReturned
    (db : RegistryDB)
    (agentId : String)
    (row : CredentialsRow)
    (mode : AuthMode)
    (issued : String)
    (version writtenAt now : Int) : RotationSystem where
  db :=
    (db.writeTokenVersion agentId (nextVersion (some row.tokenVersion))
      writtenAt).applyUpdate agentId now (some (.raiseVersion version))
  calls :=
    [.rotateReturned (some (nextVersion (some row.tokenVersion))),
      .authorizeReturned (.authorized mode (some issued))]

theorem run_bothRead
    (registered : db.registered agentId = true)
    (found : db.getAgentCredentials agentId = some row)
    (now : Int)
    (jti : String) :
    Run (Fires (rotationStep? auth agentId)) { db }
      [.rotate, .authorize (some token), .resume 0 now jti,
        .resume 0 now jti, .resume 1 now jti]
      (bothRead db row token) := by
  apply run_of_execute
  simp [execute, rotationStep?, resumeCall, registered, tokenVersion,
    found, bothRead]

theorem fires_rotationWritten (writtenAt : Int) (jti : String) :
    Fires (rotationStep? auth agentId) (bothRead db row token)
      (.resume 0 writtenAt jti)
      (rotationWritten db agentId row token writtenAt) :=
  rfl

theorem run_bothReturned
    (decided :
      authorizeDecision auth agentId (some row) (some token) now jti =
        (.authorized mode (some issued), some (.raiseVersion version))) :
    Run (Fires (rotationStep? auth agentId))
      (rotationWritten db agentId row token writtenAt)
      [.resume 0 now jti, .resume 1 now jti, .resume 1 now jti]
      (bothReturned db agentId row mode issued version writtenAt now) := by
  apply run_of_execute
  simp [execute, rotationStep?, resumeCall, rotationWritten, decided,
    bothReturned]

theorem bothReturned_found
    (found : db.getAgentCredentials agentId = some row) :
    ∃ next,
      (bothReturned db agentId row mode issued version writtenAt
          now).db.getAgentCredentials agentId = some next ∧
        next.tokenVersion = version := by
  have written :
      ∃ rotated,
        (db.writeTokenVersion agentId
            (nextVersion (some row.tokenVersion))
            writtenAt).getAgentCredentials agentId = some rotated := by
    unfold getAgentCredentials at found
    unfold getAgentCredentials writeTokenVersion
    dsimp only
    rw [KeyedTable.find?_upsert, if_pos rfl, found]
    exact ⟨_, rfl⟩
  obtain ⟨rotated, isRotated⟩ := written
  exact ⟨_, getAgentCredentials_applyUpdate isRotated now _, rfl⟩

end Overtaken

theorem decision_redeployed
    {row : CredentialsRow}
    (holds : RedeployedRow row) :
    authorizeDecision redeploymentAuth "agent-1" (some row)
        (some secondBootstrapToken.text) 1700605000 secondJti =
      (.authorized .bootstrap
          (some (redeploymentAuth.issueAgentAccessToken "agent-1" 2
            1700605000 secondJti)),
        some (.raiseVersion 2)) := by
  obtain ⟨first, noSecret, rotated, unused, expires, hash⟩ := holds
  have otherSecret :
      matchesHash row.secretHash
        (redeploymentAuth.hashToken secondBootstrapToken.text) = false := by
    rw [noSecret]
    rfl
  have isOpen : row.bootstrapOpen 1700605000 = true := by
    simp [CredentialsRow.bootstrapOpen, unused, expires, filledInt]
  rw [authorizeDecision_bootstrapToken, authorizeOpaque, otherSecret,
    matchesHash_stored redeploymentLibrary_lawful hash, isOpen, first]
  rfl

/-- An access token outlives the rotation that its issue overtook. -/
theorem not_rotationRevokes :
    ¬ RotationRevokes redeploymentAuth "agent-1"
      (Fires (rotationStep? redeploymentAuth "agent-1")) := by
  intro revokes
  obtain ⟨row, found, holds⟩ := redeployedRow_found
  have registered :
      (redeployed deployedRegistry).registered "agent-1" = true := by
    decide
  let issued : String :=
    redeploymentAuth.issueAgentAccessToken "agent-1" 2 1700605000 secondJti
  let final : RotationSystem :=
    bothReturned (redeployed deployedRegistry) "agent-1" row .bootstrap
      issued 2 1700605000 1700605000
  have isCall :
      (bothRead (redeployed deployedRegistry) row
          secondBootstrapToken.text).calls[1]? =
        some (.authorizeRead (some secondBootstrapToken.text) (some row)) :=
    rfl
  have isReturned :
      final.calls[1]? =
        some (.authorizeReturned (.authorized .bootstrap (some issued))) :=
    rfl
  have rejected :
      (final.db.authorizeAgent redeploymentAuth "agent-1" (some issued)
        1700605100 secondJti).1.isAuthorized = false :=
    revokes.rejected rfl
      (run_bothRead registered found 1700605000 secondJti) rfl
      (fires_rotationWritten 1700605000 secondJti)
      (run_bothReturned (decision_redeployed holds)) rfl isCall rfl
      isReturned rfl 1700605100 secondJti
  obtain ⟨next, isNext, inForce⟩ :
      ∃ next,
        final.db.getAgentCredentials "agent-1" = some next ∧
          next.tokenVersion = 2 :=
    bothReturned_found found
  have accepted :
      authorizeDecision redeploymentAuth "agent-1" (some next)
          (some (redeploymentAuth.issueAgentAccessToken "agent-1"
            next.tokenVersion 1700605000 secondJti))
          1700605100 secondJti =
        (.authorized .jwt none, markUsedOnce next) :=
    authorizeDecision_issued redeploymentLibrary_lawful
      (by rw [inForce]; decide) rfl
  rw [inForce] at accepted
  rw [authorizeAgent_fst, isNext, accepted] at rejected
  cases rejected

end RpaPlatform.Agents
