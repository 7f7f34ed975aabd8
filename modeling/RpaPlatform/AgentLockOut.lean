import RpaPlatform.AgentHandshake

namespace RpaPlatform.Agents

open HandshakeSystem Transition

/-!
# Whether an agent can be locked out

After a deployment the agent has a bootstrap token, which it drops for the
first access token it receives.  The server raises the token version whenever
it accepts the bootstrap token, also on a connection that the agent has
abandoned, and then the access token that the agent has kept is no longer
accepted.
-/

/-- An agent has just been given a bootstrap token. -/
structure Deployed
    (auth : AgentAuth)
    (agentId bootstrap : String)
    (row : CredentialsRow)
    (sys : HandshakeSystem) : Prop where
  nonempty : bootstrap ≠ ""
  noJwt : looksLikeJwt bootstrap = false
  config : sys.config = { bootstrapToken := some bootstrap }
  noSockets : sys.sockets = []
  noCurrent : sys.current = none
  found : sys.db.getAgentCredentials agentId = some row
  hash : row.bootstrapTokenHash = some (auth.hashToken bootstrap)
  unused : row.bootstrapUsedAt = none
  otherSecret : row.secretHash ≠ some (auth.hashToken bootstrap)

/--
While the bootstrap token has not expired and no handshake is in flight, the
credential that the agent would present is accepted.
-/
def NoLockOut
    (auth : AgentAuth)
    (agentId : String)
    (step : HandshakeSystem → HandshakeAction → HandshakeSystem → Prop) :
    Prop :=
  ∀ {initial final : HandshakeSystem}
    {actions : List HandshakeAction}
    {bootstrap : String}
    {row : CredentialsRow},
    Deployed auth agentId bootstrap row initial →
    Run step initial actions final →
    row.bootstrapExpiresAt.all (final.clock ≤ ·) = true →
    final.handshakeInFlight = false →
    ∀ jti,
      (final.db.authorizeAgent auth agentId final.config.authSecret
        final.clock jti).1.isAuthorized = true

def raises : Option CredentialsUpdate → Bool
  | some (.raiseVersion _) => true
  | _ => false

/-- No access token is under way on the connection that the agent reads. -/
def awaitsNoToken (sys : HandshakeSystem) (answering : Nat) : Bool :=
  sys.current.all fun socket =>
    socket = answering ||
      sys.sockets[socket]?.all fun state => !state.carriesToken

/--
The server accepts a bootstrap token only while the agent has no access token
and none is under way to it on another connection, and access tokens are not
used beyond the lifetime that the server gives them.
-/
def Orderly
    (auth : AgentAuth)
    (agentId : String)
    (sys : HandshakeSystem) : HandshakeAction → Prop
  | .authorize socket _ jti =>
    match sys.sockets[socket]? with
    | some (.authorizing token credentials) =>
      raises
          (authorizeDecision auth agentId credentials token sys.clock
            jti).2 = true →
        sys.config.accessToken = none ∧ awaitsNoToken sys socket = true
    | _ => True
  | .deliverAuthResult =>
    match sys.current.bind fun socket => sys.sockets[socket]? with
    | some (.answered result) =>
      auth.outlived result.accessToken sys.clock = false
    | _ => True
  | .tick later =>
    sys.config.accessToken.all (fun token => !auth.outlived token later) = true
  | _ => True

instance (auth : AgentAuth) (agentId : String) (sys : HandshakeSystem)
    (action : HandshakeAction) :
    Decidable (Orderly auth agentId sys action) := by
  unfold Orderly
  split
  · split <;> infer_instance
  · split <;> infer_instance
  · infer_instance
  · infer_instance

/-! ### What an authorization comes to -/

section Decisions

variable
    {auth : AgentAuth}
    {agentId : String}
    {credentials : Option CredentialsRow}
    {presented : Option String}
    {now : Int}
    {jti : String}

def AuthResult.IssuesNone : AuthResult → Prop
  | authorized _ issuedSecret => issuedSecret = none
  | _ => True

/-- The three outcomes of an authorization. -/
inductive Outcome
    (auth : AgentAuth)
    (agentId : String)
    (credentials : Option CredentialsRow)
    (presented : Option String)
    (now : Int)
    (jti : String) :
    AuthResult × Option CredentialsUpdate → Prop where
  | unchanged
      {result : AuthResult} :
      result.IssuesNone →
      Outcome auth agentId credentials presented now jti (result, none)
  | used
      {result : AuthResult}
      {token : String}
      {row : CredentialsRow} :
      result.IssuesNone →
      presented = some token →
      credentials = some row →
      looksLikeJwt token = true ∨ row.secretHash = some (auth.hashToken token) →
      Outcome auth agentId credentials presented now jti
        (result, some .markUsed)
  | raised
      {mode : AuthMode}
      {tokenVersion : Int} :
      0 < tokenVersion →
      Outcome auth agentId credentials presented now jti
        (.authorized mode
            (some (auth.issueAgentAccessToken agentId tokenVersion now jti)),
          some (.raiseVersion tokenVersion))

variable {token : String}

theorem outcome_markUsedOnce
    {mode : AuthMode}
    {row : CredentialsRow}
    (cause :
      looksLikeJwt token = true ∨
        row.secretHash = some (auth.hashToken token)) :
    Outcome auth agentId (some row) (some token) now jti
      (.authorized mode none, markUsedOnce row) := by
  unfold markUsedOnce
  split
  · exact .unchanged rfl
  · exact .used rfl rfl rfl cause

theorem outcome_authorizeJwt
    (row : CredentialsRow)
    (isJwt : looksLikeJwt token = true) :
    Outcome auth agentId (some row) (some token) now jti
      (authorizeJwt auth agentId row token now) := by
  unfold authorizeJwt
  split
  · exact .unchanged trivial
  · split
    · exact outcome_markUsedOnce (.inl isJwt)
    · exact .unchanged trivial
    · exact .unchanged trivial

theorem outcome_authorizeOpaque
    (row : CredentialsRow) :
    Outcome auth agentId (some row) (some token) now jti
      (authorizeOpaque auth agentId row token now jti) := by
  unfold authorizeOpaque
  dsimp only
  split
  · rename_i isSecret
    unfold matchesHash at isSecret
    rw [Bool.and_eq_true, decide_eq_true_eq] at isSecret
    exact outcome_markUsedOnce (.inr isSecret.2)
  · split
    · exact .raised (by omega)
    · split
      · rename_i recovers
        unfold CredentialsRow.recoveryOpen at recovers
        simp only [Bool.and_eq_true, decide_eq_true_eq] at recovers
        exact .raised (by omega)
      · split
        · exact .unchanged trivial
        · split <;> exact .unchanged trivial

theorem outcome_authorizeDecision :
    Outcome auth agentId credentials presented now jti
      (authorizeDecision auth agentId credentials presented now jti) := by
  unfold authorizeDecision
  split
  · exact .unchanged rfl
  · rename_i row
    cases given : presented.filter (· ≠ "") with
    | none =>
      dsimp only
      split
      · exact .unchanged trivial
      · exact .unchanged rfl
    | some token =>
      have same : presented = some token :=
        (Option.filter_eq_some_iff.mp given).1
      subst presented
      dsimp only
      split
      · rename_i isJwt
        exact outcome_authorizeJwt row isJwt
      · exact outcome_authorizeOpaque row

end Decisions

/-! ### The two stores agree -/

/-- A token issued for the agent under a version, some time or other. -/
def IssuedUnder
    (auth : AgentAuth)
    (agentId : String)
    (tokenVersion : Int)
    (token : String) : Prop :=
  0 < tokenVersion ∧
    ∃ issuedAt jti,
      token = auth.issueAgentAccessToken agentId tokenVersion issuedAt jti

/-- The agent has its bootstrap token, or an access token in force. -/
inductive Provided
    (auth : AgentAuth)
    (agentId bootstrap : String)
    (row : CredentialsRow)
    (clock : Int) : RuntimeConfig → Prop where
  | bootstrap :
      row.bootstrapUsedAt = none →
      Provided auth agentId bootstrap row clock
        { bootstrapToken := some bootstrap }
  | accessToken {token : String} :
      IssuedUnder auth agentId row.tokenVersion token →
      auth.outlived token clock = false →
      Provided auth agentId bootstrap row clock { accessToken := some token }

/-- What the credentials of the agent and of the server have in common. -/
structure Coherent
    (auth : AgentAuth)
    (agentId bootstrap : String)
    (expiresAt : Option Int)
    (row : CredentialsRow)
    (sys : HandshakeSystem) : Prop where
  found : sys.db.getAgentCredentials agentId = some row
  hash : row.bootstrapTokenHash = some (auth.hashToken bootstrap)
  expires : row.bootstrapExpiresAt = expiresAt
  otherSecret : row.secretHash ≠ some (auth.hashToken bootstrap)
  provided : Provided auth agentId bootstrap row sys.clock sys.config
  readSecret :
    ∀ {socket : Nat} {token : Option String} {read : CredentialsRow},
      sys.sockets[socket]? = some (.authorizing token (some read)) →
      read.secretHash ≠ some (auth.hashToken bootstrap)
  presents :
    ∀ {socket : Nat} {state : SocketState} {token : Option String},
      sys.sockets[socket]? = some state →
      state.pending = some token →
      token = some bootstrap ∨ token = sys.config.authSecret
  presentsCurrent :
    ∀ {socket : Nat} {state : SocketState} {token : Option String},
      sys.current = some socket →
      sys.sockets[socket]? = some state →
      state.pending = some token →
      token = sys.config.authSecret
  answers :
    ∀ {socket : Nat} {result : AuthResultData},
      sys.current = some socket →
      sys.sockets[socket]? = some (.answered result) →
      result.issues = true →
      sys.config = { bootstrapToken := some bootstrap } ∧
        IssuedUnder auth agentId row.tokenVersion result.accessToken

theorem authSecret_bootstrap
    {bootstrap : String}
    (nonempty : bootstrap ≠ "") :
    RuntimeConfig.authSecret { bootstrapToken := some bootstrap } =
      some bootstrap := by
  simp [RuntimeConfig.authSecret, Option.filter, nonempty]

theorem authSecret_accessToken
    {token : String}
    (nonempty : token ≠ "") :
    RuntimeConfig.authSecret { accessToken := some token } = some token := by
  simp [RuntimeConfig.authSecret, Option.filter, nonempty]

section Agreement

variable
    {auth : AgentAuth}
    {agentId bootstrap : String}
    {expiresAt : Option Int}
    {row : CredentialsRow}
    {before after : HandshakeSystem}

variable
    {socket : Nat}
    {result : AuthResultData}

section Keeping

variable
    (coherent : Coherent auth agentId bootstrap expiresAt row before)
include coherent

theorem Coherent.setSocket
    {state : SocketState}
    (readSecret :
      ∀ {token : Option String} {read : CredentialsRow},
        state = .authorizing token (some read) →
        read.secretHash ≠ some (auth.hashToken bootstrap))
    (presents :
      ∀ {token : Option String},
        state.pending = some token →
        ∃ earlier : SocketState,
          before.sockets[socket]? = some earlier ∧ earlier.pending = some token)
    (answers :
      ∀ {result : AuthResultData},
        state = .answered result →
        before.current = some socket →
        result.issues = true →
        before.config = { bootstrapToken := some bootstrap } ∧
          IssuedUnder auth agentId row.tokenVersion result.accessToken) :
    Coherent auth agentId bootstrap expiresAt row
      (before.setSocket socket state) where
  found := coherent.found
  hash := coherent.hash
  expires := coherent.expires
  otherSecret := coherent.otherSecret
  provided := coherent.provided
  readSecret := by
    intro other token read isFound
    rcases getElem?_set_cases isFound with ⟨rfl, same⟩ | ⟨_, isFound⟩
    · exact readSecret same.symm
    · exact coherent.readSecret isFound
  presents := by
    intro other found token isFound isPending
    rcases getElem?_set_cases isFound with ⟨rfl, rfl⟩ | ⟨_, isFound⟩
    · obtain ⟨earlier, wasFound, wasPending⟩ := presents isPending
      exact coherent.presents wasFound wasPending
    · exact coherent.presents isFound isPending
  presentsCurrent := by
    intro other found token isCurrent isFound isPending
    rcases getElem?_set_cases isFound with ⟨rfl, rfl⟩ | ⟨_, isFound⟩
    · obtain ⟨earlier, wasFound, wasPending⟩ := presents isPending
      exact coherent.presentsCurrent isCurrent wasFound wasPending
    · exact coherent.presentsCurrent isCurrent isFound isPending
  answers := by
    intro other result isCurrent isFound issues
    rcases getElem?_set_cases isFound with ⟨rfl, same⟩ | ⟨_, isFound⟩
    · exact answers same.symm isCurrent issues
    · exact coherent.answers isCurrent isFound issues

theorem Coherent.setSocket_finished
    (socket : Nat) :
    Coherent auth agentId bootstrap expiresAt row
      (before.setSocket socket .finished) := by
  apply coherent.setSocket
  · intro token read same
    cases same
  · intro token isPending
    cases isPending
  · intro result same
    cases same

theorem Coherent.disconnected
    (running : Bool) :
    Coherent auth agentId bootstrap expiresAt row
      { before with current := none, running } where
  found := coherent.found
  hash := coherent.hash
  expires := coherent.expires
  otherSecret := coherent.otherSecret
  provided := coherent.provided
  readSecret := coherent.readSecret
  presents := coherent.presents
  presentsCurrent := by
    intro socket state token isCurrent
    cases isCurrent
  answers := by
    intro socket result isCurrent
    cases isCurrent

theorem Coherent.openConnection :
    Coherent auth agentId bootstrap expiresAt row
      { before with
        sockets := before.sockets ++ [.opened before.config.authSecret]
        current := some before.sockets.length } := by
  have earlier :
      ∀ {socket : Nat} {state : SocketState},
        (before.sockets ++
            [SocketState.opened before.config.authSecret])[socket]? =
          some state →
        before.sockets[socket]? = some state ∨
          state = .opened before.config.authSecret := by
    intro socket state isFound
    rw [List.getElem?_append] at isFound
    split at isFound
    · exact .inl isFound
    · right
      rw [List.getElem?_singleton] at isFound
      split at isFound
      · exact (Option.some.inj isFound).symm
      · cases isFound
  have last :
      ∀ {socket : Nat} {state : SocketState},
        some before.sockets.length = some socket →
        (before.sockets ++
            [SocketState.opened before.config.authSecret])[socket]? =
          some state →
        state = .opened before.config.authSecret := by
    intro socket state isLast isFound
    cases isLast
    rw [List.getElem?_concat_length] at isFound
    exact (Option.some.inj isFound).symm
  constructor
  · exact coherent.found
  · exact coherent.hash
  · exact coherent.expires
  · exact coherent.otherSecret
  · exact coherent.provided
  · intro socket token read isFound
    rcases earlier isFound with isFound | same
    · exact coherent.readSecret isFound
    · cases same
  · intro socket state token isFound isPending
    rcases earlier isFound with isFound | rfl
    · exact coherent.presents isFound isPending
    · right
      exact (Option.some.inj isPending).symm
  · intro socket state token isCurrent isFound isPending
    cases last isCurrent isFound
    exact (Option.some.inj isPending).symm
  · intro socket result isCurrent isFound
    cases last isCurrent isFound

end Keeping

theorem Coherent.deliverAuthResult
    (nonempty : bootstrap ≠ "")
    (coherent : Coherent auth agentId bootstrap expiresAt row before)
    (isCurrent : before.current = some socket)
    (isFound : before.sockets[socket]? = some (.answered result))
    (young : auth.outlived result.accessToken before.clock = false) :
    Coherent auth agentId bootstrap expiresAt row
      (handleAuthResult (before.setSocket socket .finished) result) := by
  have kept := coherent.setSocket_finished socket
  unfold handleAuthResult
  cases status : result.status with
  | error =>
    exact kept.disconnected false
  | ok =>
    dsimp only
    split
    · exact kept
    · rename_i filled
      have issues : result.issues = true := by
        simp [AuthResultData.issues, status, filled]
      obtain ⟨hadBootstrap, issued⟩ :=
        coherent.answers isCurrent isFound issues
      have closed :
          ∀ {other : Nat} {state : SocketState},
            before.current = some other →
            (before.sockets.set socket .finished)[other]? = some state →
            state = .finished := by
        intro other state isRead isFound
        cases isCurrent.symm.trans isRead
        rcases getElem?_set_cases isFound with ⟨_, rfl⟩ | ⟨different, _⟩
        · rfl
        · exact absurd rfl different
      constructor
      · exact kept.found
      · exact kept.hash
      · exact kept.expires
      · exact kept.otherSecret
      · exact .accessToken issued young
      · exact kept.readSecret
      · intro other state token isFound isPending
        left
        rcases kept.presents isFound isPending with same | same
        · exact same
        · rw [same]
          show before.config.authSecret = some bootstrap
          rw [hadBootstrap]
          exact authSecret_bootstrap nonempty
      · intro other state token isRead isFound isPending
        cases closed isRead isFound
        cases isPending
      · intro other result isRead isFound
        cases closed isRead isFound

theorem not_issues_handshakeReply
    {verdict : AuthResult}
    (issuesNone : verdict.IssuesNone)
    {mismatch : Option String}
    (same : handshakeReply verdict mismatch = .answered result) :
    result.issues = false := by
  unfold handshakeReply at same
  split at same
  · cases same
  · cases same
    rfl
  · cases issuesNone
    split at same <;> cases same <;> rfl

theorem accessToken_handshakeReply
    {mode : AuthMode}
    {issued : String}
    {mismatch : Option String}
    (same :
      handshakeReply (.authorized mode (some issued)) mismatch =
        .answered result)
    (issues : result.issues = true) :
    result.accessToken = issued := by
  unfold handshakeReply at same
  dsimp only at same
  split at same
  · cases same
    cases issues
  · cases same
    rfl

theorem pending_handshakeReply
    (verdict : AuthResult)
    (mismatch : Option String) :
    (handshakeReply verdict mismatch).pending = none := by
  unfold handshakeReply
  split
  · rfl
  · rfl
  · split <;> rfl

theorem Provided.of_other
    (nonempty : bootstrap ≠ "")
    {clock : Int}
    {config : RuntimeConfig}
    {token : String}
    (provided : Provided auth agentId bootstrap row clock config)
    (presented : some token = some bootstrap ∨ some token = config.authSecret)
    (other : token ≠ bootstrap) :
    ∃ accessToken,
      config = { accessToken := some accessToken } ∧
        IssuedUnder auth agentId row.tokenVersion accessToken ∧
        auth.outlived accessToken clock = false := by
  cases provided with
  | bootstrap unused =>
    rw [authSecret_bootstrap nonempty, or_self, Option.some.injEq] at presented
    exact absurd presented other
  | accessToken issued young =>
    exact ⟨_, rfl, issued, young⟩

theorem Coherent.markUsed
    (coherent : Coherent auth agentId bootstrap expiresAt row before)
    {token : String}
    (hasToken :
      before.config = { accessToken := some token } ∧
        IssuedUnder auth agentId row.tokenVersion token ∧
        auth.outlived token before.clock = false)
    (now : Int) :
    Coherent auth agentId bootstrap expiresAt
      (row.updated now .markUsed)
      { before with
        db := before.db.applyUpdate agentId now (some .markUsed) } := by
  obtain ⟨isConfig, issued, young⟩ := hasToken
  constructor
  · exact getAgentCredentials_applyUpdate coherent.found now .markUsed
  · exact coherent.hash
  · exact coherent.expires
  · exact coherent.otherSecret
  · rw [isConfig]
    exact .accessToken issued young
  · exact coherent.readSecret
  · exact coherent.presents
  · exact coherent.presentsCurrent
  · intro socket result isCurrent isFound issues
    exact coherent.answers isCurrent isFound issues

/-- The version is raised while no token is with the agent or near it. -/
theorem Coherent.raiseVersion
    (coherent : Coherent auth agentId bootstrap expiresAt row before)
    {reply : SocketState}
    {tokenVersion : Int}
    (isPending : reply.pending = none)
    (answers :
      ∀ {result : AuthResultData},
        reply = .answered result →
        result.issues = true →
        IssuedUnder auth agentId tokenVersion result.accessToken)
    (noToken : before.config.accessToken = none)
    (awaitsNone : awaitsNoToken before socket = true)
    (now : Int) :
    Coherent auth agentId bootstrap expiresAt
      (row.updated now (.raiseVersion tokenVersion))
      { before.setSocket socket reply with
        db :=
          before.db.applyUpdate agentId now
            (some (.raiseVersion tokenVersion)) } := by
  have hasBootstrap :
      before.config = { bootstrapToken := some bootstrap } ∧
        row.bootstrapUsedAt = none := by
    rcases coherent with ⟨_, _, _, _, provided, _, _, _, _⟩
    generalize before.config = config at provided noToken
    cases provided with
    | bootstrap unused =>
      exact ⟨rfl, unused⟩
    | accessToken issued young =>
      cases noToken
  constructor
  · exact getAgentCredentials_applyUpdate coherent.found now _
  · exact coherent.hash
  · exact coherent.expires
  · intro same
    cases same
  · show Provided _ _ _ _ _ before.config
    rw [hasBootstrap.1]
    exact .bootstrap hasBootstrap.2
  · intro other token read isFound
    rcases getElem?_set_cases isFound with ⟨rfl, same⟩ | ⟨_, isFound⟩
    · rw [← same] at isPending
      cases isPending
    · exact coherent.readSecret isFound
  · intro other state token isFound hasToken
    rcases getElem?_set_cases isFound with ⟨rfl, rfl⟩ | ⟨_, isFound⟩
    · rw [isPending] at hasToken
      cases hasToken
    · exact coherent.presents isFound hasToken
  · intro other state token isCurrent isFound hasToken
    rcases getElem?_set_cases isFound with ⟨rfl, rfl⟩ | ⟨_, isFound⟩
    · rw [isPending] at hasToken
      cases hasToken
    · exact coherent.presentsCurrent isCurrent isFound hasToken
  · intro other result isCurrent isFound issues
    rcases getElem?_set_cases isFound with
      ⟨rfl, same⟩ | ⟨different, isFound⟩
    · exact ⟨hasBootstrap.1, answers same.symm issues⟩
    · have awaits := awaitsNone
      have isRead : before.current = some other := isCurrent
      unfold awaitsNoToken at awaits
      rw [isRead, Option.all_some, isFound, Option.all_some] at awaits
      simp [different, SocketState.carriesToken, issues] at awaits

/-- The server's decision, acted upon. -/
theorem Coherent.authorize
    (nonempty : bootstrap ≠ "")
    (noJwt : looksLikeJwt bootstrap = false)
    (coherent : Coherent auth agentId bootstrap expiresAt row before)
    {token : Option String}
    {credentials : Option CredentialsRow}
    (isFound : before.sockets[socket]? = some (.authorizing token credentials))
    {decision : AuthResult × Option CredentialsUpdate}
    {jti : String}
    (outcome : Outcome auth agentId credentials token before.clock jti decision)
    (orderly :
      raises decision.2 = true →
        before.config.accessToken = none ∧ awaitsNoToken before socket = true)
    (mismatch : Option String) :
    ∃ updated,
      Coherent auth agentId bootstrap expiresAt updated
        { before.setSocket socket (handshakeReply decision.1 mismatch) with
          db := before.db.applyUpdate agentId before.clock decision.2 } := by
  have replied :
      ∀ {verdict : AuthResult},
        verdict.IssuesNone →
        Coherent auth agentId bootstrap expiresAt row
          (before.setSocket socket (handshakeReply verdict mismatch)) := by
    intro verdict issuesNone
    apply coherent.setSocket
    · intro read credentials same
      have isPending := pending_handshakeReply verdict mismatch
      rw [same] at isPending
      cases isPending
    · intro presented isPending
      rw [pending_handshakeReply] at isPending
      cases isPending
    · intro result same _ issues
      rw [not_issues_handshakeReply issuesNone same] at issues
      cases issues
  cases outcome with
  | unchanged issuesNone =>
    exact ⟨row, replied issuesNone⟩
  | @used verdict presented read issuesNone isToken isRead cause =>
    subst token credentials
    have isOther : presented ≠ bootstrap := by
      rintro rfl
      rcases cause with isJwt | isSecret
      · rw [noJwt] at isJwt
        cases isJwt
      · exact coherent.readSecret isFound isSecret
    obtain ⟨accessToken, hasToken⟩ :=
      coherent.provided.of_other nonempty
        (coherent.presents isFound rfl) isOther
    exact ⟨_, (replied issuesNone).markUsed hasToken before.clock⟩
  | @raised mode tokenVersion positive =>
    obtain ⟨noToken, awaitsNone⟩ := orderly rfl
    refine ⟨_, coherent.raiseVersion (pending_handshakeReply _ _) ?_
      noToken awaitsNone before.clock⟩
    intro result same issues
    exact ⟨positive, before.clock, jti, accessToken_handshakeReply same issues⟩

/-- A step keeps the credentials of the agent and the server coherent. -/
theorem Coherent.step
    (nonempty : bootstrap ≠ "")
    (noJwt : looksLikeJwt bootstrap = false)
    (coherent : Coherent auth agentId bootstrap expiresAt row before)
    {action : HandshakeAction}
    (taken : handshakeStep? auth agentId before action = some after)
    (orderly : Orderly auth agentId before action) :
    ∃ updated, Coherent auth agentId bootstrap expiresAt updated after := by
  cases action with
  | openConnection =>
    dsimp only [handshakeStep?] at taken
    split at taken
    · cases taken
      exact ⟨row, coherent.openConnection⟩
    · cases taken
  | sendHandshake =>
    dsimp only [handshakeStep?] at taken
    split at taken
    · cases taken
    · rename_i socket isCurrent
      split at taken
      · rename_i token isFound
        cases taken
        refine ⟨row, coherent.setSocket ?_ ?_ ?_⟩
        · intro presented read same
          cases same
        · intro presented isPending
          exact ⟨_, isFound, isPending⟩
        · intro result same
          cases same
      · cases taken
  | readCredentials socket =>
    dsimp only [handshakeStep?] at taken
    split at taken
    · rename_i token isFound
      cases taken
      refine ⟨row, coherent.setSocket ?_ ?_ ?_⟩
      · intro presented read same
        rw [coherent.found] at same
        cases same
        exact coherent.otherSecret
      · intro presented isPending
        exact ⟨_, isFound, isPending⟩
      · intro result same
        cases same
    · cases taken
  | authorize socket mismatch jti =>
    dsimp only [handshakeStep?] at taken
    dsimp only [Orderly] at orderly
    split at taken
    · rename_i token credentials isFound
      rw [isFound] at orderly
      cases taken
      exact coherent.authorize nonempty noJwt isFound
        outcome_authorizeDecision orderly mismatch
    · cases taken
  | deliverAuthResult =>
    dsimp only [handshakeStep?] at taken
    dsimp only [Orderly] at orderly
    split at taken
    · cases taken
    · rename_i socket isCurrent
      split at taken
      · rename_i result isFound
        rw [isCurrent, Option.bind_some, isFound] at orderly
        cases taken
        exact ⟨row,
          coherent.deliverAuthResult nonempty isCurrent isFound orderly⟩
      · cases taken
  | lose socket =>
    cases taken
    exact ⟨row, coherent.setSocket_finished socket⟩
  | disconnect =>
    cases taken
    exact ⟨row, coherent.disconnected before.running⟩
  | restart =>
    cases taken
    exact ⟨row, coherent.disconnected true⟩
  | tick later =>
    dsimp only [handshakeStep?] at taken
    split at taken
    · cases taken
      refine ⟨row, { coherent with provided := ?_ }⟩
      have provided := coherent.provided
      dsimp only [Orderly] at orderly
      show Provided _ _ _ _ later before.config
      generalize before.config = config at provided orderly
      cases provided with
      | bootstrap unused =>
        exact .bootstrap unused
      | accessToken issued young =>
        rw [Option.all_some, Bool.not_eq_true'] at orderly
        exact .accessToken issued orderly
    · cases taken

end Agreement

/-! ### The credential is accepted -/

section Acceptance

variable
    {auth : AgentAuth}
    (lawful : auth.library.Lawful)
    {agentId bootstrap : String}
    {row : CredentialsRow}
    {now : Int}
    {jti : String}

include lawful

theorem authorizeDecision_bootstrap
    (nonempty : bootstrap ≠ "")
    (noJwt : looksLikeJwt bootstrap = false)
    (hash : row.bootstrapTokenHash = some (auth.hashToken bootstrap))
    (otherSecret : row.secretHash ≠ some (auth.hashToken bootstrap))
    (unused : row.bootstrapUsedAt = none)
    (unexpired : row.bootstrapExpiresAt.all (now ≤ ·) = true) :
    (authorizeDecision auth agentId (some row) (some bootstrap) now
      jti).1.isAuthorized = true := by
  have present : (some bootstrap).filter (· ≠ "") = some bootstrap := by
    simp [nonempty]
  have noSecret :
      matchesHash row.secretHash (auth.hashToken bootstrap) = false := by
    simp [matchesHash, otherSecret]
  have isBootstrap :
      matchesHash row.bootstrapTokenHash (auth.hashToken bootstrap) = true := by
    have hashed : auth.hashToken bootstrap ≠ "" :=
      lawful.sha256_nonempty bootstrap.toUTF8
    simp [matchesHash, filledText, hash, hashed]
  have isOpen : row.bootstrapOpen now = true := by
    simp [CredentialsRow.bootstrapOpen, filledInt, unused, unexpired]
  rw [authorizeDecision, present]
  dsimp only
  rw [noJwt, if_neg Bool.false_ne_true, authorizeOpaque]
  dsimp only
  rw [noSecret, if_neg Bool.false_ne_true, isBootstrap, isOpen]
  rfl

theorem Coherent.accepted
    (nonempty : bootstrap ≠ "")
    (noJwt : looksLikeJwt bootstrap = false)
    {expiresAt : Option Int}
    {sys : HandshakeSystem}
    (coherent : Coherent auth agentId bootstrap expiresAt row sys)
    (unexpired : expiresAt.all (sys.clock ≤ ·) = true)
    (jti : String) :
    (sys.db.authorizeAgent auth agentId sys.config.authSecret sys.clock
      jti).1.isAuthorized = true := by
  have provided := coherent.provided
  rw [RegistryDB.authorizeAgent_fst, coherent.found]
  generalize sys.config = config at provided ⊢
  cases provided with
  | bootstrap unused =>
    rw [authSecret_bootstrap nonempty]
    refine authorizeDecision_bootstrap lawful nonempty noJwt
      coherent.hash coherent.otherSecret unused ?_
    rw [coherent.expires]
    exact unexpired
  | @accessToken token issued young =>
    obtain ⟨positive, issuedAt, issuedJti, rfl⟩ := issued
    have isJwt :=
      AgentAuth.looksLikeJwt_issue lawful agentId row.tokenVersion
        issuedAt issuedJti
    have filled :
        auth.issueAgentAccessToken agentId row.tokenVersion issuedAt
          issuedJti ≠ "" := by
      intro empty
      rw [empty] at isJwt
      cases isJwt
    have current :=
      AgentAuth.unexpired_of_not_outlived lawful agentId
        row.tokenVersion issuedAt issuedJti young
    rw [authSecret_accessToken filled,
      authorizeDecision_issued lawful positive current]
    rfl

end Acceptance

theorem Deployed.coherent
    {auth : AgentAuth}
    {agentId bootstrap : String}
    {row : CredentialsRow}
    {sys : HandshakeSystem}
    (deployed : Deployed auth agentId bootstrap row sys) :
    Coherent auth agentId bootstrap row.bootstrapExpiresAt row sys where
  found := deployed.found
  hash := deployed.hash
  expires := rfl
  otherSecret := deployed.otherSecret
  provided := by
    rw [deployed.config]
    exact .bootstrap deployed.unused
  readSecret := by
    intro socket token read isFound
    rw [deployed.noSockets] at isFound
    cases isFound
  presents := by
    intro socket state token isFound
    rw [deployed.noSockets] at isFound
    cases isFound
  presentsCurrent := by
    intro socket state token isCurrent
    rw [deployed.noCurrent] at isCurrent
    cases isCurrent
  answers := by
    intro socket result isCurrent
    rw [deployed.noCurrent] at isCurrent
    cases isCurrent

/-- In an orderly run, the agent is never locked out. -/
theorem noLockOut_of_orderly
    (auth : AgentAuth)
    (lawful : auth.library.Lawful)
    (agentId : String) :
    NoLockOut auth agentId
      (Guarded (Fires (handshakeStep? auth agentId))
        (Orderly auth agentId)) := by
  intro initial final actions bootstrap row deployed run unexpired _ jti
  let agrees : HandshakeSystem → Prop :=
    fun sys =>
      ∃ updated,
        Coherent auth agentId bootstrap row.bootstrapExpiresAt updated sys
  have start : agrees initial := ⟨row, deployed.coherent⟩
  have kept : agrees final := by
    refine run.preserves ?_ start
    rintro before action after ⟨taken, orderly⟩ ⟨updated, coherent⟩
    exact coherent.step deployed.nonempty deployed.noJwt taken orderly
  obtain ⟨updated, coherent⟩ := kept
  exact coherent.accepted lawful deployed.nonempty deployed.noJwt unexpired jti

/-! ### An overtaken handshake -/

/-- The credentials after a deployment. -/
def deployedRow : CredentialsRow where
  agentId := "agent-1"
  bootstrapTokenHash := some (exampleAuth.hashToken exampleBootstrapToken)
  bootstrapExpiresAt := some 1700086400
  updatedAt := 1700000000

/-- An agent that has just been deployed. -/
def deployedSystem : HandshakeSystem where
  db :=
    (RegistryDB.empty.upsertAgent "agent-1" "host-1").setBootstrapToken
      "agent-1" (exampleAuth.hashToken exampleBootstrapToken) 1700086400
      1700000000
  config := { bootstrapToken := some exampleBootstrapToken }
  clock := 1700000000

theorem deployedSystem_deployed :
    Deployed exampleAuth "agent-1" exampleBootstrapToken deployedRow
      deployedSystem where
  nonempty := by decide
  noJwt := by decide
  config := rfl
  noSockets := rfl
  noCurrent := rfl
  found := rfl
  hash := rfl
  unused := rfl
  otherSecret := by
    intro same
    cases same

def tokenExchange : List HandshakeAction :=
  [.openConnection, .sendHandshake,
    .readCredentials 0, .authorize 0 none firstJti, .deliverAuthResult]

/-- The handshake of an abandoned connection is processed last. -/
def overtakenHandshake : List HandshakeAction :=
  [.openConnection, .sendHandshake, .disconnect,
    .openConnection, .sendHandshake,
    .readCredentials 1, .authorize 1 none firstJti, .deliverAuthResult,
    .readCredentials 0, .authorize 0 none secondJti]

/-- After the exchange, the access token is accepted. -/
theorem tokenExchange_accepted :
    ∃ final,
      Run
          (Guarded (Fires (handshakeStep? exampleAuth "agent-1"))
            (Orderly exampleAuth "agent-1"))
          deployedSystem tokenExchange final ∧
        final.config.bootstrapToken = none ∧
        (final.db.authorizeAgent exampleAuth "agent-1"
          final.config.authSecret final.clock secondJti).1.isAuthorized =
            true := by
  obtain ⟨final, run, reached⟩ :=
    exists_run_of_execute
      (show
        (execute
            (checked (handshakeStep? exampleAuth "agent-1")
              (Orderly exampleAuth "agent-1"))
            deployedSystem tokenExchange).any
          (fun sys : HandshakeSystem =>
            !sys.handshakeInFlight && decide (sys.clock = 1700000000) &&
              sys.config.bootstrapToken.isNone) =
        true by decide)
  simp only [Bool.and_eq_true, Bool.not_eq_true', decide_eq_true_eq,
    Option.isNone_iff_eq_none] at reached
  obtain ⟨⟨quiet, clock⟩, dropped⟩ := reached
  have guarded := run.guarded_of_checked
  have unexpired :
      deployedRow.bootstrapExpiresAt.all (final.clock ≤ ·) = true := by
    rw [clock]
    rfl
  exact ⟨final, guarded, dropped,
    noLockOut_of_orderly exampleAuth exampleLibrary_lawful "agent-1"
      deployedSystem_deployed guarded unexpired quiet secondJti⟩

theorem overtakenHandshake_executes :
    (execute (handshakeStep? exampleAuth "agent-1") deployedSystem
      overtakenHandshake).isSome = true := by
  decide

theorem exists_overtakenHandshake :
    ∃ final,
      Run (Fires (handshakeStep? exampleAuth "agent-1")) deployedSystem
          overtakenHandshake final ∧
        (final.handshakeInFlight = false ∧
          final.clock = 1700000000 ∧
          final.db.tokenVersion "agent-1" = some 2) ∧
        final.config = { accessToken := some firstToken } := by
  refine
    ⟨_, run_of_execute (Option.some_get overtakenHandshake_executes).symm,
      ?_, rfl⟩
  decide

/-- An agent that keeps to its access token can be locked out. -/
theorem not_noLockOut :
    ¬ NoLockOut exampleAuth "agent-1"
      (Fires (handshakeStep? exampleAuth "agent-1")) := by
  intro never
  obtain ⟨final, run, ⟨quiet, clock, version⟩, keptToken⟩ :=
    exists_overtakenHandshake
  have unexpired :
      deployedRow.bootstrapExpiresAt.all (final.clock ≤ ·) = true := by
    rw [clock]
    rfl
  have accepted :=
    never deployedSystem_deployed run unexpired quiet secondJti
  have isJwt : looksLikeJwt firstToken = true :=
    AgentAuth.looksLikeJwt_issue exampleLibrary_lawful "agent-1" 1
      1700000000 firstJti
  have filled : firstToken ≠ "" := by
    intro empty
    rw [empty] at isJwt
    cases isJwt
  obtain ⟨row, found, second⟩ := Option.map_eq_some_iff.mp version
  rw [RegistryDB.authorizeAgent_fst, found, keptToken,
    authSecret_accessToken filled] at accepted
  have current := carriedVersion_of_authorized isJwt accepted
  have first : exampleAuth.carriedVersion firstToken = some 1 :=
    AgentAuth.carriedVersion_issue exampleLibrary_lawful "agent-1" 1
      1700000000 firstJti
  rw [first, second] at current
  cases current

end RpaPlatform.Agents
