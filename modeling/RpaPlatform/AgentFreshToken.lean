import RpaPlatform.AgentCredentials

namespace RpaPlatform.Agents

open RegistryDB Transition

/-!
# Fresh bootstrap tokens

`prepare_deployment` makes a bootstrap token and stores its hash; the agent
then presents the token once.  Whether that works depends on
`bootstrap_used_at`, which is not set by the token itself but by the access
tokens and secrets that are accepted while it is empty, the ones from before
the deployment included.
-/

/-- A character of `uuid.uuid4().hex`. -/
def isHexDigit (digit : Char) : Bool :=
  "0123456789abcdef".toList.contains digit

/-- A bootstrap token: the digits of two UUIDs. -/
structure BootstrapToken where
  text : String
  length_text : text.length = 64
  digits : ∀ digit ∈ text.toList, isHexDigit digit = true

namespace BootstrapToken

variable (token : BootstrapToken)

theorem nonempty : token.text ≠ "" := by
  intro empty
  have measured := token.length_text
  rw [empty] at measured
  cases measured

theorem notJwt : looksLikeJwt token.text = false := by
  have noDot : token.text.toList.count '.' = 0 := by
    apply List.count_eq_zero_of_not_mem
    intro member
    have digit := token.digits '.' member
    revert digit
    decide
  simp [looksLikeJwt, noDot]

end BootstrapToken

section Decisions

variable
    {auth : AgentAuth}
    {agentId : String}
    {row : CredentialsRow}
    {now : Int}
    {jti : String}

/--
A credential that is accepted without a token being issued: an access token
in force, or the stored secret.
-/
def CredentialsRow.accepts
    (row : CredentialsRow)
    (auth : AgentAuth)
    (agentId token : String)
    (now : Int) : Bool :=
  if looksLikeJwt token then
    decide (0 < row.tokenVersion) &&
      match auth.verifyAgentAccessToken token agentId row.tokenVersion
        now with
      | .verified _ => true
      | _ => false
  else
    matchesHash row.secretHash (auth.hashToken token)

theorem authorizeDecision_bootstrapToken (token : BootstrapToken) :
    authorizeDecision auth agentId (some row) (some token.text) now jti =
      authorizeOpaque auth agentId row token.text now jti := by
  have present : (some token.text).filter (· ≠ "") = some token.text := by
    simp [token.nonempty]
  rw [authorizeDecision, present]
  dsimp only
  rw [token.notJwt, if_neg Bool.false_ne_true]

theorem update_of_accepts
    {presented : String}
    (nonempty : presented ≠ "")
    (accepted : row.accepts auth agentId presented now = true) :
    (authorizeDecision auth agentId (some row) (some presented) now
      jti).2 = markUsedOnce row := by
  have present : (some presented).filter (· ≠ "") = some presented := by
    simp [nonempty]
  rw [authorizeDecision, present]
  unfold CredentialsRow.accepts at accepted
  dsimp only
  split
  · rename_i isJwt
    rw [if_pos isJwt, Bool.and_eq_true, decide_eq_true_eq] at accepted
    rw [authorizeJwt, if_neg (Int.not_le.mpr accepted.1)]
    cases checked :
        auth.verifyAgentAccessToken presented agentId row.tokenVersion now with
    | verified claims =>
      rfl
    | refused | raised =>
      rw [checked] at accepted
      cases accepted.2
  · rename_i isOpaque
    rw [if_neg isOpaque] at accepted
    simp [authorizeOpaque, accepted]

theorem update_of_not_accepts
    {presented : Option String}
    (unaccepted :
      ∀ token,
        presented = some token →
        token ≠ "" →
        row.accepts auth agentId token now = false) :
    (authorizeDecision auth agentId (some row) presented now jti).2 ≠
      some .markUsed := by
  unfold authorizeDecision
  dsimp only
  cases given : presented.filter (· ≠ "") with
  | none =>
    dsimp only
    split <;> exact nofun
  | some token =>
    rw [Option.filter_eq_some_iff, decide_eq_true_eq] at given
    have rejects := unaccepted token given.1 given.2
    unfold CredentialsRow.accepts at rejects
    dsimp only
    split
    · rename_i isJwt
      rw [if_pos isJwt] at rejects
      unfold authorizeJwt
      split
      · exact nofun
      · rename_i positive
        cases checked :
            auth.verifyAgentAccessToken token agentId row.tokenVersion now with
        | verified claims =>
          rw [checked] at rejects
          simp only [Bool.and_true, decide_eq_false_iff_not] at rejects
          omega
        | refused error =>
          exact nofun
        | raised =>
          exact nofun
    · rename_i isOpaque
      rw [if_neg isOpaque] at rejects
      simp only [authorizeOpaque, rejects, Bool.false_eq_true, if_false]
      repeat' split
      all_goals exact nofun

/--
The stored bootstrap token is accepted while it is open, within the recovery
window, or where it is the stored secret as well.
-/
theorem authorizeDecision_bootstrapToken_iff
    (token : BootstrapToken)
    (stored :
      matchesHash row.bootstrapTokenHash (auth.hashToken token.text) = true) :
    (authorizeDecision auth agentId (some row) (some token.text) now
        jti).1.isAuthorized = true ↔
      row.bootstrapOpen now = true ∨
        row.recoveryOpen auth.recoveryWindowSeconds now = true ∨
        matchesHash row.secretHash (auth.hashToken token.text) = true := by
  rw [authorizeDecision_bootstrapToken, authorizeOpaque, stored]
  cases matchesHash row.secretHash (auth.hashToken token.text) with
  | true =>
    simp [AuthResult.isAuthorized]
  | false =>
    cases row.bootstrapOpen now with
    | true =>
      simp [AuthResult.isAuthorized]
    | false =>
      cases row.recoveryOpen auth.recoveryWindowSeconds now with
      | true =>
        simp [AuthResult.isAuthorized]
      | false =>
        cases row.bootstrapExpired now <;>
          cases filledInt row.bootstrapUsedAt <;>
          simp [AuthResult.isAuthorized]

theorem bootstrapOpen_unexpired
    {expiresAt : Int}
    (expires : row.bootstrapExpiresAt = some expiresAt)
    (unexpired : now ≤ expiresAt) :
    row.bootstrapOpen now = true ↔ filledInt row.bootstrapUsedAt = false := by
  simp [CredentialsRow.bootstrapOpen, expires, unexpired]

theorem matchesHash_stored
    (lawful : auth.library.Lawful)
    {column : Option String}
    {token : String}
    (stored : column = some (auth.hashToken token)) :
    matchesHash column (auth.hashToken token) = true := by
  have nonempty : auth.hashToken token ≠ "" :=
    lawful.sha256_nonempty _
  simp [matchesHash, filledText, stored, nonempty]

end Decisions

/-! ### Between storing the token and presenting it -/

/--
What happens before the first presentation of a stored token: anything but
the replacement of the token or the deletion of the agent, on a clock that
shows a positive time.
-/
def BeforePresentation
    (agentId token : String)
    (_ : RegistryDB) : RegistryOperation → Prop
  | .setBootstrapToken updated _ _ _ => updated ≠ agentId
  | .authorizeAgent authorized presented now _ =>
    0 < now ∧ (authorized = agentId → presented ≠ some token)
  | .deleteAgent deleted => deleted ≠ agentId
  | _ => True

/-- No credential of the agent is accepted without issuing a token. -/
def SparesBootstrap
    (auth : AgentAuth)
    (agentId : String)
    (db : RegistryDB) : RegistryOperation → Prop
  | .authorizeAgent authorized (some token) now _ =>
    authorized = agentId →
      token ≠ "" →
      ∀ row,
        db.getAgentCredentials agentId = some row →
        row.accepts auth agentId token now = false
  | _ => True

/--
The first presentation of a stored bootstrap token that has not expired is
authorized, whatever has happened in between.
-/
def FreshTokenWorks (auth : AgentAuth) (agentId : String) : Prop :=
  ∀ (token : BootstrapToken)
    {initial final : RegistryDB}
    {setAt expiresAt presentedAt : Int}
    {jti : String}
    {between : List RegistryOperation},
    initial.registered agentId = true →
    Run
      (Guarded (Fires (operate? auth)) (BeforePresentation agentId token.text))
      (initial.setBootstrapToken agentId (auth.hashToken token.text)
        expiresAt setAt)
      between final →
    presentedAt ≤ expiresAt →
    (final.authorizeAgent auth agentId (some token.text) presentedAt
      jti).1.isAuthorized = true

/-- The credentials hold a bootstrap token, marked as used or not. -/
structure HoldsBootstrap
    (row : CredentialsRow)
    (tokenHash : String)
    (expiresAt : Int)
    (used : Bool) : Prop where
  hash : row.bootstrapTokenHash = some tokenHash
  expires : row.bootstrapExpiresAt = some expiresAt
  marked : filledInt row.bootstrapUsedAt = used

section Runs

variable
    {auth : AgentAuth}
    {agentId token tokenHash : String}
    {expiresAt : Int}

variable {row : CredentialsRow}

theorem sparesBootstrap_of_decision
    {before : RegistryDB}
    {operation : RegistryOperation}
    (found : before.getAgentCredentials agentId = some row)
    (unmarked :
      ∀ {token : String} {now : Int} {jti : String},
        operation = .authorizeAgent agentId (some token) now jti →
        token ≠ "" →
        row.accepts auth agentId token now = false) :
    SparesBootstrap auth agentId before operation := by
  cases operation with
  | authorizeAgent authorized presented now jti =>
    cases presented with
    | none =>
      trivial
    | some token =>
      rintro rfl nonempty other isOther
      rw [found, Option.some.injEq] at isOther
      subst other
      exact unmarked rfl nonempty
  | _ =>
    trivial

/-- The step keeps the stored token, and marks it only when it accepts. -/
theorem HoldsBootstrap.step
    {before : RegistryDB}
    {used : Bool}
    {operation : RegistryOperation}
    (holds : HoldsBootstrap row tokenHash expiresAt used)
    (found : before.getAgentCredentials agentId = some row)
    (allowed : BeforePresentation agentId token before operation) :
    ∃ next nextUsed,
      (operate auth before operation).getAgentCredentials agentId =
          some next ∧
        HoldsBootstrap next tokenHash expiresAt nextUsed ∧
        (nextUsed = false ↔
          used = false ∧ SparesBootstrap auth agentId before operation)
        := by
  have keeps : operation ≠ .deleteAgent agentId := by
    rintro rfl
    exact allowed rfl
  obtain ⟨next, isNext, stepped⟩ := operate_row keeps found
  cases stepped with
  | unchanged _ decided =>
    refine ⟨row, used, isNext, holds, ?_⟩
    refine ⟨fun unused => ⟨unused, ?_⟩, And.left⟩
    apply sparesBootstrap_of_decision found
    intro presented now jti isOperation nonempty
    by_contra accepted
    rw [Bool.not_eq_false] at accepted
    have update := decided isOperation
    rw [update_of_accepts nonempty accepted, markUsedOnce,
      holds.marked, unused] at update
    cases update
  | bootstrapSet hash expires now =>
    exact (allowed rfl).elim
  | rotated now _ =>
    exact ⟨_, used, isNext,
      ⟨holds.hash, holds.expires, holds.marked⟩,
      fun unused => ⟨unused, trivial⟩, And.left⟩
  | @authorized presented now jti update decided =>
    cases update with
    | markUsed =>
      refine ⟨_, true, isNext, ⟨holds.hash, holds.expires, ?_⟩, ?_⟩
      · have positive : 0 < now := allowed.1
        simp only [CredentialsRow.updated, filledInt,
          Option.any_some, decide_eq_true_eq]
        omega
      · refine ⟨fun unused => ?_, ?_⟩
        · cases unused
        rintro ⟨_, spares⟩
        refine (update_of_not_accepts ?_ decided).elim
        rintro presentedToken rfl nonempty
        exact spares rfl nonempty row found
    | raiseVersion version =>
      refine ⟨_, used, isNext, ⟨holds.hash, holds.expires, holds.marked⟩, ?_⟩
      refine ⟨fun unused => ⟨unused, ?_⟩, And.left⟩
      apply sparesBootstrap_of_decision found
      rintro presentedToken _ _ ⟨⟩ nonempty
      by_contra accepted
      rw [Bool.not_eq_false] at accepted
      rw [update_of_accepts nonempty accepted, markUsedOnce] at decided
      split at decided <;> cases decided

theorem HoldsBootstrap.run
    {initial final : RegistryDB}
    {used : Bool}
    {between : List RegistryOperation}
    (run :
      Run
        (Guarded (Fires (operate? auth)) (BeforePresentation agentId token))
        initial between final)
    (found : initial.getAgentCredentials agentId = some row)
    (holds : HoldsBootstrap row tokenHash expiresAt used) :
    ∃ last lastUsed,
      final.getAgentCredentials agentId = some last ∧
        HoldsBootstrap last tokenHash expiresAt lastUsed ∧
        (lastUsed = false ↔
          used = false ∧
            Run
              (Guarded
                (Guarded (Fires (operate? auth))
                  (BeforePresentation agentId token))
                (SparesBootstrap auth agentId))
              initial between final) := by
  induction run generalizing row used with
  | nil state =>
    exact ⟨row, used, found, holds,
      fun unused => ⟨unused, .nil state⟩, And.left⟩
  | @cons before middle final operation rest taken later
      inductionHypothesis =>
      obtain ⟨fired, allowed⟩ := taken
      obtain rfl : operate auth before operation = middle :=
        Option.some.inj fired
      obtain ⟨next, nextUsed, isNext, holdsNext, unmarked⟩ :=
        holds.step found allowed
      obtain ⟨last, lastUsed, isLast, holdsLast, unmarkedLater⟩ :=
        inductionHypothesis isNext holdsNext
      refine ⟨last, lastUsed, isLast, holdsLast, ?_⟩
      rw [unmarkedLater, unmarked]
      constructor
      · rintro ⟨⟨unused, spares⟩, rest⟩
        exact ⟨unused, .cons ⟨⟨fired, allowed⟩, spares⟩ rest⟩
      · rintro ⟨unused, whole⟩
        cases whole with
        | cons first rest =>
          obtain ⟨⟨fired, _⟩, spares⟩ := first
          cases fired
          exact ⟨⟨unused, spares⟩, rest⟩

end Runs

/--
A fresh bootstrap token works exactly when nothing that was accepted in
between has marked it, or the recovery window is open after all, or it is the
stored secret as well.
-/
theorem freshToken_authorized_iff
    {auth : AgentAuth}
    (lawful : auth.library.Lawful)
    {agentId : String}
    (token : BootstrapToken)
    {initial final : RegistryDB}
    {setAt expiresAt presentedAt : Int}
    {jti : String}
    {between : List RegistryOperation}
    (registered : initial.registered agentId = true)
    (run :
      Run
        (Guarded (Fires (operate? auth))
          (BeforePresentation agentId token.text))
        (initial.setBootstrapToken agentId (auth.hashToken token.text)
          expiresAt setAt)
        between final)
    (unexpired : presentedAt ≤ expiresAt) :
    (final.authorizeAgent auth agentId (some token.text) presentedAt
        jti).1.isAuthorized = true ↔
      Run
          (Guarded
            (Guarded (Fires (operate? auth))
              (BeforePresentation agentId token.text))
            (SparesBootstrap auth agentId))
          (initial.setBootstrapToken agentId (auth.hashToken token.text)
            expiresAt setAt)
          between final ∨
        ∃ row,
          final.getAgentCredentials agentId = some row ∧
            (row.recoveryOpen auth.recoveryWindowSeconds presentedAt =
                true ∨
              matchesHash row.secretHash (auth.hashToken token.text) =
                true) := by
  obtain ⟨row, found, hash, expires, unused⟩ :=
    setBootstrapToken_found registered (auth.hashToken token.text)
      expiresAt setAt
  have start : HoldsBootstrap row (auth.hashToken token.text) expiresAt false :=
    ⟨hash, expires, by rw [unused]; rfl⟩
  obtain ⟨last, used, isLast, holds, unmarked⟩ :=
    HoldsBootstrap.run run found start
  have stored := matchesHash_stored lawful holds.hash
  rw [authorizeAgent_fst, isLast,
    authorizeDecision_bootstrapToken_iff token stored,
    bootstrapOpen_unexpired holds.expires unexpired, holds.marked,
    unmarked]
  constructor
  · rintro (⟨_, spared⟩ | accepted)
    · exact .inl spared
    · exact .inr ⟨last, rfl, accepted⟩
  · rintro (spared | ⟨other, isOther, accepted⟩)
    · exact .inl ⟨rfl, spared⟩
    · rw [Option.some.injEq] at isOther
      subst other
      exact .inr accepted

/-! ### A deployment to an agent that is still connected -/

/-- The bootstrap token of a second deployment. -/
def secondBootstrapToken : BootstrapToken where
  text := String.ofList (List.replicate 64 'c')
  length_text := by
    rw [String.length_ofList, List.length_replicate]
  digits := by
    intro digit member
    rw [String.toList_ofList] at member
    rw [List.eq_of_mem_replicate member]
    rfl

/-- The SHA-256 digests of both bootstrap tokens. -/
def redeploymentSha256 (bytes : ByteArray) : String :=
  if String.fromUTF8? bytes = some secondBootstrapToken.text then
    "52b6419d27bd7f547cee3b92f8c17a908b8a49601ecbec161e5030de1dfe9e0a"
  else
    exampleLibrary.sha256Hex bytes

def redeploymentLibrary : TokenLibrary :=
  { exampleLibrary with sha256Hex := redeploymentSha256 }

theorem redeploymentLibrary_lawful : redeploymentLibrary.Lawful :=
  { exampleLibrary_lawful with
    sha256_nonempty := by
      intro bytes
      show redeploymentSha256 bytes ≠ ""
      unfold redeploymentSha256
      split
      · decide
      · exact exampleLibrary_lawful.sha256_nonempty bytes }

def redeploymentAuth : AgentAuth where
  library := redeploymentLibrary

/-- An agent is provisioned, and given its first access token. -/
def firstDeployment : List RegistryOperation :=
  [.upsertAgent "agent-1" "host-1",
    .setBootstrapToken "agent-1"
      (redeploymentAuth.hashToken exampleBootstrapToken) 1700086400
      1700000000,
    .authorizeAgent "agent-1" (some exampleBootstrapToken) 1700000000 firstJti]

/-- A week later, a second deployment is prepared for it. -/
def redeployed (db : RegistryDB) : RegistryDB :=
  db.setBootstrapToken "agent-1"
    (redeploymentAuth.hashToken secondBootstrapToken.text) 1700691200
    1700604800

/-- The credentials that the second deployment leaves. -/
def RedeployedRow (row : CredentialsRow) : Prop :=
  row.tokenVersion = 1 ∧
    row.secretHash = none ∧
    row.secretRotatedAt = some 1700000000 ∧
    row.bootstrapUsedAt = none ∧
    row.bootstrapExpiresAt = some 1700691200 ∧
    row.bootstrapTokenHash =
      some (redeploymentAuth.hashToken secondBootstrapToken.text)

instance (row : CredentialsRow) : Decidable (RedeployedRow row) := by
  unfold RedeployedRow
  infer_instance

def deployedRegistry : RegistryDB :=
  firstDeployment.foldl (operate redeploymentAuth) .empty

theorem redeployedRow_found :
    ∃ row,
      (redeployed deployedRegistry).getAgentCredentials "agent-1" =
          some row ∧
        RedeployedRow row := by
  have tested :
      ((redeployed deployedRegistry).getAgentCredentials "agent-1").any
        (fun row => decide (RedeployedRow row)) = true := by
    decide
  obtain ⟨row, found, holds⟩ := Option.any_eq_true _ _ |>.mp tested
  exact ⟨row, found, of_decide_eq_true holds⟩

theorem deployedRegistry_registered :
    deployedRegistry.registered "agent-1" = true := by
  decide

/-- A token that is not the agent's is presented before the new one. -/
theorem secondBootstrapToken_authorized :
    (((redeployed deployedRegistry).authorizeAgent redeploymentAuth
        "agent-1" (some "wrong") 1700604810
        secondJti).2.authorizeAgent redeploymentAuth "agent-1"
          (some secondBootstrapToken.text) 1700605000
          secondJti).1.isAuthorized = true := by
  have allowed :
      BeforePresentation "agent-1" secondBootstrapToken.text
        (redeployed deployedRegistry)
        (.authorizeAgent "agent-1" (some "wrong") 1700604810 secondJti) := by
    refine ⟨by decide, fun _ => ?_⟩
    decide
  have spares :
      SparesBootstrap redeploymentAuth "agent-1"
        (redeployed deployedRegistry)
        (.authorizeAgent "agent-1" (some "wrong") 1700604810 secondJti) := by
    obtain ⟨row, found, holds⟩ := redeployedRow_found
    intro _ _ other isOther
    rw [found, Option.some.injEq] at isOther
    subst other
    have isOpaque : looksLikeJwt "wrong" = false := by
      decide
    simp [CredentialsRow.accepts, isOpaque, matchesHash, filledText, holds.2.1]
  refine
    (freshToken_authorized_iff redeploymentLibrary_lawful
      secondBootstrapToken deployedRegistry_registered
      (.single ⟨rfl, allowed⟩) (by decide)).mpr (.inl ?_)
  exact .single ⟨⟨rfl, allowed⟩, spares⟩

def deployedToken : String :=
  redeploymentAuth.issueAgentAccessToken "agent-1" 1 1700000000 firstJti

theorem deployedToken_marks :
    ∃ row,
      ((redeployed deployedRegistry).authorizeAgent redeploymentAuth
          "agent-1" (some deployedToken) 1700604810
          secondJti).2.getAgentCredentials "agent-1" =
        some (row.updated 1700604810 .markUsed) ∧
        RedeployedRow row := by
  obtain ⟨row, found, holds⟩ := redeployedRow_found
  have decided :
      authorizeDecision redeploymentAuth "agent-1" (some row)
          (some (redeploymentAuth.issueAgentAccessToken "agent-1"
            row.tokenVersion 1700000000 firstJti))
          1700604810 secondJti =
        (.authorized .jwt none, markUsedOnce row) :=
    authorizeDecision_issued redeploymentLibrary_lawful
      (by rw [holds.1]; decide) rfl
  have unmarked : markUsedOnce row = some .markUsed := by
    rw [markUsedOnce, holds.2.2.2.1]
    rfl
  refine ⟨row, ?_, holds⟩
  unfold authorizeAgent
  dsimp only
  rw [found, deployedToken, ← holds.1, decided, unmarked]
  exact getAgentCredentials_applyUpdate found 1700604810 .markUsed

/-- An agent that is still connected cannot use its new token. -/
theorem not_freshTokenWorks :
    ¬ FreshTokenWorks redeploymentAuth "agent-1" := by
  intro works
  have allowed :
      BeforePresentation "agent-1" secondBootstrapToken.text
        (redeployed deployedRegistry)
        (.authorizeAgent "agent-1" (some deployedToken) 1700604810
          secondJti) := by
    refine ⟨by decide, fun _ same => ?_⟩
    have isJwt : looksLikeJwt deployedToken = true :=
      AgentAuth.looksLikeJwt_issue redeploymentLibrary_lawful _ _ _ _
    have notJwt := secondBootstrapToken.notJwt
    rw [← Option.some.inj same] at notJwt
    exact Bool.false_ne_true (notJwt.symm.trans isJwt)
  have authorized :
      (((redeployed deployedRegistry).authorizeAgent redeploymentAuth
          "agent-1" (some deployedToken) 1700604810
          secondJti).2.authorizeAgent redeploymentAuth "agent-1"
            (some secondBootstrapToken.text) 1700605000
            secondJti).1.isAuthorized = true :=
    works secondBootstrapToken deployedRegistry_registered
      (.single ⟨fires_authorizeAgent _ _ _ _ _ _, allowed⟩) (by decide)
  obtain ⟨row, found, first, noSecret, rotated, unused, expires, hash⟩ :=
    deployedToken_marks
  have stored :
      matchesHash (row.updated 1700604810 .markUsed).bootstrapTokenHash
        (redeploymentAuth.hashToken secondBootstrapToken.text) = true :=
    matchesHash_stored redeploymentLibrary_lawful hash
  rw [authorizeAgent_fst, found,
    authorizeDecision_bootstrapToken_iff secondBootstrapToken stored]
    at authorized
  simp [CredentialsRow.updated, CredentialsRow.bootstrapOpen,
    CredentialsRow.recoveryOpen, filledInt, matchesHash, filledText,
    noSecret, rotated, redeploymentAuth] at authorized

end RpaPlatform.Agents
