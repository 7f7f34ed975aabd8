import RpaPlatform.AgentCredentials

namespace RpaPlatform.Agents

open Tasks (Json)

/-!
# Who is authorized

`authorize_agent` lets an agent with credentials in for a token that was
issued for it, or for a token whose hash is stored.  Verifying a token reads
what anybody may have written, before the signature is checked; what it raises
then is not always an `AgentJwtError`.
-/

/-! ### Tokens that are verified -/

/-- What the claims of a verified token meet. -/
structure MeetsExpectation
    (auth : AgentAuth)
    (agentId : String)
    (version now : Int)
    (claims : AgentJwtClaims) : Prop where
  ownAgent : claims.agentId = agentId
  ownVersion : claims.ver = version
  purpose : claims.purpose = TOKEN_PURPOSE_AGENT_WS
  issuer : claims.iss = auth.getAgentJwtIssuer
  unexpired : ∀ exp ∈ claims.exp, now ≤ exp

theorem eq_of_not_mismatches
    {expected claim : String}
    (nonempty : expected ≠ "")
    (same : ¬ mismatches (some expected) claim = true) :
    claim = expected := by
  by_contra different
  exact same (by simp [mismatches, nonempty, different])

theorem getAgentJwtIssuer_nonempty (auth : AgentAuth) :
    auth.getAgentJwtIssuer ≠ "" := by
  unfold AgentAuth.getAgentJwtIssuer AgentAuth.orDefault
  split
  · decide
  · split
    · decide
    · assumption

theorem meetsExpectation_of_verified
    {auth : AgentAuth}
    {token agentId : String}
    {version now : Int}
    {claims : AgentJwtClaims}
    (named : agentId ≠ "")
    (verified :
      auth.verifyAgentAccessToken token agentId version now =
        .verified claims) :
    auth.tokenClaims token = some claims ∧
      MeetsExpectation auth agentId version now claims := by
  unfold AgentAuth.verifyAgentAccessToken verifyAgentJwt at verified
  unfold AgentAuth.tokenClaims
  split at verified
  · rename_i carried isRead
    rw [isRead]
    unfold checkClaims at verified
    split at verified
    · cases verified
    · rename_i unexpired
      split at verified
      · cases verified
      · rename_i ownAgent
        split at verified
        · cases verified
        · rename_i ownVersion
          split at verified
          · cases verified
          · rename_i purpose
            split at verified
            · cases verified
            · rename_i issuer
              obtain rfl := JwtCheck.verified.inj verified
              refine
                ⟨rfl, eq_of_not_mismatches named ownAgent, ?_,
                  eq_of_not_mismatches (by decide) purpose,
                  eq_of_not_mismatches (getAgentJwtIssuer_nonempty auth)
                    issuer, ?_⟩
              · simpa using ownVersion
              · intro exp isExp
                rw [Option.mem_def.mp isExp] at unexpired
                simpa using unexpired
  · cases verified
  · cases verified

/-! ### Sound answers -/

def CredentialsRow.isProtected (row : CredentialsRow) : Bool :=
  filledText row.bootstrapTokenHash || filledText row.secretHash ||
    decide (0 < row.tokenVersion)

/-- What lets an agent in that presents a token. -/
inductive Entitles
    (auth : AgentAuth)
    (agentId : String)
    (row : CredentialsRow)
    (token : String)
    (now : Int) : Prop where
  /-- A token with exactly this agent and the version in force. -/
  | jwt
      {claims : AgentJwtClaims}
      (isSigned : auth.tokenClaims token = some claims)
      (meets : MeetsExpectation auth agentId row.tokenVersion now claims)
  | secret
      (isSecret : row.secretHash = some (auth.hashToken token))
  /-- The bootstrap token, while it is unused and unexpired. -/
  | bootstrap
      (isBootstrap : row.bootstrapTokenHash = some (auth.hashToken token))
      (unused : filledInt row.bootstrapUsedAt = false)
      (unexpired : ∀ expiresAt ∈ row.bootstrapExpiresAt, now ≤ expiresAt)
  /-- The bootstrap token again, within the recovery window. -/
  | recovery
      {rotatedAt : Int}
      (isBootstrap : row.bootstrapTokenHash = some (auth.hashToken token))
      (isRotated : row.secretRotatedAt = some rotatedAt)
      (within : now - rotatedAt ≤ auth.recoveryWindowSeconds)

section Sound

variable
    {auth : AgentAuth}
    {agentId : String}
    {row : CredentialsRow}
    {token : String}
    {now : Int}
    {jti : String}

theorem eq_some_of_matchesHash
    {column : Option String}
    {hash : String}
    (matchesIt : matchesHash column hash = true) :
    column = some hash := by
  unfold matchesHash at matchesIt
  exact of_decide_eq_true (Bool.and_eq_true_iff.mp matchesIt).2

theorem entitles_authorizeJwt
    (named : agentId ≠ "")
    (authorized :
      (authorizeJwt auth agentId row token now).1.isAuthorized = true) :
    Entitles auth agentId row token now := by
  unfold authorizeJwt at authorized
  split at authorized
  · cases authorized
  · split at authorized
    · rename_i claims verified
      obtain ⟨isSigned, meets⟩ :=
        meetsExpectation_of_verified named verified
      exact .jwt isSigned meets
    · cases authorized
    · cases authorized

theorem entitles_authorizeOpaque
    (authorized :
      (authorizeOpaque auth agentId row token now jti).1.isAuthorized = true) :
    Entitles auth agentId row token now := by
  unfold authorizeOpaque at authorized
  dsimp only at authorized
  split at authorized
  · rename_i isSecret
    exact .secret (eq_some_of_matchesHash isSecret)
  · split at authorized
    · rename_i isOpen
      obtain ⟨isBootstrap, isOpen⟩ := Bool.and_eq_true_iff.mp isOpen
      obtain ⟨unused, unexpired⟩ := Bool.and_eq_true_iff.mp isOpen
      refine
        .bootstrap (eq_some_of_matchesHash isBootstrap)
          ((Bool.not_eq_true' _).mp unused) ?_
      intro expiresAt isExpiry
      rw [Option.mem_def.mp isExpiry] at unexpired
      exact of_decide_eq_true unexpired
    · split at authorized
      · rename_i recovers
        obtain ⟨isBootstrap, isOpen⟩ := Bool.and_eq_true_iff.mp recovers
        obtain ⟨isFilled, within⟩ := Bool.and_eq_true_iff.mp isOpen
        obtain ⟨_, isRotated⟩ := Bool.and_eq_true_iff.mp isFilled
        obtain ⟨rotatedAt, isStamp, _⟩ :=
          (Option.any_eq_true _ _).mp isRotated
        rw [isStamp] at within
        exact
          .recovery (eq_some_of_matchesHash isBootstrap) isStamp
            (of_decide_eq_true within)
      · split at authorized
        · cases authorized
        · split at authorized
          · cases authorized
          · cases authorized

/-- A token that is refused is not noted anywhere. -/
theorem update_of_rejected
    {credentials : Option CredentialsRow}
    {presented : Option String}
    {reason : String}
    (rejected :
      (authorizeDecision auth agentId credentials presented now jti).1 =
        .rejected reason) :
    (authorizeDecision auth agentId credentials presented now jti).2 =
      none := by
  unfold authorizeDecision at rejected ⊢
  cases credentials with
  | none =>
    cases rejected
  | some row =>
    dsimp only at rejected ⊢
    split
    · split
      · rfl
      · rfl
    · rename_i text isPresent
      rw [isPresent] at rejected
      dsimp only at rejected
      split
      · rename_i isJwt
        rw [if_pos isJwt] at rejected
        unfold authorizeJwt at rejected ⊢
        split
        · rfl
        · rename_i positive
          rw [if_neg positive] at rejected
          split
          · rename_i claims verified
            rw [verified] at rejected
            cases rejected
          · rfl
          · rfl
      · rename_i isOpaque
        rw [if_neg isOpaque] at rejected
        unfold authorizeOpaque at rejected ⊢
        dsimp only at rejected ⊢
        split at rejected
        · cases rejected
        · split at rejected
          · cases rejected
          · split at rejected
            · cases rejected
            · rename_i notSecret notOpen notRecovery
              rw [if_neg notSecret, if_neg notOpen, if_neg notRecovery]
              split
              · rfl
              · split
                · rfl
                · rfl

theorem entitles_of_authorized
    {presented : Option String}
    (named : agentId ≠ "")
    (isProtected : row.isProtected = true)
    (authorized :
      (authorizeDecision auth agentId (some row) presented now
        jti).1.isAuthorized = true) :
    ∃ text, presented = some text ∧ Entitles auth agentId row text now := by
  unfold authorizeDecision at authorized
  dsimp only at authorized
  split at authorized
  · unfold CredentialsRow.isProtected at isProtected
    rw [if_pos isProtected] at authorized
    cases authorized
  · rename_i text isPresent
    refine ⟨text, (Option.filter_eq_some_iff.mp isPresent).1, ?_⟩
    split at authorized
    · exact entitles_authorizeJwt named authorized
    · exact entitles_authorizeOpaque authorized

end Sound

/--
`authorize_agent` for an agent with credentials: it answers that the agent is
authorized only for a token that entitles it, and its update, on the registry
that it then finds, changes no row if the answer is a rejection, and never the
row of another agent.
-/
theorem authorization_sound
    (auth : AgentAuth)
    {db : RegistryDB}
    {agentId : String}
    {row : CredentialsRow}
    (named : agentId ≠ "")
    (stored : db.getAgentCredentials agentId = some row)
    (isProtected : row.isProtected = true)
    (presented : Option String)
    (now : Int)
    (jti : String)
    (later : RegistryDB) :
    let decision :=
      authorizeDecision auth agentId (db.getAgentCredentials agentId)
        presented now jti
    let after := later.applyUpdate agentId now decision.2
    (decision.1.isAuthorized = true →
        ∃ text, presented = some text ∧ Entitles auth agentId row text now) ∧
      (∀ reason, decision.1 = .rejected reason → after = later) ∧
      ∀ other, agentId ≠ other →
        after.getAgentCredentials other = later.getAgentCredentials other := by
  intro decision after
  refine ⟨?_, ?_, ?_⟩
  · intro authorized
    have decided : decision =
        authorizeDecision auth agentId (some row) presented now jti :=
      congrArg (authorizeDecision auth agentId · presented now jti) stored
    rw [decided] at authorized
    exact entitles_of_authorized named isProtected authorized
  · intro reason rejected
    have noUpdate : decision.2 = none := update_of_rejected rejected
    show later.applyUpdate agentId now decision.2 = later
    rw [noUpdate]
    rfl
  · intro other different
    exact getAgentCredentials_applyUpdate_other different now decision.2

/-- The credentials of an agent with its first token. -/
def versionOne : CredentialsRow where
  agentId := "agent-1"
  tokenVersion := 1
  updatedAt := 1700000000

def versionOneRegistry : RegistryDB where
  agents := .empty
  credentials := { rows := [versionOne], distinct := by decide }

/-- The agent's first token entitles it. -/
theorem firstToken_entitles :
    Entitles exampleAuth "agent-1" versionOne firstToken 1700000500 := by
  have isStored :
      versionOneRegistry.getAgentCredentials "agent-1" = some versionOne :=
    rfl
  obtain ⟨sound, _, _⟩ :=
    authorization_sound exampleAuth (by decide) isStored rfl
      (some firstToken) 1700000500 secondJti versionOneRegistry
  have accepted :
      (authorizeDecision exampleAuth "agent-1"
        (versionOneRegistry.getAgentCredentials "agent-1")
        (some firstToken) 1700000500 secondJti).1.isAuthorized = true := by
    have unexpired : exampleAuth.Unexpired 1700000000 1700000500 := by
      rw [AgentAuth.Unexpired]
      rfl
    have positive : 0 < versionOne.tokenVersion := by
      decide
    have isVersion : 1 = versionOne.tokenVersion := rfl
    rw [isStored, firstToken, isVersion,
      authorizeDecision_issued exampleLibrary_lawful positive unexpired]
    rfl
  obtain ⟨text, isText, entitles⟩ := sound accepted
  exact Option.some.inj isText ▸ entitles

/-! ### Exceptions -/

section Exceptions

variable (library : TokenLibrary)

def segmentText (segment : String) : Option String :=
  (b64urlDecode library segment).bind String.fromUTF8?

def segmentValue (segment : String) : Option Json :=
  (segmentText library segment).bind library.jsonLoads

/-- A segment whose text makes `json.loads` raise another exception. -/
def Overruns (segment : String) : Prop :=
  ∃ text,
    segmentText library segment = some text ∧
      library.jsonLoads text = none ∧ library.jsonOverruns text = true

/-- Three segments that are read without another exception. -/
structure ReadsSafely
    (headerSegment payloadSegment signatureSegment : String) : Prop where
  header : ¬ Overruns library headerSegment
  payload :
    (segmentValue library headerSegment).isSome = true →
    ¬ Overruns library payloadSegment
  /-- The header has a `get`, and `compare_digest` takes the signature. -/
  object :
    (segmentValue library payloadSegment).isSome = true →
    ∀ value ∈ segmentValue library headerSegment,
      ∃ fields,
        value = .obj fields ∧
          (headerAlgorithm fields = some AGENT_JWT_ALGORITHM →
            signatureSegment.toList.all Char.isAscii = true)

/--
Verifying a token returns claims or raises an `AgentJwtError`, and
`authorize_agent` decides on a token that looks like one.
-/
def ExceptionSafe (auth : AgentAuth) (token : String) : Prop :=
  (∀ secret expected now,
      secret ≠ "" →
      verifyAgentJwt auth.library token secret expected now ≠ .raised) ∧
    (looksLikeJwt token = true →
      ∀ agentId credentials now jti,
        (authorizeDecision auth agentId credentials (some token) now
          jti).1 ≠ .raised)

theorem loadSegment_cases (segment : String) :
    (∃ value,
        loadSegment library segment = .ok value ∧
          segmentValue library segment = some value ∧
          ¬ Overruns library segment) ∨
      (loadSegment library segment = .error .raised ∧
        segmentValue library segment = none ∧
        Overruns library segment) ∨
      ∃ error,
        loadSegment library segment = .error (.refused error) ∧
          segmentValue library segment = none ∧
          ¬ Overruns library segment := by
  unfold loadSegment segmentValue Overruns segmentText
  cases b64urlDecode library segment with
  | none =>
    exact .inr (.inr ⟨_, rfl, rfl, by simp⟩)
  | some bytes =>
    dsimp only [Option.bind_some]
    cases String.fromUTF8? bytes with
    | none =>
      exact .inr (.inr ⟨_, rfl, rfl, by simp⟩)
    | some text =>
      dsimp only [Option.bind_some]
      cases loads : library.jsonLoads text with
      | some value =>
        exact .inl ⟨value, rfl, rfl, by simp [loads]⟩
      | none =>
        cases overruns : library.jsonOverruns text with
        | true =>
          exact .inr (.inl ⟨rfl, rfl, text, rfl, loads, overruns⟩)
        | false =>
          exact .inr (.inr ⟨_, rfl, rfl, by simp [overruns]⟩)

variable {library}

theorem readSigned_raised_iff
    {headerSegment payloadSegment signatureSegment secret : String}
    {payload : Json} :
    readSigned library headerSegment payloadSegment signatureSegment payload
        secret = .raised ↔
      signatureSegment.toList.all Char.isAscii = false := by
  unfold readSigned
  split
  · rename_i notAscii
    exact ⟨fun _ => notAscii, fun _ => rfl⟩
  · rename_i isAscii
    refine ⟨?_, fun notAscii => (isAscii notAscii).elim⟩
    intro raised
    split at raised
    · cases raised
    · split at raised
      · cases raised
      · cases raised

theorem checkClaims_ne_raised
    (expected : JwtExpectation)
    (now : Int)
    (claims : AgentJwtClaims) :
    checkClaims expected now claims ≠ .raised := by
  unfold checkClaims
  split_ifs
  all_goals exact nofun

section Segments

variable
    {token secret headerSegment payloadSegment signatureSegment : String}
    (hasSecret : secret ≠ "")

include hasSecret

/-- No other exception is raised of three segments that are read safely. -/
theorem readAgentJwt_ne_raised_iff
    (isToken :
      segments token = [headerSegment, payloadSegment, signatureSegment]) :
    readAgentJwt library token secret ≠ .raised ↔
      ReadsSafely library headerSegment payloadSegment signatureSegment := by
  rw [readAgentJwt, if_neg hasSecret, isToken]
  dsimp only
  rcases loadSegment_cases library headerSegment with
    ⟨header, loads, isHeader, safeHeader⟩ | ⟨raises, noHeader, overruns⟩ |
      ⟨error, refuses, noHeader, safeHeader⟩
  · rw [loads]
    dsimp only
    rcases loadSegment_cases library payloadSegment with
      ⟨payload, loadsToo, isPayload, safePayload⟩ |
        ⟨raises, noPayload, overruns⟩ | ⟨error, refuses, noPayload, safe⟩
    · rw [loadsToo]
      dsimp only
      have isSafe :
          ReadsSafely library headerSegment payloadSegment
              signatureSegment ↔
            ∃ fields,
              header = .obj fields ∧
                (headerAlgorithm fields = some AGENT_JWT_ALGORITHM →
                  signatureSegment.toList.all Char.isAscii = true) := by
        constructor
        · intro reads
          exact reads.object (by rw [isPayload]; rfl) header isHeader
        · intro object
          refine ⟨safeHeader, fun _ => safePayload, ?_⟩
          intro _ value isValue
          rw [isHeader] at isValue
          exact Option.some.inj isValue ▸ object
      rw [isSafe]
      cases header with
      | obj fields =>
        dsimp only
        split
        · rename_i otherAlgorithm
          refine ⟨fun _ => ⟨fields, rfl, ?_⟩, fun _ => by simp⟩
          exact fun isAlgorithm => (otherAlgorithm isAlgorithm).elim
        · rename_i isAlgorithm
          have isSigned := not_not.mp isAlgorithm
          rw [Ne, readSigned_raised_iff, Bool.not_eq_false]
          constructor
          · exact fun isAscii => ⟨fields, rfl, fun _ => isAscii⟩
          · rintro ⟨_, isObject, isAscii⟩
            obtain rfl := Json.obj.inj isObject
            exact isAscii isSigned
      | _ =>
        refine ⟨fun notRaised => (notRaised rfl).elim, ?_⟩
        rintro ⟨fields, isObject, _⟩
        cases isObject
    · rw [raises]
      refine ⟨fun notRaised => (notRaised rfl).elim, ?_⟩
      intro reads
      exact (reads.payload (by rw [isHeader]; rfl) overruns).elim
    · rw [refuses]
      refine ⟨fun _ => ⟨safeHeader, fun _ => safe, ?_⟩, fun _ => by simp⟩
      rw [noPayload]
      simp
  · rw [raises]
    exact
      ⟨fun notRaised => (notRaised rfl).elim,
        fun reads => (reads.header overruns).elim⟩
  · rw [refuses]
    refine ⟨fun _ => ⟨safeHeader, ?_, ?_⟩, fun _ => by simp⟩
    · rw [noHeader]
      simp
    · rw [noHeader]
      exact fun _ _ member => (Option.not_mem_none _ member).elim

theorem verifyAgentJwt_ne_raised_iff
    (expected : JwtExpectation)
    (now : Int) :
    verifyAgentJwt library token secret expected now ≠ .raised ↔
      ∀ header payload signed,
        segments token = [header, payload, signed] →
        ReadsSafely library header payload signed := by
  have sameRaise :
      verifyAgentJwt library token secret expected now = .raised ↔
        readAgentJwt library token secret = .raised := by
    unfold verifyAgentJwt
    cases readAgentJwt library token secret with
    | verified claims =>
      exact
        ⟨fun raised =>
            (checkClaims_ne_raised expected now claims raised).elim,
          nofun⟩
    | refused error =>
      exact ⟨nofun, nofun⟩
    | raised =>
      exact ⟨fun _ => rfl, fun _ => rfl⟩
  rw [Ne, sameRaise]
  constructor
  · intro notRaised header payload signed isToken
    exact (readAgentJwt_ne_raised_iff hasSecret isToken).mp notRaised
  · intro reads raised
    by_cases three :
        ∃ header payload signed, segments token = [header, payload, signed]
    · obtain ⟨header, payload, signed, isToken⟩ := three
      exact
        (readAgentJwt_ne_raised_iff hasSecret isToken).mpr
          (reads header payload signed isToken) raised
    · rw [readAgentJwt, if_neg hasSecret] at raised
      split at raised
      · rename_i isToken
        exact three ⟨_, _, _, isToken⟩
      · cases raised

end Segments

theorem authorizeDecision_ne_raised
    {auth : AgentAuth}
    {token : String}
    (isJwt : looksLikeJwt token = true)
    (verifies :
      ∀ expected now,
        verifyAgentJwt auth.library token auth.getAgentJwtSecret expected
          now ≠ .raised)
    (agentId : String)
    (credentials : Option CredentialsRow)
    (now : Int)
    (jti : String) :
    (authorizeDecision auth agentId credentials (some token) now jti).1 ≠
      .raised := by
  unfold authorizeDecision
  cases credentials with
  | none =>
    exact nofun
  | some row =>
    dsimp only
    split
    · split
      · exact nofun
      · exact nofun
    · rename_i text isPresent
      obtain rfl :=
        Option.some.inj (Option.filter_eq_some_iff.mp isPresent).1
      rw [if_pos isJwt]
      unfold authorizeJwt
      split
      · exact nofun
      · split
        · exact nofun
        · exact nofun
        · rename_i raised
          exact (verifies _ _ raised).elim

/--
A token is verified without another exception, and decided on, exactly if its
three segments, where it has three, are read safely.
-/
theorem exceptionSafe_iff
    (auth : AgentAuth)
    (token : String) :
    ExceptionSafe auth token ↔
      ∀ header payload signed,
        segments token = [header, payload, signed] →
        ReadsSafely auth.library header payload signed := by
  have hasSecret := auth.getAgentJwtSecret_nonempty
  constructor
  · intro ⟨verifies, _⟩
    exact
      (verifyAgentJwt_ne_raised_iff hasSecret {} 0).mp
        (verifies auth.getAgentJwtSecret {} 0 hasSecret)
  · intro reads
    refine ⟨?_, ?_⟩
    · intro secret expected now nonempty
      exact (verifyAgentJwt_ne_raised_iff nonempty expected now).mpr reads
    · intro isJwt agentId credentials now jti
      refine authorizeDecision_ne_raised isJwt ?_ agentId credentials now jti
      intro expected time
      exact (verifyAgentJwt_ne_raised_iff hasSecret expected time).mpr reads

end Exceptions

/-! ### A header that is a list -/

/-- A server that loads lists as well. -/
def listAuth : AgentAuth where
  library :=
    { exampleLibrary with
      jsonLoads := fun text =>
        if text = "[]" then some (.arr []) else exampleLoads text }

/-- The header is a list, which has no `get`. -/
theorem not_exceptionSafe :
    ¬ ∀ token, ExceptionSafe listAuth token := by
  intro claimed
  obtain ⟨verifies, _⟩ := claimed "W10.W10.W10"
  have raised :
      (match
          verifyAgentJwt listAuth.library "W10.W10.W10"
            DEFAULT_AGENT_JWT_SECRET {} 1700000000 with
        | .raised => true
        | _ => false) = true := by
    decide
  refine verifies DEFAULT_AGENT_JWT_SECRET {} 1700000000 (by decide) ?_
  split at raised
  · assumption
  · cases raised

end RpaPlatform.Agents
