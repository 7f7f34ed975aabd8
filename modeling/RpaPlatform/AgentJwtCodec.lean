import RpaPlatform.AgentJwtIssue

namespace RpaPlatform.Agents

open Tasks (Json)

/-!
# The codec of agent tokens

What is issued is verified exactly when it has not expired and is what is
expected.  Base64 is the one of this development; HMAC is any function, and of
JSON and the claims model it is relied on that issued claims come back.
-/

/-- The library functions, with base64 as it is. -/
structure TokenLibrary.Codec (library : TokenLibrary) : Prop where
  urlsafeB64encode :
    ∀ bytes,
      library.urlsafeB64encode bytes =
        String.ofList (Base64.encode bytes.data.toList)
  urlsafeB64decode :
    ∀ text, library.urlsafeB64decode text = if text.toList.all Char.isAscii then
          (Base64.decodeLenient text.toList).map fun bytes => ⟨⟨bytes⟩⟩
        else
          none
  loads_header :
    library.jsonLoads (library.jsonDumps jwtHeader) = some (.obj jwtHeader)
  loads_claims :
    ∀ claims,
      library.jsonLoads (library.jsonDumps (modelDump claims)) =
        some (.obj (modelDump claims))
  fields_claims :
    ∀ claims : AgentJwtClaims,
      library.claimFields (.obj (modelDump claims)) = some claims.toClaimFields

def TokenLibrary.withoutSha256 (library : TokenLibrary) : TokenLibrary :=
  { library with sha256Hex := fun _ => "0" }

theorem signAgentJwt_withoutSha256
    (library : TokenLibrary)
    (claims : AgentJwtClaims)
    (secret : String) :
    signAgentJwt library.withoutSha256 claims secret =
      signAgentJwt library claims secret :=
  rfl

theorem readAgentJwt_withoutSha256
    (library : TokenLibrary)
    (token secret : String) :
    readAgentJwt library.withoutSha256 token secret =
      readAgentJwt library token secret := by
  unfold readAgentJwt
  rfl

theorem b64urlDecode_withoutSha256
    (library : TokenLibrary)
    (payload : ByteArray) :
    b64urlDecode library.withoutSha256
        (b64urlEncode library.withoutSha256 payload) =
      b64urlDecode library (b64urlEncode library payload) :=
  rfl

section Codec

variable
    {library : TokenLibrary}
    (codec : library.Codec)

include codec

theorem toList_urlsafeB64encode (bytes : ByteArray) :
    (library.urlsafeB64encode bytes).toList =
      Base64.encode bytes.data.toList := by
  rw [codec.urlsafeB64encode, String.toList_ofList]

theorem isAscii_urlsafeB64encode (bytes : ByteArray) :
    (library.urlsafeB64encode bytes).toList.all Char.isAscii = true := by
  obtain ⟨body, pads, shape, _, _, digits⟩ :=
    Base64.encode_shape bytes.data.toList
  rw [toList_urlsafeB64encode codec, shape, List.all_append, Bool.and_eq_true]
  constructor
  · rw [List.all_eq_true]
    exact fun char member => isDigit_isAscii (digits char member)
  · rw [List.all_eq_true]
    intro char member
    rw [List.eq_of_mem_replicate member]
    rfl

theorem lawful_withoutSha256 : library.withoutSha256.Lawful where
  loads_header := codec.loads_header
  loads_claims := codec.loads_claims
  fields_claims := codec.fields_claims
  decode_encode := by
    intro bytes
    change library.urlsafeB64decode (library.urlsafeB64encode bytes) = _
    rw [codec.urlsafeB64decode, if_pos (isAscii_urlsafeB64encode codec _),
      toList_urlsafeB64encode codec, Base64.decodeLenient_encode]
    rfl
  encode_shape := by
    intro bytes
    have shape := Base64.encode_shape bytes.data.toList
    rw [← toList_urlsafeB64encode codec] at shape
    exact shape
  sha256_nonempty := fun _ => show "0" ≠ "" by decide

end Codec

/-! ### What is checked -/

/-- An issued token has no expiry, or is not past it. -/
def WithinLifetime
    (ttlSeconds : Option Int)
    (issuedAt now : Int) : Prop :=
  ∀ ttl ∈ ttlSeconds, 0 < ttl → now ≤ issuedAt + ttl

def AsExpected (expected : Option String) (claim : String) : Prop :=
  ∀ text ∈ expected, text ≠ "" → claim = text

theorem mismatches_eq_false_iff
    {expected : Option String}
    {claim : String} :
    mismatches expected claim = false ↔ AsExpected expected claim := by
  unfold mismatches AsExpected
  cases expected with
  | none =>
    simp
  | some text =>
    by_cases empty : text = ""
    · simp [empty]
    · simp [empty]

theorem checkClaims_verified_iff
    {expected : JwtExpectation}
    {now : Int}
    {claims : AgentJwtClaims} :
    checkClaims expected now claims = .verified claims ↔
      (∀ exp ∈ claims.exp, now ≤ exp) ∧
        AsExpected expected.agentId claims.agentId ∧
        (∀ version ∈ expected.version, claims.ver = version) ∧
        AsExpected expected.purpose claims.purpose ∧
        AsExpected expected.issuer claims.iss := by
  have unexpired :
      claims.exp.any (· < now) = false ↔ ∀ exp ∈ claims.exp, now ≤ exp := by
    cases claims.exp with
    | none | some =>
      simp
  have version :
      expected.version.any (claims.ver ≠ ·) = false ↔
        ∀ version ∈ expected.version, claims.ver = version := by
    cases expected.version with
    | none | some =>
      simp
  rw [← unexpired, ← version, ← mismatches_eq_false_iff,
    ← mismatches_eq_false_iff, ← mismatches_eq_false_iff]
  unfold checkClaims
  cases claims.exp.any (· < now) with
  | true =>
    simp
  | false =>
    cases mismatches expected.agentId claims.agentId with
    | true =>
      simp
    | false =>
      cases expected.version.any (claims.ver ≠ ·) with
      | true =>
        simp
      | false =>
        cases mismatches expected.purpose claims.purpose with
        | true =>
          simp
        | false =>
          cases mismatches expected.issuer claims.iss with
          | true =>
            simp
          | false =>
            simp

/-! ### Issued tokens, and accepted ones -/

section Verdicts

variable
    {library : TokenLibrary}
    {secret : String}

/-- The claims that a token is issued for. -/
def issuedJwtClaims
    (agentId issuer purpose : String)
    (tokenVersion : Int)
    (ttlSeconds : Option Int)
    (issuedAt : Int)
    (jti : String) : AgentJwtClaims where
  iss := issuer
  sub := agentId
  agentId := agentId
  purpose := purpose
  iat := issuedAt
  exp := (ttlSeconds.filter (0 < ·)).map (issuedAt + ·)
  jti := jti
  ver := tokenVersion
  subjectIsAgent := rfl

theorem readAgentJwt_issueAgentJwt
    (codec : library.Codec)
    (hasSecret : secret ≠ "")
    (agentId issuer purpose : String)
    (tokenVersion : Int)
    (ttlSeconds : Option Int)
    (issuedAt : Int)
    (jti : String) :
    readAgentJwt library
        (issueAgentJwt library secret agentId issuer purpose tokenVersion
          ttlSeconds issuedAt jti)
        secret =
      .verified
        (issuedJwtClaims agentId issuer purpose tokenVersion ttlSeconds
          issuedAt jti) := by
  unfold issueAgentJwt
  rw [← readAgentJwt_withoutSha256, ← signAgentJwt_withoutSha256]
  exact readAgentJwt_signAgentJwt (lawful_withoutSha256 codec) _ hasSecret

theorem read_of_verified
    {token : String}
    {expected : JwtExpectation}
    {now : Int}
    {claims : AgentJwtClaims}
    (verified :
      verifyAgentJwt library token secret expected now = .verified claims) :
    ∃ carried,
      readAgentJwt library token secret = .verified carried ∧
        checkClaims expected now carried = .verified claims := by
  unfold verifyAgentJwt at verified
  split at verified
  · rename_i carried read
    exact ⟨carried, read, verified⟩
  · cases verified
  · cases verified

theorem eq_of_checkClaims
    {expected : JwtExpectation}
    {now : Int}
    {carried claims : AgentJwtClaims}
    (passed : checkClaims expected now carried = .verified claims) :
    carried = claims := by
  unfold checkClaims at passed
  repeat
    split at passed
    · cases passed
  exact JwtCheck.verified.inj passed

theorem loadSegment_ne_verified
    (segment : String)
    (claims : AgentJwtClaims) :
    loadSegment library segment ≠ .error (.verified claims) := by
  unfold loadSegment
  split
  · exact nofun
  · split
    · exact nofun
    · split
      · exact nofun
      · split
        · exact nofun
        · exact nofun

theorem signed_of_read
    {token : String}
    {claims : AgentJwtClaims}
    (read : readAgentJwt library token secret = .verified claims) :
    ∃ headerSegment payloadSegment,
      segments token =
        [headerSegment, payloadSegment,
          b64urlEncode library
            (library.hmacSha256 secret.toUTF8
              (headerSegment ++ "." ++ payloadSegment).toUTF8)] := by
  have signed :
      ∀ headerSegment payloadSegment signatureSegment payload,
        readSigned library headerSegment payloadSegment signatureSegment
            payload secret =
          .verified claims →
        signatureSegment =
          signature library secret
            (signingInput headerSegment payloadSegment) := by
    intro headerSegment payloadSegment signatureSegment payload accepted
    unfold readSigned at accepted
    split at accepted
    · cases accepted
    · split at accepted
      · cases accepted
      · rename_i same
        exact not_not.mp same
  unfold readAgentJwt at read
  split at read
  · cases read
  · split at read
    · rename_i headerSegment payloadSegment signatureSegment isToken
      refine ⟨headerSegment, payloadSegment, ?_⟩
      rw [isToken]
      split at read
      · rename_i check refused
        subst read
        exact absurd refused (loadSegment_ne_verified _ _)
      · split at read
        · rename_i check refused
          subst read
          exact absurd refused (loadSegment_ne_verified _ _)
        · split at read
          · split at read
            · cases read
            · rw [signed _ _ _ _ read]
              rfl
          · cases read
    · cases read

/-- When an issued token is verified. -/
theorem verify_issueAgentJwt_iff
    (codec : library.Codec)
    (hasSecret : secret ≠ "")
    (agentId issuer purpose : String)
    (tokenVersion : Int)
    (ttlSeconds : Option Int)
    (issuedAt : Int)
    (jti : String)
    (expected : JwtExpectation)
    (now : Int) :
    (∃ claims,
      verifyAgentJwt library
          (issueAgentJwt library secret agentId issuer purpose
            tokenVersion ttlSeconds issuedAt jti)
          secret expected now =
        .verified claims) ↔
      WithinLifetime ttlSeconds issuedAt now ∧
        AsExpected expected.agentId agentId ∧
        (∀ version ∈ expected.version, tokenVersion = version) ∧
        AsExpected expected.purpose purpose ∧
        AsExpected expected.issuer issuer := by
  have read :=
    readAgentJwt_issueAgentJwt codec hasSecret agentId issuer purpose
      tokenVersion ttlSeconds issuedAt jti
  generalize isIssued :
    issuedJwtClaims agentId issuer purpose tokenVersion ttlSeconds issuedAt
        jti =
      issued at read
  have lifetime :
      WithinLifetime ttlSeconds issuedAt now ↔
        ∀ exp ∈ issued.exp, now ≤ exp := by
    rw [← isIssued]
    unfold WithinLifetime issuedJwtClaims
    cases ttlSeconds with
    | none =>
      simp
    | some ttl =>
      by_cases positive : 0 < ttl
      · simp [Option.filter, positive]
      · simp [Option.filter, positive]
  refine
    Iff.trans (b := checkClaims expected now issued = .verified issued)
      ⟨?_, ?_⟩ ?_
  · rintro ⟨claims, verified⟩
    obtain ⟨carried, isCarried, passed⟩ := read_of_verified verified
    rw [read] at isCarried
    obtain rfl := JwtCheck.verified.inj isCarried
    have same := eq_of_checkClaims passed
    exact same ▸ passed
  · intro passed
    refine ⟨issued, ?_⟩
    unfold verifyAgentJwt
    rw [read]
    exact passed
  · rw [lifetime, checkClaims_verified_iff, ← isIssued]
    rfl

/--
Bytes are read back from their encoding; an issued token is verified exactly
when it is within its lifetime and is what is expected; and what is accepted is
signed.
-/
theorem agentJwt_codec (codec : library.Codec) :
    (∀ bytes, b64urlDecode library (b64urlEncode library bytes) = some bytes) ∧
    (∀ secret agentId issuer purpose tokenVersion ttlSeconds issuedAt jti
        expected now,
      secret ≠ "" →
      ((∃ claims,
        verifyAgentJwt library
            (issueAgentJwt library secret agentId issuer purpose
              tokenVersion ttlSeconds issuedAt jti)
            secret expected now =
          .verified claims) ↔
        WithinLifetime ttlSeconds issuedAt now ∧
          AsExpected expected.agentId agentId ∧
          (∀ version ∈ expected.version, tokenVersion = version) ∧
          AsExpected expected.purpose purpose ∧
          AsExpected expected.issuer issuer)) ∧
    ∀ token secret expected now claims,
      verifyAgentJwt library token secret expected now = .verified claims →
      ∃ headerSegment payloadSegment signatureSegment,
        segments token =
            [headerSegment, payloadSegment, signatureSegment] ∧
          signatureSegment =
            b64urlEncode library
              (library.hmacSha256 secret.toUTF8
                (headerSegment ++ "." ++ payloadSegment).toUTF8) := by
  refine ⟨?_, ?_, ?_⟩
  · intro bytes
    rw [← b64urlDecode_withoutSha256]
    exact b64urlDecode_encode (lawful_withoutSha256 codec) bytes
  · intro secret agentId issuer purpose tokenVersion ttlSeconds issuedAt
      jti expected now hasSecret
    exact
      verify_issueAgentJwt_iff codec hasSecret agentId issuer purpose
        tokenVersion ttlSeconds issuedAt jti expected now
  · intro token secret expected now claims verified
    obtain ⟨carried, read, _⟩ := read_of_verified verified
    obtain ⟨headerSegment, payloadSegment, isToken⟩ := signed_of_read read
    exact ⟨headerSegment, payloadSegment, _, isToken, rfl⟩

end Verdicts

/-! ### A concrete library -/

/-- The library of two tokens, with lenient decoding. -/
def codecLibrary : TokenLibrary :=
  { exampleLibrary with
    urlsafeB64decode := fun text =>
      if text.toList.all Char.isAscii then
        (Base64.decodeLenient text.toList).map fun bytes => ⟨⟨bytes⟩⟩
      else
        none }

theorem codecLibrary_codec : codecLibrary.Codec where
  urlsafeB64encode := fun _ => rfl
  urlsafeB64decode := fun _ => rfl
  loads_header := exampleLibrary_lawful.loads_header
  loads_claims := exampleLibrary_lawful.loads_claims
  fields_claims := exampleLibrary_lawful.fields_claims

/-- A token of an hour is verified for its agent in its last second. -/
theorem hourToken_verified :
    ∃ claims,
      verifyAgentJwt codecLibrary
          (issueAgentJwt codecLibrary "secret" "agent-1" "issuer"
            TOKEN_PURPOSE_AGENT_WS 1 (some 3600) 1000 firstJti)
          "secret"
          { agentId := some "agent-1", version := some 1, issuer := some "" }
          4600 =
        .verified claims := by
  refine
    ((agentJwt_codec codecLibrary_codec).2.1 "secret" "agent-1" "issuer"
      TOKEN_PURPOSE_AGENT_WS 1 (some 3600) 1000 firstJti
      { agentId := some "agent-1", version := some 1, issuer := some "" }
      4600 (by decide)).mpr ⟨?_, ?_, ?_, ?_, ?_⟩
  · simp [WithinLifetime]
  · simp [AsExpected]
  · simp
  · simp [AsExpected]
  · simp [AsExpected]

end RpaPlatform.Agents
