import Mathlib.Data.List.DropRight
import RpaPlatform.TaskModels

namespace RpaPlatform.Agents

open Tasks (Json)

/-!
# Agent access tokens

The signed tokens with which agents authenticate: how they are issued and
verified.  JSON, base64, HMAC, SHA-256 and the field parsing of the claims
model are library functions, which a `TokenLibrary` stands for.  What the
development relies on is stated by `TokenLibrary.Lawful`; the results on
revocation hold for every library.
-/

/-- The field values of a token's claims. -/
structure ClaimFields where
  iss : String
  sub : String
  agentId : String
  purpose : String
  iat : Int
  exp : Option Int
  jti : String
  ver : Int
deriving DecidableEq

/-- The claims of an agent token; the subject is the agent. -/
structure AgentJwtClaims extends ClaimFields where
  subjectIsAgent : sub = agentId

/-- The library functions behind the tokens. -/
structure TokenLibrary where
  /-- `json.dumps` of an object, compact and with sorted keys. -/
  jsonDumps : List (String × Json) → String
  jsonLoads : String → Option Json
  /--
  Whether `json.loads` raises another exception than a `JSONDecodeError` where
  it loads nothing: of an integer with too many digits, or of values that are
  nested too deep.
  -/
  jsonOverruns : String → Bool := fun _ => false
  urlsafeB64encode : ByteArray → String
  /-- `base64.urlsafe_b64decode`, of an ASCII text. -/
  urlsafeB64decode : String → Option ByteArray
  /-- The HMAC-SHA-256 digest of a message under a key. -/
  hmacSha256 : ByteArray → ByteArray → ByteArray
  /-- The SHA-256 digest in hexadecimal. -/
  sha256Hex : ByteArray → String
  /-- The fields of the claims model, with its defaults. -/
  claimFields : Json → Option ClaimFields

/-- What verifying a token comes to. -/
inductive JwtCheck where
  | verified (claims : AgentJwtClaims)
  /-- `AgentJwtError`. -/
  | refused (error : String)
  /-- Another exception. -/
  | raised

def AGENT_JWT_ALGORITHM : String :=
  "HS256"

def TOKEN_PURPOSE_AGENT_WS : String :=
  "agent_ws"

section Encoding

variable (library : TokenLibrary)

/-- Drop the `=` at the end of a text. -/
def stripPadding (text : String) : String :=
  String.ofList (text.toList.rdropWhile (· == '='))

def b64urlEncode (payload : ByteArray) : String :=
  stripPadding (library.urlsafeB64encode payload)

/-- The padding that `_b64url_decode` adds. -/
def padding (value : String) : String :=
  String.ofList (List.replicate ((4 - value.length % 4) % 4) '=')

def b64urlDecode (value : String) : Option ByteArray :=
  library.urlsafeB64decode (value ++ padding value)

/-- A segment of a token, decoded, or what verifying it comes to. -/
def loadSegment (segment : String) : Except JwtCheck Json :=
  match b64urlDecode library segment with
  | none =>
    .error (.refused "invalid base64url payload")
  | some bytes =>
    match String.fromUTF8? bytes with
    | none =>
      .error (.refused "invalid token payload")
    | some text =>
      match library.jsonLoads text with
      | some value => .ok value
      | none =>
        .error
          (if library.jsonOverruns text then .raised
          else .refused "invalid token payload")

def dumpSegment (fields : List (String × Json)) : String :=
  b64urlEncode library (library.jsonDumps fields).toUTF8

def looksLikeJwt (token : String) : Bool :=
  token ≠ "" && token.toList.count '.' = 2

/-- `token.split(".")`. -/
def segments (token : String) : List String :=
  (token.toList.splitOn '.').map String.ofList

def signingInput (headerSegment payloadSegment : String) : String :=
  headerSegment ++ "." ++ payloadSegment

def signature (secret input : String) : String :=
  b64urlEncode library (library.hmacSha256 secret.toUTF8 input.toUTF8)

def jwtHeader : List (String × Json) :=
  [("alg", .str AGENT_JWT_ALGORITHM), ("typ", .str "JWT")]

/-- `claims.model_dump(exclude_none=True)`, with sorted keys. -/
def modelDump (claims : AgentJwtClaims) : List (String × Json) :=
  [("agent_id", .str claims.agentId)] ++
    (claims.exp.toList.map fun exp => ("exp", .num exp)) ++
    [("iat", .num claims.iat),
      ("iss", .str claims.iss),
      ("jti", .str claims.jti),
      ("purpose", .str claims.purpose),
      ("sub", .str claims.sub),
      ("ver", .num claims.ver)]

/-- `sign_agent_jwt`, with a secret that is not empty. -/
def signAgentJwt (claims : AgentJwtClaims) (secret : String) : String :=
  let headerSegment := dumpSegment library jwtHeader
  let payloadSegment := dumpSegment library (modelDump claims)
  signingInput headerSegment payloadSegment ++ "." ++
    signature library secret (signingInput headerSegment payloadSegment)

def issueAgentJwt
    (secret agentId issuer purpose : String)
    (tokenVersion : Int)
    (ttlSeconds : Option Int)
    (now : Int)
    (jti : String) : String :=
  signAgentJwt library
    { iss := issuer
      sub := agentId
      agentId := agentId
      purpose := purpose
      iat := now
      exp := (ttlSeconds.filter (0 < ·)).map (now + ·)
      jti := jti
      ver := tokenVersion
      subjectIsAgent := rfl }
    secret

/-- The model's own check of the fields, `_validate_subject`. -/
def validateSubject (fields : ClaimFields) : Option AgentJwtClaims :=
  if subjectIsAgent : fields.sub = fields.agentId then
    some { toClaimFields := fields, subjectIsAgent }
  else
    none

/-- `header.get("alg")`, of a header that is an object. -/
def headerAlgorithm (fields : List (String × Json)) : Option String :=
  match fields.lookup "alg" with
  | some (.str algorithm) => some algorithm
  | _ => none

/-- `verify_agent_jwt`, from the check of the signature to the claims. -/
def readSigned
    (headerSegment payloadSegment signatureSegment : String)
    (payload : Json)
    (secret : String) : JwtCheck :=
  if signatureSegment.toList.all Char.isAscii = false then
    -- `compare_digest` takes ASCII texts only.
    .raised
  else if signatureSegment ≠
      signature library secret (signingInput headerSegment payloadSegment) then
    .refused "invalid token signature"
  else
    match (library.claimFields payload).bind validateSubject with
    | some claims => .verified claims
    | none => .refused "invalid token claims"

/-- `verify_agent_jwt`, up to the checks against what is expected. -/
def readAgentJwt (token secret : String) : JwtCheck :=
  if secret = "" then
    .refused "signing secret is required"
  else
    match segments token with
    | [headerSegment, payloadSegment, signatureSegment] =>
      match loadSegment library headerSegment with
      | .error check => check
      | .ok header =>
        match loadSegment library payloadSegment with
        | .error check => check
        | .ok payload =>
          match header with
          | .obj fields =>
            if headerAlgorithm fields ≠ some AGENT_JWT_ALGORITHM then
              .refused "unsupported token algorithm"
            else
              readSigned library headerSegment payloadSegment
                signatureSegment payload secret
          | _ =>
            -- Other values have no `get`.
            .raised
    | _ =>
      .refused "invalid token format"

/-- What a token is expected to claim; an empty text expects nothing. -/
structure JwtExpectation where
  agentId : Option String := none
  version : Option Int := none
  purpose : Option String := none
  issuer : Option String := none

def mismatches (expected : Option String) (claim : String) : Bool :=
  expected.any fun text => text ≠ "" && claim ≠ text

/-- The checks of `verify_agent_jwt` on the claims of a token. -/
def checkClaims
    (expected : JwtExpectation)
    (now : Int)
    (claims : AgentJwtClaims) : JwtCheck :=
  if claims.exp.any (· < now) then
    .refused "token expired"
  else if mismatches expected.agentId claims.agentId then
    .refused "token agent mismatch"
  else if expected.version.any (claims.ver ≠ ·) then
    .refused "token version mismatch"
  else if mismatches expected.purpose claims.purpose then
    .refused "token purpose mismatch"
  else if mismatches expected.issuer claims.iss then
    .refused "token issuer mismatch"
  else
    .verified claims

def verifyAgentJwt
    (token secret : String)
    (expected : JwtExpectation)
    (now : Int) : JwtCheck :=
  match readAgentJwt library token secret with
  | .verified claims => checkClaims expected now claims
  | .refused error => .refused error
  | .raised => .raised

end Encoding

/-! ### The server's own tokens -/

def DEFAULT_AGENT_JWT_SECRET : String :=
  "vm-agent-development-secret-change-me"

def DEFAULT_AGENT_JWT_ISSUER : String :=
  "vm_agent_server"

/-- The server's environment, as far as tokens depend on it. -/
structure AgentAuth where
  library : TokenLibrary
  /-- `VM_AGENT_JWT_SECRET`. -/
  secretVariable : Option String := none
  /-- `VM_AGENT_JWT_ISSUER`. -/
  issuerVariable : Option String := none
  /-- `VM_AGENT_JWT_TTL_SECONDS`, where it is an integer. -/
  ttlVariable : Option Int := none
  /-- `BOOTSTRAP_RECOVERY_WINDOW_SECONDS`. -/
  recoveryWindowSeconds : Int := 24 * 60 * 60

namespace AgentAuth

variable (auth : AgentAuth)

/-- The value of a variable, or a default where it is empty or unset. -/
def orDefault (setting : Option String) (default : String) : String :=
  match setting with
  | none => default
  | some value => if value = "" then default else value

def getAgentJwtSecret : String :=
  orDefault auth.secretVariable DEFAULT_AGENT_JWT_SECRET

def getAgentJwtIssuer : String :=
  orDefault auth.issuerVariable DEFAULT_AGENT_JWT_ISSUER

def getAgentJwtTtlSeconds : Option Int :=
  auth.ttlVariable.filter (0 < ·)

def hashToken (value : String) : String :=
  auth.library.sha256Hex value.toUTF8

def issueAgentAccessToken
    (agentId : String)
    (tokenVersion now : Int)
    (jti : String) : String :=
  issueAgentJwt auth.library auth.getAgentJwtSecret agentId
    auth.getAgentJwtIssuer TOKEN_PURPOSE_AGENT_WS tokenVersion
    auth.getAgentJwtTtlSeconds now jti

def verifyAgentAccessToken
    (token expectedAgentId : String)
    (expectedVersion now : Int) : JwtCheck :=
  verifyAgentJwt auth.library token auth.getAgentJwtSecret
    { agentId := some expectedAgentId
      version := some expectedVersion
      purpose := some TOKEN_PURPOSE_AGENT_WS
      issuer := some auth.getAgentJwtIssuer }
    now

/-- The claims that a token carries, signed with the server's secret. -/
def tokenClaims (token : String) : Option AgentJwtClaims :=
  match readAgentJwt auth.library token auth.getAgentJwtSecret with
  | .verified claims => some claims
  | _ => none

def carriedVersion (token : String) : Option Int :=
  (auth.tokenClaims token).map fun claims => claims.ver

theorem carriedVersion_of_verified
    {token expectedAgentId : String}
    {expectedVersion now : Int}
    {claims : AgentJwtClaims}
    (verified :
      auth.verifyAgentAccessToken token expectedAgentId expectedVersion
        now = .verified claims) :
    auth.carriedVersion token = some expectedVersion := by
  unfold verifyAgentAccessToken verifyAgentJwt at verified
  unfold carriedVersion tokenClaims
  cases read : readAgentJwt auth.library token auth.getAgentJwtSecret with
  | verified carried =>
    rw [read] at verified
    dsimp only at verified ⊢
    by_contra different
    have mismatch :
        (some expectedVersion).any (fun version =>
          decide (carried.ver ≠ version)) = true := by
      rw [Option.any_some, decide_eq_true_eq]
      intro same
      exact different (congrArg some same)
    unfold checkClaims at verified
    rw [mismatch] at verified
    split at verified
    · cases verified
    · split at verified
      · cases verified
      · rw [if_pos rfl] at verified
        cases verified
  | refused | raised =>
    rw [read] at verified
    cases verified

end AgentAuth

end RpaPlatform.Agents
