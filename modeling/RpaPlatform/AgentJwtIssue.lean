import Mathlib.Logic.Equiv.List
import RpaPlatform.AgentJwt
import RpaPlatform.Base64

namespace RpaPlatform.Agents

open Tasks (Json)

/-!
# Issued tokens are verified

What the development relies on of the library functions, and the round trip:
a token that the server has issued is read back with the claims it was issued
for, and verified for its agent and version until it expires.
-/

/-- What is relied on of the library functions. -/
structure TokenLibrary.Lawful (library : TokenLibrary) : Prop where
  loads_header :
    library.jsonLoads (library.jsonDumps jwtHeader) = some (.obj jwtHeader)
  loads_claims :
    ∀ claims,
      library.jsonLoads (library.jsonDumps (modelDump claims)) =
        some (.obj (modelDump claims))
  fields_claims :
    ∀ claims : AgentJwtClaims,
      library.claimFields (.obj (modelDump claims)) = some claims.toClaimFields
  decode_encode :
    ∀ bytes,
      library.urlsafeB64decode (library.urlsafeB64encode bytes) = some bytes
  encode_shape :
    ∀ bytes,
      ∃ body pads,
        (library.urlsafeB64encode bytes).toList =
            body ++ List.replicate pads '=' ∧
          pads < 4 ∧
          (body.length + pads) % 4 = 0 ∧
          ∀ char ∈ body, Base64.isDigit char = true
  sha256_nonempty : ∀ bytes, library.sha256Hex bytes ≠ ""

theorem fromUTF8_toUTF8 (text : String) :
    String.fromUTF8? text.toUTF8 = some text := by
  simp only [String.fromUTF8?, String.toUTF8_eq_toByteArray,
    dif_pos text.isValidUTF8]
  rfl

variable {char : Char}

theorem isDigit_ne_padding
    (digit : Base64.isDigit char = true) :
    char ≠ '=' := by
  rintro rfl
  revert digit
  decide

theorem isDigit_ne_dot
    (digit : Base64.isDigit char = true) :
    char ≠ '.' := by
  rintro rfl
  revert digit
  decide

theorem isDigit_isAscii
    (digit : Base64.isDigit char = true) :
    char.isAscii = true := by
  have upper : 'Z'.toNat < 128 := by decide
  have lower : 'z'.toNat < 128 := by decide
  have numeral : '9'.toNat < 128 := by decide
  have below :
      ∀ {last : Char},
        char ≤ last → last.toNat < 128 → char.isAscii = true := by
    intro last atMost small
    have bound : char.toNat ≤ last.toNat := atMost
    exact decide_eq_true (Nat.lt_of_le_of_lt bound small)
  unfold Base64.isDigit Base64.valueOf at digit
  split at digit
  · rename_i range
    exact below range.2 upper
  · split at digit
    · rename_i range
      exact below range.2 lower
    · split at digit
      · rename_i range
        exact below range.2 numeral
      · split at digit
        · rename_i same
          subst char
          rfl
        · split at digit
          · rename_i same
            subst char
            rfl
          · cases digit

theorem stripPadding_digits
    {body : List Char}
    (digits : ∀ char ∈ body, Base64.isDigit char = true)
    (pads : Nat)
    {text : String}
    (shape : text.toList = body ++ List.replicate pads '=') :
    (stripPadding text).toList = body := by
  unfold stripPadding
  rw [String.toList_ofList, shape, List.rdropWhile, List.reverse_append,
    List.reverse_replicate]
  have padding : ∀ char ∈ List.replicate pads '=', (char == '=') = true := by
    intro char member
    rw [List.eq_of_mem_replicate member]
    rfl
  rw [List.dropWhile_append_of_pos padding]
  have stops : body.reverse.dropWhile (· == '=') = body.reverse := by
    cases reversed : body.reverse with
    | nil =>
      rfl
    | cons last earlier =>
      have member : last ∈ body := by
        rw [← List.mem_reverse, reversed]
        exact List.mem_cons_self
      have different := isDigit_ne_padding (digits last member)
      simp [different]
  rw [stops, List.reverse_reverse]

section Lawful

variable
    {library : TokenLibrary}
    (lawful : library.Lawful)

include lawful

theorem b64urlEncode_digits (payload : ByteArray) :
    ∀ char ∈ (b64urlEncode library payload).toList,
      Base64.isDigit char = true := by
  obtain ⟨body, pads, shape, _, _, digits⟩ := lawful.encode_shape payload
  rw [b64urlEncode, stripPadding_digits digits pads shape]
  exact digits

theorem b64urlDecode_encode (payload : ByteArray) :
    b64urlDecode library (b64urlEncode library payload) = some payload := by
  obtain ⟨body, pads, shape, few, whole, digits⟩ :=
    lawful.encode_shape payload
  have stripped : (b64urlEncode library payload).toList = body :=
    stripPadding_digits digits pads shape
  have length : (b64urlEncode library payload).length = body.length := by
    rw [← String.length_toList, stripped]
  have restored :
      b64urlEncode library payload ++
          padding (b64urlEncode library payload) =
        library.urlsafeB64encode payload := by
    apply String.toList_injective
    rw [String.toList_append, stripped, shape, padding,
      String.toList_ofList, length]
    have same : (4 - body.length % 4) % 4 = pads := by omega
    rw [same]
  rw [b64urlDecode, restored, lawful.decode_encode]

theorem loadSegment_dumpSegment
    {fields : List (String × Json)}
    (loads :
      library.jsonLoads (library.jsonDumps fields) = some (.obj fields)) :
    loadSegment library (dumpSegment library fields) = .ok (.obj fields) := by
  unfold loadSegment dumpSegment
  rw [b64urlDecode_encode lawful]
  dsimp only
  rw [fromUTF8_toUTF8]
  dsimp only
  rw [loads]

theorem dot_notMem_segment (payload : ByteArray) :
    '.' ∉ (b64urlEncode library payload).toList := by
  intro member
  exact isDigit_ne_dot (b64urlEncode_digits lawful payload '.' member) rfl

theorem segments_signAgentJwt (claims : AgentJwtClaims) (secret : String) :
    segments (signAgentJwt library claims secret) =
      [dumpSegment library jwtHeader,
        dumpSegment library (modelDump claims),
        signature library secret
          (signingInput (dumpSegment library jwtHeader)
            (dumpSegment library (modelDump claims)))] := by
  have joined :
      (signAgentJwt library claims secret).toList =
        ['.'].intercalate
          [(dumpSegment library jwtHeader).toList,
            (dumpSegment library (modelDump claims)).toList,
            (signature library secret
              (signingInput (dumpSegment library jwtHeader)
                (dumpSegment library (modelDump claims)))).toList] := by
    simp [signAgentJwt, signingInput, List.intercalate, String.toList_append]
  have separate :
      ∀ segment ∈
        [(dumpSegment library jwtHeader).toList,
          (dumpSegment library (modelDump claims)).toList,
          (signature library secret
            (signingInput (dumpSegment library jwtHeader)
              (dumpSegment library (modelDump claims)))).toList],
        '.' ∉ segment := by
    intro segment member
    simp only [List.mem_cons, List.not_mem_nil, or_false] at member
    rcases member with rfl | rfl | rfl <;> exact dot_notMem_segment lawful _
  unfold segments
  rw [joined, List.splitOn_intercalate '.' separate (by simp)]
  simp

theorem looksLikeJwt_signAgentJwt
    (claims : AgentJwtClaims)
    (secret : String) :
    looksLikeJwt (signAgentJwt library claims secret) = true := by
  have count : (signAgentJwt library claims secret).toList.count '.' = 2 := by
    have header :=
      List.count_eq_zero.mpr (dot_notMem_segment lawful
        (library.jsonDumps jwtHeader).toUTF8)
    have payload :=
      List.count_eq_zero.mpr (dot_notMem_segment lawful
        (library.jsonDumps (modelDump claims)).toUTF8)
    have signed := fun bytes =>
      List.count_eq_zero.mpr (dot_notMem_segment lawful bytes)
    simp only [signAgentJwt, signingInput, signature, dumpSegment,
      String.toList_append, List.count_append, header, payload, signed]
    rfl
  have nonempty : signAgentJwt library claims secret ≠ "" := by
    intro empty
    rw [empty] at count
    cases count
  rw [looksLikeJwt, Bool.and_eq_true, decide_eq_true_eq, decide_eq_true_eq]
  exact ⟨nonempty, count⟩

theorem readAgentJwt_signAgentJwt
    (claims : AgentJwtClaims)
    {secret : String}
    (hasSecret : secret ≠ "") :
    readAgentJwt library (signAgentJwt library claims secret) secret =
      .verified claims := by
  have ascii :
      ∀ payload,
        (b64urlEncode library payload).toList.all Char.isAscii = true := by
    intro payload
    rw [List.all_eq_true]
    exact fun char member =>
      isDigit_isAscii (b64urlEncode_digits lawful payload char member)
  have subject : validateSubject claims.toClaimFields = some claims := by
    rw [validateSubject, dif_pos claims.subjectIsAgent]
  have signed :
      ∀ header payload,
        readSigned library header payload
            (signature library secret (signingInput header payload))
            (.obj (modelDump claims)) secret =
          .verified claims := by
    intro header payload
    rw [readSigned, signature, ascii, if_neg (by simp), if_neg (by simp),
      lawful.fields_claims, Option.bind_some, subject]
  rw [readAgentJwt, if_neg hasSecret, segments_signAgentJwt lawful]
  simp only [loadSegment_dumpSegment lawful lawful.loads_header,
    loadSegment_dumpSegment lawful (lawful.loads_claims claims), signed]
  rfl

end Lawful

/-! ### The server's own tokens -/

namespace AgentAuth

variable (auth : AgentAuth)

theorem getAgentJwtSecret_nonempty : auth.getAgentJwtSecret ≠ "" := by
  unfold getAgentJwtSecret orDefault
  split
  · decide
  · split
    · decide
    · assumption

/-- The claims of an issued token. -/
def issuedClaims
    (agentId : String)
    (tokenVersion now : Int)
    (jti : String) : AgentJwtClaims where
  iss := auth.getAgentJwtIssuer
  sub := agentId
  agentId := agentId
  purpose := TOKEN_PURPOSE_AGENT_WS
  iat := now
  exp := (auth.getAgentJwtTtlSeconds.filter (0 < ·)).map (now + ·)
  jti := jti
  ver := tokenVersion
  subjectIsAgent := rfl

def Unexpired (issuedAt now : Int) : Prop :=
  auth.getAgentJwtTtlSeconds.all (fun ttl => now ≤ issuedAt + ttl) = true

/-- A token is older than the lifetime that the server gives its tokens. -/
def outlived (token : String) (now : Int) : Bool :=
  auth.getAgentJwtTtlSeconds.any fun ttl =>
    (auth.tokenClaims token).any fun claims => claims.iat + ttl < now

variable
    {auth}
    (lawful : auth.library.Lawful)
    (agentId : String)
    (tokenVersion issuedAt : Int)
    (jti : String)

include lawful

theorem readAgentJwt_issue :
    readAgentJwt auth.library
        (auth.issueAgentAccessToken agentId tokenVersion issuedAt jti)
        auth.getAgentJwtSecret =
      .verified (auth.issuedClaims agentId tokenVersion issuedAt jti) :=
  readAgentJwt_signAgentJwt lawful _ auth.getAgentJwtSecret_nonempty

theorem looksLikeJwt_issue :
    looksLikeJwt
        (auth.issueAgentAccessToken agentId tokenVersion issuedAt jti) =
      true :=
  looksLikeJwt_signAgentJwt lawful _ _

theorem carriedVersion_issue :
    auth.carriedVersion
        (auth.issueAgentAccessToken agentId tokenVersion issuedAt jti) =
      some tokenVersion := by
  unfold carriedVersion tokenClaims
  rw [readAgentJwt_issue lawful]
  rfl

theorem unexpired_of_not_outlived
    {now : Int}
    (young :
      auth.outlived
          (auth.issueAgentAccessToken agentId tokenVersion issuedAt jti)
          now =
        false) :
    auth.Unexpired issuedAt now := by
  unfold outlived tokenClaims at young
  rw [readAgentJwt_issue lawful] at young
  unfold Unexpired
  cases ttl : auth.getAgentJwtTtlSeconds with
  | none =>
    rfl
  | some seconds =>
    simpa [ttl, issuedClaims] using young

theorem verify_issue
    {now : Int}
    (unexpired : auth.Unexpired issuedAt now) :
    auth.verifyAgentAccessToken
        (auth.issueAgentAccessToken agentId tokenVersion issuedAt jti)
        agentId tokenVersion now =
      .verified (auth.issuedClaims agentId tokenVersion issuedAt jti) := by
  have current :
      (auth.issuedClaims agentId tokenVersion issuedAt jti).exp.any
          (· < now) =
        false := by
    unfold Unexpired at unexpired
    unfold issuedClaims
    cases ttl : auth.getAgentJwtTtlSeconds with
    | none =>
      rfl
    | some seconds =>
      rw [ttl, Option.all_some, decide_eq_true_eq] at unexpired
      by_cases positive : 0 < seconds
      · simp [Option.filter, positive, unexpired]
      · simp [Option.filter, positive]
  unfold verifyAgentAccessToken verifyAgentJwt
  rw [readAgentJwt_issue lawful]
  dsimp only
  rw [checkClaims, current]
  simp [mismatches, issuedClaims]

end AgentAuth

/-! ### A concrete library -/

instance encodableText : Encodable String :=
  Encodable.ofLeftInverse
    (fun text => text.toList.map Char.toNat)
    (fun codes => String.ofList (codes.map Char.ofNat))
    (fun text => by simp [Function.comp_def])

def ClaimFields.tuple (fields : ClaimFields) :=
  (fields.iss, fields.sub, fields.agentId, fields.purpose, fields.iat,
    fields.exp, fields.jti, fields.ver)

instance : Encodable ClaimFields :=
  Encodable.ofLeftInverse ClaimFields.tuple
    (fun (iss, sub, agentId, purpose, iat, exp, jti, ver) =>
      { iss, sub, agentId, purpose, iat, exp, jti, ver })
    fun _ => rfl

/-- A text among the fields of an object. -/
def textField (fields : List (String × Json)) (name : String) :
    Option String :=
  match fields.lookup name with
  | some (.str text) => some text
  | _ => none

/-- A number among the fields of an object. -/
def numberField (fields : List (String × Json)) (name : String) :
    Option Int :=
  match fields.lookup name with
  | some (.num number) => some number
  | _ => none

/-- The fields of the claims model, of an object that has all of them. -/
def readClaimFields : Json → Option ClaimFields
  | .obj fields => do
      some
        { iss := (textField fields "iss").getD "vm_agent_server"
          sub := ← textField fields "sub"
          agentId := ← textField fields "agent_id"
          purpose :=
            (textField fields "purpose").getD TOKEN_PURPOSE_AGENT_WS
          iat := ← numberField fields "iat"
          exp := numberField fields "exp"
          jti := ← textField fields "jti"
          ver := (numberField fields "ver").getD 1 }
  | _ =>
    none

theorem readClaimFields_modelDump (claims : AgentJwtClaims) :
    readClaimFields (.obj (modelDump claims)) = some claims.toClaimFields := by
  obtain ⟨⟨iss, sub, agentId, purpose, iat, exp, jti, ver⟩, same⟩ := claims
  cases exp <;>
    simp [readClaimFields, modelDump, textField, numberField, List.lookup_cons]

/-- The claims of a token issued at a fixed time for `agent-1`. -/
def exampleClaims (tokenVersion : Int) (jti : String) : ClaimFields where
  iss := DEFAULT_AGENT_JWT_ISSUER
  sub := "agent-1"
  agentId := "agent-1"
  purpose := TOKEN_PURPOSE_AGENT_WS
  iat := 1700000000
  exp := none
  jti := jti
  ver := tokenVersion

def firstJti : String :=
  "11111111111111111111111111111111"

def secondJti : String :=
  "22222222222222222222222222222222"

def headerText : String :=
  "\x7b\"alg\":\"HS256\",\"typ\":\"JWT\"\x7d"

def firstText : String :=
  "\x7b\"agent_id\":\"agent-1\",\"iat\":1700000000,\"iss\":\"vm_agent_server\",\"jti\":\"11111111111111111111111111111111\",\"purpose\":\"agent_ws\",\"sub\":\"agent-1\",\"ver\":1\x7d"

def secondText : String :=
  "\x7b\"agent_id\":\"agent-1\",\"iat\":1700000000,\"iss\":\"vm_agent_server\",\"jti\":\"22222222222222222222222222222222\",\"purpose\":\"agent_ws\",\"sub\":\"agent-1\",\"ver\":2\x7d"

/-- The text of an object; of claims other than the two, just a code. -/
def exampleDumps (fields : List (String × Json)) : String :=
  match readClaimFields (.obj fields) with
  | none =>
    headerText
  | some claims =>
    if claims = exampleClaims 1 firstJti then
      firstText
    else if claims = exampleClaims 2 secondJti then
      secondText
    else
      String.ofList (List.replicate (Encodable.encode claims) '0')

def exampleLoads (text : String) : Option Json :=
  let dumped := fun fields =>
    (validateSubject fields).map fun claims => Json.obj (modelDump claims)
  if text = headerText then
    some (.obj jwtHeader)
  else if text = firstText then
    dumped (exampleClaims 1 firstJti)
  else if text = secondText then
    dumped (exampleClaims 2 secondJti)
  else
    (Encodable.decode text.length).bind dumped

def exampleSegment (text : String) : String :=
  stripPadding (String.ofList (Base64.encode text.toUTF8.data.toList))

/-- The HMAC-SHA-256 digests of the two tokens, under the default secret. -/
def exampleDigest (input : String) : List UInt8 :=
  if input =
      signingInput (exampleSegment headerText) (exampleSegment firstText) then
    [83, 31, 218, 236, 75, 32, 223, 128, 23, 27, 251, 252, 172, 200, 137,
      111, 60, 241, 78, 30, 29, 24, 169, 54, 219, 63, 53, 68, 13, 92, 113,
      214]
  else
    [71, 220, 32, 69, 188, 225, 226, 68, 103, 82, 167, 175, 108, 33, 80,
      210, 213, 35, 52, 221, 73, 142, 148, 32, 121, 147, 155, 158, 4, 1,
      215, 147]

def exampleBootstrapToken : String :=
  String.ofList (List.replicate 64 'b')

/-- The SHA-256 digest of the bootstrap token; of others, just a code. -/
def exampleSha256 (input : String) : String :=
  if input = exampleBootstrapToken then
    "a0fab1377f49a759b57f63318262ebe89fabfc990e8e93ceac2984561482b9d4"
  else
    "0"

/-- The libraries, as far as two tokens of one agent are concerned. -/
def exampleLibrary : TokenLibrary where
  jsonDumps := exampleDumps
  jsonLoads := exampleLoads
  urlsafeB64encode bytes := String.ofList (Base64.encode bytes.data.toList)
  urlsafeB64decode text :=
    (Base64.decode text.toList).map fun bytes => ⟨⟨bytes⟩⟩
  hmacSha256 _ input :=
    ⟨⟨exampleDigest ((String.fromUTF8? input).getD "")⟩⟩
  sha256Hex input :=
    exampleSha256 ((String.fromUTF8? input).getD "")
  claimFields := readClaimFields

example :
    dumpSegment exampleLibrary jwtHeader =
      "eyJhbGciOiJIUzI1NiIsInR5cCI6IkpXVCJ9" := by
  decide

theorem code_ne_text
    (code : Nat)
    {text : String}
    (opening : text.toList.head? = some '\x7b') :
    String.ofList (List.replicate code '0') ≠ text := by
  rintro rfl
  rw [String.toList_ofList] at opening
  cases code with
  | zero =>
    cases opening
  | succ code =>
    rw [List.replicate_succ, List.head?_cons] at opening
    revert opening
    decide

theorem exampleLoads_dumps (claims : AgentJwtClaims) :
    exampleLoads (exampleDumps (modelDump claims)) =
      some (.obj (modelDump claims)) := by
  have subject : validateSubject claims.toClaimFields = some claims := by
    rw [validateSubject, dif_pos claims.subjectIsAgent]
  have dumped :
      (validateSubject claims.toClaimFields).map
          (fun claims => Json.obj (modelDump claims)) =
        some (.obj (modelDump claims)) := by
    rw [subject]
    rfl
  have firstIsOther : firstText ≠ headerText := by
    decide +kernel
  have secondIsOther : secondText ≠ headerText ∧ secondText ≠ firstText := by
    decide +kernel
  unfold exampleDumps
  rw [readClaimFields_modelDump]
  dsimp only
  split
  · rename_i first
    rw [exampleLoads, if_neg firstIsOther, if_pos rfl, ← first]
    exact dumped
  · split
    · rename_i second
      rw [exampleLoads, if_neg secondIsOther.1,
        if_neg secondIsOther.2, if_pos rfl, ← second]
      exact dumped
    · have other :
          ∀ {text : String},
            text.toList.head? = some '\x7b' →
            String.ofList
              (List.replicate (Encodable.encode claims.toClaimFields) '0') ≠
                text :=
        code_ne_text _
      rw [exampleLoads, if_neg (other (by decide)),
        if_neg (other (by decide +kernel)),
        if_neg (other (by decide +kernel)), String.length_ofList,
        List.length_replicate, Encodable.encodek, Option.bind_some]
      exact dumped

theorem exampleLibrary_lawful : exampleLibrary.Lawful where
  loads_header := by
    have header : exampleLibrary.jsonDumps jwtHeader = headerText := by
      decide
    rw [header]
    rfl
  loads_claims := exampleLoads_dumps
  fields_claims := readClaimFields_modelDump
  decode_encode := by
    intro bytes
    have encoded :
        (exampleLibrary.urlsafeB64encode bytes).toList =
          Base64.encode bytes.data.toList :=
      String.toList_ofList
    show (Base64.decode
      (exampleLibrary.urlsafeB64encode bytes).toList).map _ = _
    rw [encoded, Base64.decode_encode]
    rfl
  encode_shape := by
    intro bytes
    have encoded :
        (exampleLibrary.urlsafeB64encode bytes).toList =
          Base64.encode bytes.data.toList :=
      String.toList_ofList
    rw [encoded]
    exact Base64.encode_shape bytes.data.toList
  sha256_nonempty := by
    intro bytes
    have nonempty : ∀ input, exampleSha256 input ≠ "" := by
      intro input
      unfold exampleSha256
      split <;> decide
    exact nonempty _

def exampleAuth : AgentAuth where
  library := exampleLibrary

def firstToken : String :=
  exampleAuth.issueAgentAccessToken "agent-1" 1 1700000000 firstJti

end RpaPlatform.Agents
