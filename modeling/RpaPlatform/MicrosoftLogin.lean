import RpaPlatform.AgentLifecycle
import RpaPlatform.ServerSettings
import RpaPlatform.UserSessions

namespace RpaPlatform.Agents

open Settings (IdentitySettings IdentityAccessSettings cleanedItems)
open Tasks (Json)

/-!
# Logging in with Microsoft

A login is begun with a random state and nonce, and finished by a callback that
presents the state.  The state is taken off, the code is exchanged for an ID
token, and a session is created if its claims pass the checks.  What a claim
is read as when it is missing, or is of another type, decides some of them.
-/

/-- The library functions that read claims. -/
structure ClaimsLibrary extends TextLibrary where
  /-- `int` of a floating point number. -/
  floatInt : String → Option Int

/-! ### Who may log in -/

structure IdentityAccessDecision where
  allowLogin : Bool
  agentVisibility : AgentVisibility

def isSubjectOrGroupAllowed
    (access : IdentityAccessSettings)
    (subject : String)
    (groupIds matchedMappingIds : List String) : Bool :=
  subject ∈ cleanedItems access.allowedUserSubjects ||
    (cleanedItems access.allowedGroupIds).any (· ∈ groupIds) ||
    access.allowMappedGroups && !matchedMappingIds.isEmpty

def evaluateIdentityAccess
    (identity : IdentitySettings)
    (subject : String)
    (groupIds matchedMappingIds : List String) : IdentityAccessDecision :=
  let isAllowed :=
    isSubjectOrGroupAllowed identity.access subject groupIds matchedMappingIds
  let visibility := if isAllowed then AgentVisibility.all else .none
  match identity.access.mode with
  | .allowAll => { allowLogin := true, agentVisibility := .all }
  | .denyUnlisted =>
    { allowLogin := isAllowed, agentVisibility := visibility }
  | .allowLimited => { allowLogin := true, agentVisibility := visibility }

/-! ### Claims -/

section Claims

variable
    (library : ClaimsLibrary)
    (claims : JsonObject)

/-- `clean_str(str(claims.get(key) or ""))`. -/
def claimText (key : String) : String :=
  strip (textOr library.toTextLibrary (getField claims key))

/-- The first of some claims that counts as true, or the last one. -/
def firstClaim : List String → Json
  | [] => .null
  | [key] => getField claims key
  | key :: rest =>
    if truthy (getField claims key) then getField claims key
    else firstClaim rest

/-- `int`, which raises for most values that are not numbers. -/
def intOf : Json → Option Int
  | .bool flag => some (if flag then 1 else 0)
  | .num value => some value
  | .float repr => library.floatInt repr
  | .str text => library.int text
  | _ => none

/-- `int(claims.get("exp") or 0)`. -/
def expiryOrZero : Option Int :=
  if truthy (getField claims "exp") then
    intOf library (getField claims "exp")
  else
    some 0

def passesExpiry (now : Int) : Bool :=
  (expiryOrZero library claims).any fun exp => exp = 0 || now ≤ exp

/-- A text or a list has to name the client; nothing else has to. -/
def passesAudience (clientId : String) : Bool :=
  let isClient : Json → Bool
    | .str text => text = clientId
    | _ => false
  match getField claims "aud" with
  | .str text => text = clientId
  | .arr items => items.any isClient
  | _ => true

def passesIssuer (tenantId : String) : Bool :=
  tenantId = "" || tenantId.toList <:+: (claimText library claims "iss").toList

/-- `clean_str(str(… or default))`, of the first claim that counts as true. -/
def firstTextOr (keys : List String) (default : String) : String :=
  if truthy (firstClaim claims keys) then
    strip (textOr library.toTextLibrary (firstClaim claims keys))
  else
    strip default

/-- The subject, `sub` or else `oid`. -/
def claimedSubject : String :=
  firstTextOr library claims ["sub", "oid"] ""

/-- The texts of a list that are not blank; there are none otherwise. -/
def claimedItems (key : String) : List String :=
  match getField claims key with
  | .arr items =>
    (items.map fun item =>
        match item with
        | .str text => strip text
        | other => strip (library.str other)).filter (· ≠ "")
  | _ => []

/-- The mappings whose group is among those of the user. -/
def matchedMappings (identity : IdentitySettings) :
    List Settings.IdentityGroupRoleMapping :=
  identity.azure.groupRoleMappings.filter fun mapping =>
    strip mapping.groupObjectId ≠ "" &&
      strip mapping.groupObjectId ∈ claimedItems library claims "groups"

/-- The access decision for the user of some claims. -/
def claimedAccess (identity : IdentitySettings) : IdentityAccessDecision :=
  evaluateIdentityAccess identity
    ("microsoft:" ++ claimedSubject library claims)
    (claimedItems library claims "groups")
    ((matchedMappings library claims identity).map fun mapping =>
      strip mapping.groupObjectId)

/-- `_build_user_from_claims`, unless it raises. -/
def buildUserFromClaims
    (identity : IdentitySettings)
    (now : Int) : Option UserIdentity := do
  guard (passesExpiry library claims now)
  guard (passesAudience claims identity.azure.clientId)
  guard (passesIssuer library claims identity.azure.tenantId)
  guard (claimedSubject library claims ≠ "")
  let decision := claimedAccess library claims identity
  guard decision.allowLogin
  let subject := claimedSubject library claims
  let username :=
    firstTextOr library claims ["preferred_username", "email", "upn"] subject
  let mappedRoles :=
    claimedItems library claims "roles" ++
      (matchedMappings library claims identity).flatMap fun mapping =>
        mapping.appRoles.filter (· ≠ "")
  return {
    roles := [(getHighestRole library.toTextLibrary mappedRoles).text]
    subject := "microsoft:" ++ subject
    groupIds := claimedItems library claims "groups"
    username
    displayName := firstTextOr library claims ["name"] username
    email :=
      firstTextOr library claims ["email", "preferred_username"] ""
    agentVisibility := decision.agentVisibility
  }

end Claims

/-! ### Logins -/

structure PendingOidcLogin where
  nonce : String
  returnTo : String
  expiresAt : Int

/-- `UserService`: the logins that have been begun, and the sessions. -/
structure LoginService where
  /-- `_pending_oidc`, by the states. -/
  pendingOidc : List (String × PendingOidcLogin) := []
  sessions : UserSessions := .empty

/-- What a callback presents, and what comes of it outside. -/
structure LoginCallback where
  state : String
  /-- The claims of the ID token, unless the exchange of the code raises. -/
  claims : Option JsonObject
  /-- The access token of the session, a random one. -/
  accessToken : String
  /-- The clock when expired logins are purged. -/
  arrivedAt : Int
  /-- The clock when the code has been exchanged. -/
  exchangedAt : Int

def pendingLoginSeconds : Int :=
  600

namespace LoginService

variable (service : LoginService)

/-- `begin_microsoft_login`, once the endpoints are known. -/
def beginMicrosoftLogin
    (state nonce returnTo : String)
    (now : Int) : LoginService :=
  { service with
    pendingOidc :=
      Dictionary.set state
        { nonce, returnTo, expiresAt := now + pendingLoginSeconds }
        service.pendingOidc }

def purgeExpiredPendingOidc (now : Int) : LoginService :=
  { service with
    pendingOidc :=
      service.pendingOidc.filter fun entry => now < entry.2.expiresAt }

def pendingFor (callback : LoginCallback) : Option PendingOidcLogin :=
  (service.purgeExpiredPendingOidc callback.arrivedAt).pendingOidc.lookup
    callback.state

/-- What is pending after a callback has taken its login off. -/
def popped (callback : LoginCallback) : LoginService :=
  let purged := service.purgeExpiredPendingOidc callback.arrivedAt
  { purged with
    pendingOidc := Dictionary.erase callback.state purged.pendingOidc }

/--
`finish_microsoft_login`: the user of the session and where to return to,
unless it raises.
-/
def finishMicrosoftLogin
    (library : ClaimsLibrary)
    (identity : IdentitySettings)
    (callback : LoginCallback) :
    LoginService × Option (UserIdentity × String) :=
  let popped := service.popped callback
  let user := do
    let pending ← service.pendingFor callback
    let claims ← callback.claims
    guard (claimText library claims "nonce" = pending.nonce)
    let user ← buildUserFromClaims library claims identity callback.exchangedAt
    return (user, pending.returnTo)
  match user with
  | none => (popped, none)
  | some (user, returnTo) =>
    ({ popped with
        sessions :=
          popped.sessions.createSession callback.accessToken user
            identity.sessionTtlSeconds callback.exchangedAt },
      some (user, returnTo))

end LoginService

/-! ### What a login is to be justified by -/

/-- The time that the expiry claim states, if it is one that counts as true. -/
def statedExpiry
    (library : ClaimsLibrary)
    (claims : JsonObject) : Option Int :=
  if truthy (getField claims "exp") then
    intOf library (getField claims "exp")
  else
    none

/-- What the claims have to say for a session. -/
structure LoginJustified
    (library : ClaimsLibrary)
    (identity : IdentitySettings)
    (pending : PendingOidcLogin)
    (claims : JsonObject)
    (now : Int) : Prop where
  nonce : getField claims "nonce" = .str pending.nonce
  expiry : ∃ exp, statedExpiry library claims = some exp ∧ now ≤ exp
  audience :
    getField claims "aud" = .str identity.azure.clientId ∨
      ∃ items,
        getField claims "aud" = .arr items ∧
          .str identity.azure.clientId ∈ items
  issuer :
    ∃ text,
      getField claims "iss" = .str text ∧
        identity.azure.tenantId.toList <:+: text.toList
  access : (claimedAccess library claims identity).allowLogin = true

/-- The checks of `finish_microsoft_login`. -/
structure PassesChecks
    (library : ClaimsLibrary)
    (identity : IdentitySettings)
    (pending : PendingOidcLogin)
    (claims : JsonObject)
    (now : Int) : Prop where
  nonce : claimText library claims "nonce" = pending.nonce
  expiry : passesExpiry library claims now = true
  audience : passesAudience claims identity.azure.clientId = true
  issuer : passesIssuer library claims identity.azure.tenantId = true
  subject : claimedSubject library claims ≠ ""
  access : (claimedAccess library claims identity).allowLogin = true

/--
Claims of the types that the checks are written for: the nonce is a text
without white space around it, the expiry is there and not zero (unless the
clock is), the audience is a text or a list and the issuer is a text.
-/
structure WellTypedClaims
    (library : ClaimsLibrary)
    (claims : JsonObject)
    (now : Int) : Prop where
  nonce : ∃ text, getField claims "nonce" = .str text ∧ strip text = text
  expiry : ∃ exp, statedExpiry library claims = some exp ∧ (exp = 0 → now ≤ 0)
  audience :
    (∃ text, getField claims "aud" = .str text) ∨
      ∃ items, getField claims "aud" = .arr items
  issuer : ∃ text, getField claims "iss" = .str text

section Checks

variable
    {library : ClaimsLibrary}
    {identity : IdentitySettings}
    {pending : PendingOidcLogin}
    {claims : JsonObject}
    {now : Int}

theorem claimText_str
    {key text : String}
    (isText : getField claims key = .str text) :
    claimText library claims key = strip text := by
  unfold claimText textOr
  rw [isText]
  by_cases empty : text = ""
  · subst empty
    rfl
  · simp [truthy, empty]

theorem strip_isPart (text : String) :
    (strip text).toList <:+: text.toList := by
  unfold strip
  rw [String.toList_ofList]
  exact
    (List.rdropWhile_prefix _ _).isInfix.trans (List.dropWhile_suffix _).isInfix

theorem nonce_iff
    (passes : claimText library claims "nonce" = pending.nonce) :
    getField claims "nonce" = .str pending.nonce ↔
      ∃ text, getField claims "nonce" = .str text ∧ strip text = text := by
  constructor
  · intro isText
    exact ⟨_, isText, (claimText_str isText).symm.trans passes⟩
  · rintro ⟨text, isText, stripped⟩
    rw [isText, ← passes, claimText_str isText, stripped]

theorem expiry_iff
    (passes : passesExpiry library claims now = true) :
    (∃ exp, statedExpiry library claims = some exp ∧ now ≤ exp) ↔
      ∃ exp, statedExpiry library claims = some exp ∧ (exp = 0 → now ≤ 0) := by
  refine exists_congr fun exp => and_congr_right fun stated => ?_
  unfold statedExpiry at stated
  split at stated
  · rename_i counts
    unfold passesExpiry expiryOrZero at passes
    rw [if_pos counts, stated, Option.any_some, Bool.or_eq_true,
      decide_eq_true_eq, decide_eq_true_eq] at passes
    omega
  · cases stated

theorem audience_iff
    {clientId : String}
    (passes : passesAudience claims clientId = true) :
    (getField claims "aud" = .str clientId ∨
        ∃ items, getField claims "aud" = .arr items ∧ .str clientId ∈ items) ↔
      (∃ text, getField claims "aud" = .str text) ∨
        ∃ items, getField claims "aud" = .arr items := by
  constructor
  · rintro (isText | ⟨items, isList, _⟩)
    · exact .inl ⟨_, isText⟩
    · exact .inr ⟨items, isList⟩
  · unfold passesAudience at passes
    rintro (⟨text, isText⟩ | ⟨items, isList⟩)
    · rw [isText] at passes
      rw [isText, of_decide_eq_true passes]
      exact .inl rfl
    · rw [isList] at passes
      obtain ⟨item, member, isClient⟩ := List.any_eq_true.mp passes
      refine .inr ⟨items, isList, ?_⟩
      split at isClient
      · rwa [of_decide_eq_true isClient] at member
      · cases isClient

theorem issuer_iff
    {tenantId : String}
    (named : tenantId ≠ "")
    (passes : passesIssuer library claims tenantId = true) :
    (∃ text,
        getField claims "iss" = .str text ∧ tenantId.toList <:+: text.toList) ↔
      ∃ text, getField claims "iss" = .str text := by
  refine exists_congr fun text => and_iff_left_of_imp fun isText => ?_
  unfold passesIssuer at passes
  rw [claimText_str isText, Bool.or_eq_true, decide_eq_true_eq,
    decide_eq_true_eq] at passes
  exact (passes.resolve_left named).trans (strip_isPart text)

theorem justified_iff_wellTyped
    (tenantNamed : identity.azure.tenantId ≠ "")
    (passes : PassesChecks library identity pending claims now) :
    LoginJustified library identity pending claims now ↔
      WellTypedClaims library claims now := by
  constructor
  · intro justified
    exact
      { nonce := (nonce_iff passes.nonce).mp justified.nonce
        expiry := (expiry_iff passes.expiry).mp justified.expiry
        audience := (audience_iff passes.audience).mp justified.audience
        issuer :=
          (issuer_iff tenantNamed passes.issuer).mp justified.issuer }
  · intro wellTyped
    exact
      { nonce := (nonce_iff passes.nonce).mpr wellTyped.nonce
        expiry := (expiry_iff passes.expiry).mpr wellTyped.expiry
        audience := (audience_iff passes.audience).mpr wellTyped.audience
        issuer :=
          (issuer_iff tenantNamed passes.issuer).mpr wellTyped.issuer
        access := passes.access }

theorem isSome_guard_bind
    {Result : Type}
    {check : Prop}
    [Decidable check]
    {rest : Unit → Option Result} :
    (guard check >>= rest).isSome = true ↔ check ∧ (rest ()).isSome = true := by
  by_cases passes : check
  · simp [guard, passes]
  · simp [guard, passes]

theorem isSome_buildUserFromClaims :
    (buildUserFromClaims library claims identity now).isSome = true ↔
      passesExpiry library claims now = true ∧
        passesAudience claims identity.azure.clientId = true ∧
          passesIssuer library claims identity.azure.tenantId = true ∧
            claimedSubject library claims ≠ "" ∧
              (claimedAccess library claims identity).allowLogin = true := by
  unfold buildUserFromClaims
  simp only [isSome_guard_bind]
  exact
    and_congr_right' <| and_congr_right' <| and_congr_right' <|
      and_congr_right' <| and_iff_left rfl

theorem isSome_finishMicrosoftLogin
    {service : LoginService}
    {callback : LoginCallback}
    (found : service.pendingFor callback = some pending)
    (exchanged : callback.claims = some claims) :
    (service.finishMicrosoftLogin library identity callback).2.isSome =
        true ↔
      PassesChecks library identity pending claims callback.exchangedAt := by
  have created :
      (service.finishMicrosoftLogin library identity callback).2.isSome =
          true ↔
        claimText library claims "nonce" = pending.nonce ∧
          (buildUserFromClaims library claims identity
            callback.exchangedAt).isSome = true := by
    unfold LoginService.finishMicrosoftLogin
    rw [found, exchanged]
    by_cases nonce : claimText library claims "nonce" = pending.nonce
    · cases built :
        buildUserFromClaims library claims identity callback.exchangedAt with
      | none => simp [guard, nonce, built]
      | some user => simp [guard, nonce, built]
    · simp [guard, nonce]
  rw [created, isSome_buildUserFromClaims]
  constructor
  · rintro ⟨nonce, expiry, audience, issuer, subject, access⟩
    exact ⟨nonce, expiry, audience, issuer, subject, access⟩
  · rintro ⟨nonce, expiry, audience, issuer, subject, access⟩
    exact ⟨nonce, expiry, audience, issuer, subject, access⟩

end Checks

/-! ### Sequences of callbacks -/

/-- What happens to the logins. -/
inductive LoginAction where
  | beginLogin (state nonce returnTo : String) (now : Int)
  | callback (identity : IdentitySettings) (callback : LoginCallback)

/-- What becomes of a state. -/
inductive LoginEvent where
  | issued (state : String) (expiresAt : Int)
  /-- A callback has taken the login of the state off. -/
  | consumed (state : String) (arrivedAt expiresAt : Int)
  deriving DecidableEq

namespace LoginEvent

def issues (state : String) : LoginEvent → Bool
  | issued name _ => name = state
  | consumed .. => false

def consumes (state : String) : LoginEvent → Bool
  | issued .. => false
  | consumed name _ _ => name = state

end LoginEvent

namespace LoginService

variable
    (library : ClaimsLibrary)
    (service : LoginService)

/-- The service after an action. -/
def next : LoginAction → LoginService
  | .beginLogin state nonce returnTo now =>
    service.beginMicrosoftLogin state nonce returnTo now
  | .callback identity callback =>
    (service.finishMicrosoftLogin library identity callback).1

/-- What an action does to states. -/
def events : LoginAction → List LoginEvent
  | .beginLogin state _ _ now =>
    [.issued state (now + pendingLoginSeconds)]
  | .callback _ callback =>
    (service.pendingFor callback).toList.map fun pending =>
      .consumed callback.state callback.arrivedAt pending.expiresAt

/-- What a sequence of actions does to states, in order. -/
def trace (service : LoginService) : List LoginAction → List LoginEvent
  | [] => []
  | action :: rest =>
    service.events action ++ (service.next library action).trace rest

def isPending (state : String) : Bool :=
  (service.pendingOidc.lookup state).isSome

variable
    {library}
    {service}

@[simp]
theorem pendingOidc_callback
    (identity : IdentitySettings)
    (callback : LoginCallback) :
    (service.next library (.callback identity callback)).pendingOidc =
      (service.popped callback).pendingOidc := by
  unfold next finishMicrosoftLogin
  dsimp only
  split <;> rfl

theorem mem_of_pendingFor
    {callback : LoginCallback}
    {pending : PendingOidcLogin}
    (found : service.pendingFor callback = some pending) :
    (callback.state, pending) ∈ service.pendingOidc ∧
      callback.arrivedAt < pending.expiresAt := by
  have member := Dictionary.mem_of_lookup found
  obtain ⟨begun, unexpired⟩ := List.mem_filter.mp member
  exact ⟨begun, of_decide_eq_true unexpired⟩

variable {state : String}

theorem isPending_of_mem
    {login : PendingOidcLogin}
    (member : (state, login) ∈ service.pendingOidc) :
    service.isPending state = true := by
  cases found : service.pendingOidc.lookup state with
  | some login =>
    exact Option.isSome_iff_exists.mpr ⟨login, found⟩
  | none =>
    have absent := Dictionary.lookup_eq_none_iff.mp found
    exact absurd (List.mem_map.mpr ⟨_, member, rfl⟩) absent

theorem isPending_popped
    {callback : LoginCallback}
    (pending : (service.popped callback).isPending state = true) :
    state ≠ callback.state ∧ service.isPending state = true := by
  obtain ⟨login, found⟩ := Option.isSome_iff_exists.mp pending
  have member := Dictionary.mem_of_lookup found
  obtain ⟨kept, other⟩ := List.mem_filter.mp member
  exact ⟨by simpa using other, isPending_of_mem (List.mem_filter.mp kept).1⟩

theorem isPending_popped_self
    (service : LoginService)
    (callback : LoginCallback) :
    (service.popped callback).isPending callback.state = false := by
  cases pending : (service.popped callback).isPending callback.state with
  | false => rfl
  | true => exact absurd rfl (isPending_popped pending).1

/-- A state gets pending by being issued, and stops by being consumed. -/
theorem countP_events_le
    (library : ClaimsLibrary)
    (service : LoginService)
    (action : LoginAction)
    (state : String) :
    (service.events action).countP (LoginEvent.consumes state) +
        ((service.next library action).isPending state).toNat ≤
      (service.events action).countP (LoginEvent.issues state) +
        (service.isPending state).toNat := by
  cases action with
  | beginLogin name nonce returnTo now =>
    by_cases same : name = state
    · have atMost :=
        Bool.toNat_le
          ((service.next library
            (.beginLogin name nonce returnTo now)).isPending state)
      simp only [events, List.countP_singleton, LoginEvent.consumes,
        LoginEvent.issues, same, decide_true, if_true, Bool.false_eq_true,
        if_false]
      rw [same] at atMost
      omega
    · have kept :
          (service.next library
              (.beginLogin name nonce returnTo now)).isPending state =
            service.isPending state := by
        unfold isPending
        exact
          congrArg Option.isSome
            (Dictionary.lookup_set_other (Ne.symm same) _ _)
      rw [kept]
      simp [events, LoginEvent.consumes, LoginEvent.issues]
  | callback identity callback =>
    have after :
        (service.next library (.callback identity callback)).isPending
            state =
          (service.popped callback).isPending state :=
      congrArg
        (fun pending : List (String × PendingOidcLogin) =>
          (pending.lookup state).isSome)
        (pendingOidc_callback identity callback)
    have stays :
        ((service.popped callback).isPending state).toNat ≤
          (service.isPending state).toNat := by
      cases pending : (service.popped callback).isPending state with
      | false => exact Nat.zero_le _
      | true => rw [(isPending_popped pending).2]
    rw [after]
    cases found : service.pendingFor callback with
    | none =>
      simpa [events, found] using stays
    | some login =>
      by_cases same : callback.state = state
      · obtain ⟨begun, _⟩ := mem_of_pendingFor found
        have before := isPending_of_mem begun
        have gone := isPending_popped_self service callback
        rw [same] at before gone
        simp [events, found, LoginEvent.consumes, LoginEvent.issues,
          same, before, gone]
      · simpa [events, found, LoginEvent.consumes, LoginEvent.issues,
          same] using stays

theorem countP_consumes_le
    (actions : List LoginAction)
    (service : LoginService)
    (state : String) :
    (service.trace library actions).countP (LoginEvent.consumes state) ≤
      (service.trace library actions).countP (LoginEvent.issues state) +
        (service.isPending state).toNat := by
  induction actions generalizing service with
  | nil =>
    exact Nat.zero_le _
  | cons action rest inductionHypothesis =>
    have later := inductionHypothesis (service.next library action)
    have now := countP_events_le library service action state
    rw [trace, List.countP_append, List.countP_append]
    omega

theorem issued_of_consumed
    {arrivedAt expiresAt : Int}
    (actions : List LoginAction)
    (service : LoginService)
    (consumed :
      .consumed state arrivedAt expiresAt ∈ service.trace library actions) :
    arrivedAt < expiresAt ∧
      (.issued state expiresAt ∈ service.trace library actions ∨
        ∃ login,
          (state, login) ∈ service.pendingOidc ∧
            login.expiresAt = expiresAt) := by
  induction actions generalizing service with
  | nil =>
    cases consumed
  | cons action rest inductionHypothesis =>
    rw [trace, List.mem_append] at consumed
    rw [trace, List.mem_append]
    cases action with
    | beginLogin name nonce returnTo now =>
      rcases consumed with now | later
      · cases List.mem_singleton.mp now
      · obtain ⟨unexpired, issued | ⟨login, kept, rfl⟩⟩ :=
          inductionHypothesis _ later
        · exact ⟨unexpired, .inl (.inr issued)⟩
        · rcases Dictionary.mem_set kept with begun | earlier
          · obtain ⟨rfl, rfl⟩ := Prod.mk.inj begun
            exact ⟨unexpired, .inl (.inl (List.mem_singleton_self _))⟩
          · exact ⟨unexpired, .inr ⟨login, earlier, rfl⟩⟩
    | callback identity callback =>
      rcases consumed with now | later
      · obtain ⟨login, found, same⟩ := List.mem_map.mp now
        cases same
        obtain ⟨kept, unexpired⟩ :=
          mem_of_pendingFor (Option.mem_toList.mp found)
        exact ⟨unexpired, .inr ⟨login, kept, rfl⟩⟩
      · obtain ⟨unexpired, issued | ⟨login, kept, rfl⟩⟩ :=
          inductionHypothesis _ later
        · exact ⟨unexpired, .inl (.inr issued)⟩
        · rw [pendingOidc_callback] at kept
          have earlier :=
            List.mem_of_mem_filter (List.mem_of_mem_filter kept)
          exact ⟨unexpired, .inr ⟨login, earlier, rfl⟩⟩

end LoginService

/--
A callback that finds its login and gets claims creates a session only if the
claims justify it, exactly if they are well typed or fail a check.  Over every
sequence of logins and callbacks a state is consumed at most as often as it has
been issued, and only before the expiry that it was issued with.
-/
theorem microsoftLogin_acceptance
    {library : ClaimsLibrary}
    {identity : IdentitySettings}
    {service : LoginService}
    {callback : LoginCallback}
    {pending : PendingOidcLogin}
    {claims : JsonObject}
    (tenantNamed : identity.azure.tenantId ≠ "")
    (found : service.pendingFor callback = some pending)
    (exchanged : callback.claims = some claims)
    (actions : List LoginAction) :
    (((service.finishMicrosoftLogin library identity callback).2.isSome =
            true →
          LoginJustified library identity pending claims callback.exchangedAt) ↔
        (PassesChecks library identity pending claims
            callback.exchangedAt →
          WellTypedClaims library claims callback.exchangedAt)) ∧
      (∀ state,
        (LoginService.trace library {} actions).countP
            (LoginEvent.consumes state) ≤
          (LoginService.trace library {} actions).countP
            (LoginEvent.issues state)) ∧
        ∀ state arrivedAt expiresAt,
          .consumed state arrivedAt expiresAt ∈
              LoginService.trace library {} actions →
            arrivedAt < expiresAt ∧
              .issued state expiresAt ∈
                LoginService.trace library {} actions := by
  refine ⟨?_, fun state => ?_, fun state arrivedAt expiresAt consumed => ?_⟩
  · rw [isSome_finishMicrosoftLogin found exchanged]
    refine forall_congr' fun passes => ?_
    exact justified_iff_wellTyped tenantNamed passes
  · exact LoginService.countP_consumes_le actions {} state
  · obtain ⟨unexpired, issued | ⟨_, kept, _⟩⟩ :=
      LoginService.issued_of_consumed actions {} consumed
    · exact ⟨unexpired, issued⟩
    · cases kept

/-! ### Claims without an expiry -/

def asciiClaimsLibrary : ClaimsLibrary where
  toTextLibrary := asciiTextLibrary
  floatInt _ := none

def tenantIdentity : IdentitySettings where
  azure := { tenantId := "tenant", clientId := "client" }

def begunLogin : LoginService :=
  LoginService.beginMicrosoftLogin {} "state" "nonce" "/" 1000

/-- What the identity provider says of a user, but for the expiry. -/
def userClaims : JsonObject :=
  [("nonce", .str "nonce"), ("aud", .str "client"),
    ("iss", .str "https://login.microsoftonline.com/tenant/v2.0"),
    ("sub", .str "user")]

/-- The callback of the login, with some claims. -/
def callbackWith (claims : JsonObject) : LoginCallback where
  state := "state"
  claims := some claims
  accessToken := "token"
  arrivedAt := 1100
  exchangedAt := 1101

/-- An expiry that is not past. -/
theorem expiringClaims_justified :
    ∃ pending,
      begunLogin.pendingFor
          (callbackWith (("exp", .num 4700) :: userClaims)) =
        some pending ∧
      (begunLogin.finishMicrosoftLogin asciiClaimsLibrary tenantIdentity
          (callbackWith (("exp", .num 4700) :: userClaims))).2.isSome =
        true ∧
      LoginJustified asciiClaimsLibrary tenantIdentity pending
        (("exp", .num 4700) :: userClaims) 1101 := by
  obtain ⟨pending, found⟩ :
      ∃ pending,
        begunLogin.pendingFor
            (callbackWith (("exp", .num 4700) :: userClaims)) =
          some pending :=
    ⟨_, rfl⟩
  have created :
      (begunLogin.finishMicrosoftLogin asciiClaimsLibrary tenantIdentity
          (callbackWith (("exp", .num 4700) :: userClaims))).2.isSome =
        true := by
    decide
  have accepted :=
    @microsoftLogin_acceptance asciiClaimsLibrary tenantIdentity _ _ _ _
      (by decide) found rfl []
  refine ⟨pending, found, created, accepted.1.mpr (fun _ => ?_) created⟩
  exact
    { nonce := ⟨"nonce", rfl, by decide⟩
      expiry := ⟨4700, rfl, by decide⟩
      audience := .inl ⟨"client", rfl⟩
      issuer := ⟨_, rfl⟩ }

/-- A session is created only if the claims justify it. -/
def CreatesJustified : Prop :=
  ∀ {library : ClaimsLibrary} {identity : IdentitySettings}
    {service : LoginService} {callback : LoginCallback}
    {pending : PendingOidcLogin} {claims : JsonObject},
    identity.azure.tenantId ≠ "" →
    identity.azure.clientId ≠ "" →
    service.pendingFor callback = some pending →
    callback.claims = some claims →
    (service.finishMicrosoftLogin library identity callback).2.isSome = true →
    LoginJustified library identity pending claims callback.exchangedAt

/-- Claims without an expiry are accepted. -/
theorem not_createsJustified : ¬ CreatesJustified := by
  intro justified
  obtain ⟨pending, found⟩ :
      ∃ pending, begunLogin.pendingFor (callbackWith userClaims) =
        some pending :=
    ⟨_, rfl⟩
  have created :
      (begunLogin.finishMicrosoftLogin asciiClaimsLibrary tenantIdentity
          (callbackWith userClaims)).2.isSome =
        true := by
    decide
  obtain ⟨_, stated, _⟩ :=
    (justified (by decide) (by decide) found rfl created).expiry
  have absent : statedExpiry asciiClaimsLibrary userClaims = none := rfl
  rw [absent] at stated
  cases stated

end RpaPlatform.Agents
