import RpaPlatform.AgentJwtIssue
import RpaPlatform.KeyedTable
import RpaPlatform.Transition

namespace RpaPlatform.Agents

open Transition

/-!
# Agent credentials

The part of the agent registry that decides whether an agent may connect: the
rows of agents and of their credentials, and the statements that change them.
`authorize_agent` reads the credentials, decides, and then issues at most one
update; `authorizeDecision` is the decision, on a row that may be out of date
when the update is issued.
-/

/-- A registered agent. -/
structure AgentRow where
  id : String
  hostname : String

/-- The credentials of an agent. -/
structure CredentialsRow where
  agentId : String
  bootstrapTokenHash : Option String := none
  bootstrapExpiresAt : Option Int := none
  bootstrapUsedAt : Option Int := none
  secretHash : Option String := none
  secretRotatedAt : Option Int := none
  tokenVersion : Int := 0
  updatedAt : Int

/-- The registry's tables of agents and credentials. -/
structure RegistryDB where
  agents : KeyedTable AgentRow AgentRow.id
  credentials : KeyedTable CredentialsRow CredentialsRow.agentId

/-- How an agent was authorized. -/
inductive AuthMode where
  | legacy
  | jwt
  | secret
  | bootstrap
  | bootstrapRecovery
deriving DecidableEq

/-- What `authorize_agent` returns. -/
inductive AuthResult where
  | authorized (mode : AuthMode) (issuedSecret : Option String)
  | rejected (reason : String)
  /-- It raised an exception. -/
  | raised
deriving DecidableEq

def AuthResult.isAuthorized : AuthResult → Bool
  | authorized _ _ => true
  | _ => false

/-- The update that `authorize_agent` issues. -/
inductive CredentialsUpdate where
  /-- The bootstrap token has served its purpose. -/
  | markUsed
  /-- A token has been issued under a new version. -/
  | raiseVersion (tokenVersion : Int)

def filledText (column : Option String) : Bool :=
  column.any (· ≠ "")

def filledInt (column : Option Int) : Bool :=
  column.any (· ≠ 0)

def matchesHash (column : Option String) (hash : String) : Bool :=
  filledText column && column = some hash

namespace CredentialsRow

def bootstrapOpen (row : CredentialsRow) (now : Int) : Bool :=
  !filledInt row.bootstrapUsedAt && row.bootstrapExpiresAt.all (now ≤ ·)

/-- The bootstrap token has been used, and a token was issued lately. -/
def recoveryOpen
    (row : CredentialsRow)
    (window now : Int) : Bool :=
  filledInt row.bootstrapUsedAt &&
    decide (0 < row.tokenVersion) &&
    filledInt row.secretRotatedAt &&
    row.secretRotatedAt.all (now - · ≤ window)

/-- The bootstrap token has expired without having been used. -/
def bootstrapExpired (row : CredentialsRow) (now : Int) : Bool :=
  filledText row.bootstrapTokenHash &&
    filledInt row.bootstrapExpiresAt &&
    row.bootstrapExpiresAt.any (· < now) &&
    !filledInt row.bootstrapUsedAt

/-- The row after an update of `authorize_agent`. -/
def updated
    (row : CredentialsRow)
    (now : Int) : CredentialsUpdate → CredentialsRow
  | .markUsed =>
    { row with bootstrapUsedAt := some now, updatedAt := now }
  | .raiseVersion tokenVersion =>
    { row with
      secretHash := none
      secretRotatedAt := some now
      tokenVersion
      updatedAt := now }

theorem agentId_updated
    (now : Int)
    (update : CredentialsUpdate)
    (row : CredentialsRow) :
    (row.updated now update).agentId = row.agentId := by
  cases update <;> rfl

end CredentialsRow

/-- The update after an authorization that leaves the version as it is. -/
def markUsedOnce (row : CredentialsRow) : Option CredentialsUpdate :=
  if filledInt row.bootstrapUsedAt then none else some .markUsed

/-- `authorize_agent` for a token that looks like a JWT. -/
def authorizeJwt
    (auth : AgentAuth)
    (agentId : String)
    (row : CredentialsRow)
    (token : String)
    (now : Int) : AuthResult × Option CredentialsUpdate :=
  if row.tokenVersion ≤ 0 then
    (.rejected "invalid bearer token", none)
  else
    match auth.verifyAgentAccessToken token agentId row.tokenVersion now with
    | .verified _ => (.authorized .jwt none, markUsedOnce row)
    | .refused _ => (.rejected "invalid bearer token", none)
    | .raised => (.raised, none)

/-- `authorize_agent` for another token. -/
def authorizeOpaque
    (auth : AgentAuth)
    (agentId : String)
    (row : CredentialsRow)
    (token : String)
    (now : Int)
    (jti : String) : AuthResult × Option CredentialsUpdate :=
  let tokenHash := auth.hashToken token
  let issue := fun (mode : AuthMode) (tokenVersion : Int) =>
    (AuthResult.authorized mode
        (some (auth.issueAgentAccessToken agentId tokenVersion now jti)),
      some (CredentialsUpdate.raiseVersion tokenVersion))
  let isBootstrap := matchesHash row.bootstrapTokenHash tokenHash
  if matchesHash row.secretHash tokenHash then
    (.authorized .secret none, markUsedOnce row)
  else if isBootstrap && row.bootstrapOpen now then
    issue .bootstrap (max row.tokenVersion 0 + 1)
  else if isBootstrap && row.recoveryOpen auth.recoveryWindowSeconds now then
    issue .bootstrapRecovery (row.tokenVersion + 1)
  else if row.bootstrapExpired now then
    (.rejected "bootstrap token expired", none)
  else if isBootstrap && filledInt row.bootstrapUsedAt then
    (.rejected "bootstrap token already used", none)
  else
    (.rejected "invalid bearer token", none)

/-- `authorize_agent`, from the credentials it has read to its update. -/
def authorizeDecision
    (auth : AgentAuth)
    (agentId : String)
    (credentials : Option CredentialsRow)
    (token : Option String)
    (now : Int)
    (jti : String) : AuthResult × Option CredentialsUpdate :=
  match credentials with
  | none =>
    (.authorized .legacy none, none)
  | some row =>
    match token.filter (· ≠ "") with
    | none =>
      if filledText row.bootstrapTokenHash ||
          filledText row.secretHash ||
          decide (0 < row.tokenVersion) then
        (.rejected "missing bearer token", none)
      else
        (.authorized .legacy none, none)
    | some token =>
      if looksLikeJwt token then
        authorizeJwt auth agentId row token now
      else
        authorizeOpaque auth agentId row token now jti

namespace RegistryDB

def empty : RegistryDB where
  agents := .empty
  credentials := .empty

/-- `upsert_agent`, as far as the hostname. -/
def upsertAgent
    (db : RegistryDB)
    (agentId hostname : String) : RegistryDB :=
  { db with
    agents :=
      db.agents.upsert { id := agentId, hostname }
        (fun row =>
          if hostname = "" then row else { row with hostname })
        fun row => by split <;> rfl }

def registered (db : RegistryDB) (agentId : String) : Bool :=
  (db.agents.find? agentId).isSome

/-- `set_bootstrap_token`; it raises for an agent that is not registered. -/
def setBootstrapToken
    (db : RegistryDB)
    (agentId tokenHash : String)
    (expiresAt now : Int) : RegistryDB :=
  if db.registered agentId then
    { db with
      credentials :=
        db.credentials.upsert
          { agentId
            bootstrapTokenHash := some tokenHash
            bootstrapExpiresAt := some expiresAt
            updatedAt := now }
          (fun row =>
            { row with
              bootstrapTokenHash := some tokenHash
              bootstrapExpiresAt := some expiresAt
              bootstrapUsedAt := none
              updatedAt := now })
          fun _ => rfl }
  else
    db

def getAgentCredentials
    (db : RegistryDB)
    (agentId : String) : Option CredentialsRow :=
  db.credentials.find? agentId

/-- The token version in force for an agent, where it has credentials. -/
def tokenVersion (db : RegistryDB) (agentId : String) : Option Int :=
  (db.getAgentCredentials agentId).map fun row => row.tokenVersion

/-- `rotate_agent_token_version`; it does nothing for an unknown agent. -/
def rotateAgentTokenVersion
    (db : RegistryDB)
    (agentId : String)
    (now : Int) : RegistryDB :=
  if db.registered agentId then
    let nextVersion := max ((db.tokenVersion agentId).getD 0) 0 + 1
    { db with
      credentials :=
        db.credentials.upsert
          { agentId
            tokenVersion := nextVersion
            secretRotatedAt := some now
            updatedAt := now }
          (fun row =>
            { row with
              secretHash := none
              tokenVersion := nextVersion
              secretRotatedAt := some now
              updatedAt := now })
          fun _ => rfl }
  else
    db

/-- Issue the update of an authorization, if it has one. -/
def applyUpdate
    (db : RegistryDB)
    (agentId : String)
    (now : Int) : Option CredentialsUpdate → RegistryDB
  | none =>
    db
  | some update =>
    { db with
      credentials :=
        db.credentials.modify agentId (·.updated now update)
          (CredentialsRow.agentId_updated now update) }

/-- `authorize_agent`, without anything in between. -/
def authorizeAgent
    (auth : AgentAuth)
    (db : RegistryDB)
    (agentId : String)
    (token : Option String)
    (now : Int)
    (jti : String) : AuthResult × RegistryDB :=
  let decision :=
    authorizeDecision auth agentId (db.getAgentCredentials agentId) token
      now jti
  (decision.1, db.applyUpdate agentId now decision.2)

theorem authorizeAgent_fst
    (auth : AgentAuth)
    (db : RegistryDB)
    (agentId : String)
    (token : Option String)
    (now : Int)
    (jti : String) :
    (db.authorizeAgent auth agentId token now jti).1 =
      (authorizeDecision auth agentId (db.getAgentCredentials agentId)
        token now jti).1 :=
  rfl

/-- `delete_agent`, which deletes the credentials as well. -/
def deleteAgent (db : RegistryDB) (agentId : String) : RegistryDB where
  agents := db.agents.delete agentId
  credentials := db.credentials.delete agentId

end RegistryDB

/-- The operations on the registry. -/
inductive RegistryOperation where
  | upsertAgent (agentId hostname : String)
  | setBootstrapToken (agentId tokenHash : String) (expiresAt now : Int)
  | rotateAgentTokenVersion (agentId : String) (now : Int)
  | authorizeAgent
      (agentId : String)
      (token : Option String)
      (now : Int)
      (jti : String)
  | deleteAgent (agentId : String)

/-- Perform an operation on the registry. -/
def operate
    (auth : AgentAuth)
    (db : RegistryDB) : RegistryOperation → RegistryDB
  | .upsertAgent agentId hostname =>
    db.upsertAgent agentId hostname
  | .setBootstrapToken agentId tokenHash expiresAt now =>
    db.setBootstrapToken agentId tokenHash expiresAt now
  | .rotateAgentTokenVersion agentId now =>
    db.rotateAgentTokenVersion agentId now
  | .authorizeAgent agentId token now jti =>
    (db.authorizeAgent auth agentId token now jti).2
  | .deleteAgent agentId =>
    db.deleteAgent agentId

/-- The registry's operations as a step function. -/
def operate?
    (auth : AgentAuth)
    (db : RegistryDB)
    (operation : RegistryOperation) : Option RegistryDB :=
  some (operate auth db operation)

theorem fires_authorizeAgent
    (auth : AgentAuth)
    (db : RegistryDB)
    (agentId : String)
    (token : Option String)
    (now : Int)
    (jti : String) :
    Fires (operate? auth) db (.authorizeAgent agentId token now jti)
      (db.authorizeAgent auth agentId token now jti).2 :=
  rfl

/-! ### The credentials after an operation -/

/-- What an operation makes of the credentials of an agent. -/
inductive RowStep
    (auth : AgentAuth)
    (db : RegistryDB)
    (agentId : String)
    (row : CredentialsRow) :
    RegistryOperation → CredentialsRow → Prop where
  | unchanged
      {operation : RegistryOperation} :
      (∀ {now},
        operation = .rotateAgentTokenVersion agentId now →
        db.registered agentId = false) →
      (∀ {token now jti},
        operation = .authorizeAgent agentId token now jti →
        (authorizeDecision auth agentId (some row) token now jti).2 = none) →
      RowStep auth db agentId row operation row
  | bootstrapSet (tokenHash : String) (expiresAt now : Int) :
      RowStep auth db agentId row
        (.setBootstrapToken agentId tokenHash expiresAt now)
        { row with
          bootstrapTokenHash := some tokenHash
          bootstrapExpiresAt := some expiresAt
          bootstrapUsedAt := none
          updatedAt := now }
  | rotated (now : Int) :
      db.registered agentId = true →
      RowStep auth db agentId row (.rotateAgentTokenVersion agentId now)
        { row with
          secretHash := none
          tokenVersion := max row.tokenVersion 0 + 1
          secretRotatedAt := some now
          updatedAt := now }
  | authorized
      {token : Option String}
      {now : Int}
      {jti : String}
      {update : CredentialsUpdate} :
      (authorizeDecision auth agentId (some row) token now jti).2 =
        some update →
      RowStep auth db agentId row (.authorizeAgent agentId token now jti)
        (row.updated now update)

section Rows

variable
    {auth : AgentAuth}
    {db : RegistryDB}
    {agentId : String}
    {row : CredentialsRow}

theorem getAgentCredentials_applyUpdate
    (found : db.getAgentCredentials agentId = some row)
    (now : Int)
    (update : CredentialsUpdate) :
    (db.applyUpdate agentId now (some update)).getAgentCredentials
        agentId =
      some (row.updated now update) := by
  unfold RegistryDB.getAgentCredentials at found ⊢
  unfold RegistryDB.applyUpdate
  dsimp only
  rw [KeyedTable.find?_modify, if_pos rfl, found]
  rfl

theorem getAgentCredentials_applyUpdate_other
    {other : String}
    (different : other ≠ agentId)
    (now : Int)
    (update : Option CredentialsUpdate) :
    (db.applyUpdate other now update).getAgentCredentials agentId =
      db.getAgentCredentials agentId := by
  cases update with
  | none =>
    rfl
  | some update =>
    unfold RegistryDB.getAgentCredentials RegistryDB.applyUpdate
    dsimp only
    rw [KeyedTable.find?_modify, if_neg different]

theorem setBootstrapToken_row
    (found : db.getAgentCredentials agentId = some row)
    (updated tokenHash : String)
    (expiresAt now : Int) :
    ∃ next,
      (db.setBootstrapToken updated tokenHash expiresAt
          now).getAgentCredentials agentId = some next ∧
        RowStep auth db agentId row
          (.setBootstrapToken updated tokenHash expiresAt now) next := by
  unfold RegistryDB.setBootstrapToken
  split
  · by_cases same : updated = agentId
    · subst updated
      refine ⟨_, ?_, .bootstrapSet tokenHash expiresAt now⟩
      unfold RegistryDB.getAgentCredentials at found ⊢
      dsimp only
      rw [KeyedTable.find?_upsert, if_pos rfl, found]
      rfl
    · refine ⟨row, ?_, .unchanged nofun nofun⟩
      unfold RegistryDB.getAgentCredentials at found ⊢
      dsimp only
      rw [KeyedTable.find?_upsert, if_neg same, found]
  · exact ⟨row, found, .unchanged nofun nofun⟩

theorem rotateAgentTokenVersion_row
    (found : db.getAgentCredentials agentId = some row)
    (rotated : String)
    (now : Int) :
    ∃ next,
      (db.rotateAgentTokenVersion rotated now).getAgentCredentials
          agentId = some next ∧
        RowStep auth db agentId row (.rotateAgentTokenVersion rotated now)
          next := by
  unfold RegistryDB.rotateAgentTokenVersion
  split
  · rename_i isRegistered
    by_cases same : rotated = agentId
    · subst rotated
      refine ⟨_, ?_, .rotated now isRegistered⟩
      unfold RegistryDB.tokenVersion
      unfold RegistryDB.getAgentCredentials at found ⊢
      dsimp only
      rw [KeyedTable.find?_upsert, if_pos rfl, found]
      rfl
    · refine ⟨row, ?_, .unchanged ?_ nofun⟩
      · unfold RegistryDB.getAgentCredentials at found ⊢
        dsimp only
        rw [KeyedTable.find?_upsert, if_neg same, found]
      · rintro _ ⟨⟩
        exact (same rfl).elim
  · rename_i unregistered
    refine ⟨row, found, .unchanged ?_ nofun⟩
    rintro _ ⟨⟩
    exact Bool.eq_false_iff.mpr unregistered

theorem authorizeAgent_row
    (found : db.getAgentCredentials agentId = some row)
    (authorized : String)
    (token : Option String)
    (now : Int)
    (jti : String) :
    ∃ next,
      (db.authorizeAgent auth authorized token now
          jti).2.getAgentCredentials agentId = some next ∧
        RowStep auth db agentId row
          (.authorizeAgent authorized token now jti) next := by
  unfold RegistryDB.authorizeAgent
  dsimp only
  by_cases same : authorized = agentId
  · subst authorized
    rw [found]
    cases decided :
        (authorizeDecision auth agentId (some row) token now jti).2 with
    | none =>
      refine ⟨row, found, .unchanged nofun ?_⟩
      rintro _ _ _ ⟨⟩
      exact decided
    | some update =>
      exact ⟨_, getAgentCredentials_applyUpdate found now update,
        .authorized decided⟩
  · refine ⟨row, ?_, .unchanged nofun ?_⟩
    · rw [getAgentCredentials_applyUpdate_other same, found]
    · rintro _ _ _ ⟨⟩
      exact (same rfl).elim

theorem operate_row
    {operation : RegistryOperation}
    (keeps : operation ≠ .deleteAgent agentId)
    (found : db.getAgentCredentials agentId = some row) :
    ∃ next,
      (operate auth db operation).getAgentCredentials agentId =
          some next ∧
        RowStep auth db agentId row operation next := by
  cases operation with
  | upsertAgent registered hostname =>
    exact ⟨row, found, .unchanged nofun nofun⟩
  | setBootstrapToken updated tokenHash expiresAt now =>
    exact setBootstrapToken_row found updated tokenHash expiresAt now
  | rotateAgentTokenVersion rotated now =>
    exact rotateAgentTokenVersion_row found rotated now
  | authorizeAgent authorized token now jti =>
    exact authorizeAgent_row found authorized token now jti
  | deleteAgent deleted =>
    have other : agentId ≠ deleted := by
      rintro rfl
      exact keeps rfl
    refine ⟨row, ?_, .unchanged nofun nofun⟩
    unfold RegistryDB.getAgentCredentials at found
    show (db.credentials.delete deleted).find? agentId = some row
    rw [KeyedTable.find?_delete _ other, found]

theorem setBootstrapToken_found
    (registered : db.registered agentId = true)
    (tokenHash : String)
    (expiresAt now : Int) :
    ∃ row,
      (db.setBootstrapToken agentId tokenHash expiresAt
          now).getAgentCredentials agentId = some row ∧
        row.bootstrapTokenHash = some tokenHash ∧
        row.bootstrapExpiresAt = some expiresAt ∧
        row.bootstrapUsedAt = none := by
  unfold RegistryDB.setBootstrapToken
  rw [if_pos registered]
  unfold RegistryDB.getAgentCredentials
  dsimp only
  rw [KeyedTable.find?_upsert, if_pos rfl]
  cases db.credentials.find? agentId <;> exact ⟨_, rfl, rfl, rfl, rfl⟩

end Rows

/-! ### Versions are raised only -/

def AtLeast (version : Option Int) (bound : Int) : Prop :=
  ∃ reached, version = some reached ∧ bound ≤ reached

theorem AtLeast.refl {version : Int} : AtLeast (some version) version :=
  ⟨version, rfl, Int.le_refl version⟩

section Versions

variable
    {auth : AgentAuth}
    {agentId : String}
    {row : CredentialsRow}
    {token : String}
    {now : Int}
    {jti : String}

/-- A bootstrap token has been accepted, and a higher version is issued. -/
structure RaisesVersion
    (auth : AgentAuth)
    (agentId : String)
    (row : CredentialsRow)
    (token : String)
    (now : Int)
    (jti : String)
    (result : AuthResult)
    (tokenVersion : Int) : Prop where
  nonempty : token ≠ ""
  isOpaque : looksLikeJwt token = false
  otherSecret : matchesHash row.secretHash (auth.hashToken token) = false
  stored : matchesHash row.bootstrapTokenHash (auth.hashToken token) = true
  accepts :
    row.bootstrapOpen now = true ∨
      row.recoveryOpen auth.recoveryWindowSeconds now = true
  next : tokenVersion = max row.tokenVersion 0 + 1
  issued :
    ∃ mode,
      (mode = .bootstrap ∨ mode = .bootstrapRecovery) ∧
        result =
          .authorized mode
            (some (auth.issueAgentAccessToken agentId tokenVersion now jti))

variable {presented : Option String}

/-- Versions are raised for the bootstrap token only. -/
theorem raisesVersion_of_decision
    {tokenVersion : Int}
    (decided :
      (authorizeDecision auth agentId (some row) presented now jti).2 =
        some (.raiseVersion tokenVersion)) :
    ∃ token,
      presented = some token ∧
        RaisesVersion auth agentId row token now jti
          (authorizeDecision auth agentId (some row) presented now jti).1
          tokenVersion := by
  unfold authorizeDecision at decided ⊢
  cases given : presented.filter (· ≠ "") with
  | none =>
    rw [given] at decided
    dsimp only at decided
    split at decided <;> cases decided
  | some token =>
    rw [given] at decided
    rw [Option.filter_eq_some_iff, decide_eq_true_eq] at given
    refine ⟨token, given.1, ?_⟩
    dsimp only at decided ⊢
    split at decided
    · unfold authorizeJwt markUsedOnce at decided
      repeat' split at decided
      all_goals cases decided
    · rename_i notJwt
      rw [Bool.not_eq_true] at notJwt
      rw [notJwt, if_neg Bool.false_ne_true]
      unfold authorizeOpaque at decided ⊢
      dsimp only at decided ⊢
      split at decided
      · unfold markUsedOnce at decided
        split at decided <;> cases decided
      · rename_i noSecret
        rw [if_neg noSecret]
        rw [Bool.not_eq_true] at noSecret
        split at decided
        · rename_i isOpen
          cases decided
          rw [if_pos isOpen]
          rw [Bool.and_eq_true] at isOpen
          exact ⟨given.2, notJwt, noSecret, isOpen.1, .inl isOpen.2,
            rfl, .bootstrap, .inl rfl, rfl⟩
        · rename_i closed
          rw [if_neg closed]
          split at decided
          · rename_i recovers
            cases decided
            rw [if_pos recovers]
            rw [Bool.and_eq_true] at recovers
            have positive : 0 < row.tokenVersion := by
              have isOpen := recovers.2
              simp only [CredentialsRow.recoveryOpen, Bool.and_eq_true,
                decide_eq_true_eq] at isOpen
              exact isOpen.1.1.2
            exact ⟨given.2, notJwt, noSecret, recovers.1,
              .inr recovers.2, by omega, .bootstrapRecovery, .inr rfl,
              rfl⟩
          · split at decided
            · cases decided
            · split at decided <;> cases decided

theorem raises_of_issued
    {credentials : Option CredentialsRow}
    {mode : AuthMode}
    (issued :
      (authorizeDecision auth agentId credentials presented now jti).1 =
        .authorized mode (some token)) :
    ∃ read tokenVersion,
      credentials = some read ∧
        (authorizeDecision auth agentId credentials presented now
          jti).2 = some (.raiseVersion tokenVersion) := by
  cases credentials with
  | none =>
    cases issued
  | some read =>
    unfold authorizeDecision at issued ⊢
    cases given : presented.filter (· ≠ "") with
    | none =>
      rw [given] at issued
      dsimp only at issued
      split at issued <;> cases issued
    | some text =>
      rw [given] at issued
      dsimp only at issued ⊢
      split at issued
      · unfold authorizeJwt at issued
        repeat' split at issued
        all_goals cases issued
      · rename_i notJwt
        rw [if_neg notJwt]
        unfold authorizeOpaque at issued ⊢
        dsimp only at issued ⊢
        split at issued
        · cases issued
        · rename_i noSecret
          rw [if_neg noSecret]
          split at issued
          · rename_i isOpen
            rw [if_pos isOpen]
            exact ⟨read, _, rfl, rfl⟩
          · rename_i closed
            rw [if_neg closed]
            split at issued
            · rename_i recovers
              rw [if_pos recovers]
              exact ⟨read, _, rfl, rfl⟩
            · split at issued
              · cases issued
              · split at issued <;> cases issued

theorem tokenVersion_le_updated
    {credentials : Option CredentialsRow}
    {update : CredentialsUpdate}
    (read : credentials = some row)
    (decided :
      (authorizeDecision auth agentId credentials presented now jti).2 =
        some update) :
    row.tokenVersion ≤ (row.updated now update).tokenVersion := by
  cases update with
  | markUsed =>
    exact Int.le_refl _
  | raiseVersion tokenVersion =>
    subst read
    obtain ⟨_, _, raises⟩ := raisesVersion_of_decision decided
    have next := raises.next
    simp only [CredentialsRow.updated]
    omega

theorem carriedVersion_of_authorized
    (isJwt : looksLikeJwt token = true)
    (authorized :
      (authorizeDecision auth agentId (some row) (some token) now
        jti).1.isAuthorized = true) :
    auth.carriedVersion token = some row.tokenVersion := by
  have nonempty : token ≠ "" := by
    rintro rfl
    cases isJwt
  have present : (some token).filter (· ≠ "") = some token := by
    simp [nonempty]
  rw [authorizeDecision, present] at authorized
  dsimp only at authorized
  rw [if_pos isJwt, authorizeJwt] at authorized
  split at authorized
  · cases authorized
  · cases verified :
        auth.verifyAgentAccessToken token agentId row.tokenVersion now with
    | verified claims =>
      exact auth.carriedVersion_of_verified verified
    | refused | raised =>
      rw [verified] at authorized
      cases authorized

theorem authorizeDecision_issued
    (lawful : auth.library.Lawful)
    {issuedAt : Int}
    {issuedJti : String}
    (positive : 0 < row.tokenVersion)
    (unexpired : auth.Unexpired issuedAt now) :
    authorizeDecision auth agentId (some row)
        (some (auth.issueAgentAccessToken agentId row.tokenVersion issuedAt
          issuedJti))
        now jti =
      (.authorized .jwt none, markUsedOnce row) := by
  have isJwt :=
    AgentAuth.looksLikeJwt_issue lawful agentId row.tokenVersion issuedAt
      issuedJti
  have verified :=
    AgentAuth.verify_issue lawful agentId row.tokenVersion issuedAt
      issuedJti unexpired
  have nonempty :
      auth.issueAgentAccessToken agentId row.tokenVersion issuedAt
        issuedJti ≠ "" := by
    intro empty
    rw [empty] at isJwt
    cases isJwt
  have present :
      (some (auth.issueAgentAccessToken agentId row.tokenVersion issuedAt
          issuedJti)).filter (· ≠ "") =
        some (auth.issueAgentAccessToken agentId row.tokenVersion issuedAt
          issuedJti) := by
    simp [nonempty]
  rw [authorizeDecision, present]
  dsimp only
  rw [if_pos isJwt, authorizeJwt, if_neg (Int.not_le.mpr positive), verified]

end Versions

end RpaPlatform.Agents
