import RpaPlatform.AgentCredentials

namespace RpaPlatform.Agents

open RegistryDB Transition

/-!
# Revocation by token versions

A JWT is revoked by raising the version in force for its agent.  The version
is never lowered while the credentials exist, so a revoked token stays revoked;
but deleting the agent deletes the credentials with it, and an agent without
credentials is authorized whatever it presents.
-/

/--
The version in force for an agent is never lowered, and a JWT that carries a
lower version than the one in force is never accepted again.
-/
def RevocationPermanent
    (auth : AgentAuth)
    (agentId : String)
    (step : RegistryDB → RegistryOperation → RegistryDB → Prop) : Prop :=
  ∀ {initial middle final : RegistryDB}
    {first second : List RegistryOperation}
    {version : Int},
    Run step initial first middle →
    Run step middle second final →
    middle.tokenVersion agentId = some version →
    AtLeast (final.tokenVersion agentId) version ∧
      ∀ token carried,
        looksLikeJwt token = true →
        auth.carriedVersion token = some carried →
        carried < version →
        ∀ now jti,
          (final.authorizeAgent auth agentId (some token) now
            jti).1.isAuthorized = false

/-- The credentials of the agent are not deleted. -/
def KeepsAgent
    (agentId : String)
    (_ : RegistryDB) : RegistryOperation → Prop
  | .deleteAgent deleted => deleted ≠ agentId
  | _ => True

instance (agentId : String) (db : RegistryDB)
    (operation : RegistryOperation) :
    Decidable (KeepsAgent agentId db operation) := by
  unfold KeepsAgent
  split <;> infer_instance

section Operations

variable
    {auth : AgentAuth}
    {before : RegistryDB}
    {agentId : String}
    {version : Int}

theorem setBootstrapToken_atLeast
    (inForce : before.tokenVersion agentId = some version)
    (updated tokenHash : String)
    (expiresAt now : Int) :
    AtLeast
      ((before.setBootstrapToken updated tokenHash expiresAt
        now).tokenVersion agentId)
      version := by
  have kept :
      (before.setBootstrapToken updated tokenHash expiresAt
        now).tokenVersion agentId = some version := by
    unfold tokenVersion getAgentCredentials at inForce ⊢
    unfold setBootstrapToken
    split
    · rw [KeyedTable.find?_upsert]
      obtain ⟨row, found, sameVersion⟩ :=
        Option.map_eq_some_iff.mp inForce
      split
      · rw [found]
        exact congrArg some sameVersion
      · exact inForce
    · exact inForce
  rw [kept]
  exact .refl

theorem rotateAgentTokenVersion_atLeast
    (inForce : before.tokenVersion agentId = some version)
    (rotated : String)
    (now : Int) :
    AtLeast
      ((before.rotateAgentTokenVersion rotated now).tokenVersion agentId)
      version := by
  unfold rotateAgentTokenVersion
  split
  · unfold tokenVersion getAgentCredentials at inForce ⊢
    dsimp only
    rw [KeyedTable.find?_upsert]
    obtain ⟨row, found, sameVersion⟩ := Option.map_eq_some_iff.mp inForce
    split
    · rename_i same
      dsimp only at same
      subst rotated
      rw [found]
      refine ⟨_, rfl, ?_⟩
      rw [← sameVersion]
      exact Int.le_trans (Int.le_max_left row.tokenVersion 0)
        (Int.le_of_lt (Int.lt_succ _))
    · rw [inForce]
      exact .refl
  · rw [inForce]
    exact .refl

theorem authorizeAgent_atLeast
    (inForce : before.tokenVersion agentId = some version)
    (authorized : String)
    (token : Option String)
    (now : Int)
    (jti : String) :
    AtLeast
      ((before.authorizeAgent auth authorized token now
        jti).2.tokenVersion agentId)
      version := by
  unfold authorizeAgent
  dsimp only
  cases decided :
      (authorizeDecision auth authorized
        (before.getAgentCredentials authorized) token now jti).2 with
  | none =>
    rw [applyUpdate, inForce]
    exact .refl
  | some update =>
    unfold tokenVersion getAgentCredentials at inForce ⊢
    rw [applyUpdate]
    dsimp only
    rw [KeyedTable.find?_modify]
    split
    · rename_i same
      subst authorized
      obtain ⟨row, found, sameVersion⟩ :=
        Option.map_eq_some_iff.mp inForce
      have raised := tokenVersion_le_updated found decided
      rw [found]
      exact ⟨_, rfl, sameVersion ▸ raised⟩
    · rw [inForce]
      exact .refl

theorem operate_atLeast
    {operation : RegistryOperation}
    (keeps : KeepsAgent agentId before operation)
    (inForce : before.tokenVersion agentId = some version) :
    AtLeast ((operate auth before operation).tokenVersion agentId) version := by
  cases operation with
  | upsertAgent registered hostname =>
    have kept :
        (before.upsertAgent registered hostname).tokenVersion agentId =
          before.tokenVersion agentId :=
      rfl
    rw [operate, kept, inForce]
    exact .refl
  | setBootstrapToken updated tokenHash expiresAt now =>
    exact setBootstrapToken_atLeast inForce updated tokenHash expiresAt now
  | rotateAgentTokenVersion rotated now =>
    exact rotateAgentTokenVersion_atLeast inForce rotated now
  | authorizeAgent authorized token now jti =>
    exact authorizeAgent_atLeast inForce authorized token now jti
  | deleteAgent deleted =>
    have other : agentId ≠ deleted := fun same => keeps same.symm
    have kept :
        (before.deleteAgent deleted).tokenVersion agentId =
          before.tokenVersion agentId := by
      unfold tokenVersion getAgentCredentials deleteAgent
      dsimp only
      rw [KeyedTable.find?_delete _ other]
    rw [operate, kept, inForce]
    exact .refl

end Operations

/-- While the agent is not deleted, revocation is permanent. -/
theorem revocationPermanent_of_keepsAgent
    (auth : AgentAuth)
    (agentId : String) :
    RevocationPermanent auth agentId
      (Guarded (Fires (operate? auth)) (KeepsAgent agentId)) := by
  intro initial middle final first second version _ trailing inForce
  have bounded : AtLeast (final.tokenVersion agentId) version := by
    let keeps : RegistryDB → Prop :=
      fun db => AtLeast (db.tokenVersion agentId) version
    have start : keeps middle := ⟨version, inForce, Int.le_refl version⟩
    have kept : keeps final := by
      refine trailing.preserves ?_ start
      rintro before operation after ⟨taken, keepsAgent⟩
        ⟨reached, isReached, above⟩
      cases taken
      obtain ⟨raised, isRaised, further⟩ :=
        operate_atLeast keepsAgent isReached
      exact ⟨raised, isRaised, Int.le_trans above further⟩
    exact kept
  refine ⟨bounded, ?_⟩
  intro token carried isJwt carries old now jti
  obtain ⟨reached, isReached, above⟩ := bounded
  obtain ⟨row, found, rfl⟩ := Option.map_eq_some_iff.mp isReached
  rw [Bool.eq_false_iff]
  intro authorized
  rw [authorizeAgent_fst, found] at authorized
  have current := carriedVersion_of_authorized isJwt authorized
  rw [carries, Option.some.injEq] at current
  omega

/-! ### A token of a deleted agent -/

/-- An agent is registered and given a bootstrap token. -/
def provisioning : List RegistryOperation :=
  [.upsertAgent "agent-1" "host-1",
    .setBootstrapToken "agent-1"
      (exampleAuth.hashToken exampleBootstrapToken) 1700086400 1700000000]

/-- It is given the first token, which is revoked. -/
def firstTokenRevoked : List RegistryOperation :=
  provisioning ++
    [.authorizeAgent "agent-1" (some exampleBootstrapToken) 1700000000
        firstJti,
      .rotateAgentTokenVersion "agent-1" 1700000100]

/-- It is deleted, and provisioned anew up to the first version. -/
def provisionedAnew : List RegistryOperation :=
  .deleteAgent "agent-1" :: provisioning ++
    [.authorizeAgent "agent-1" (some exampleBootstrapToken) 1700000200
      secondJti]

/-- The revoked token is rejected while the agent is not deleted. -/
theorem firstToken_rejected :
    ∃ final,
      Run (Guarded (Fires (operate? exampleAuth)) (KeepsAgent "agent-1"))
          .empty firstTokenRevoked final ∧
        (final.authorizeAgent exampleAuth "agent-1" (some firstToken)
          1700000300 secondJti).1.isAuthorized = false := by
  obtain ⟨final, run, reached⟩ :=
    exists_run_of_execute
      (show
        (execute (checked (operate? exampleAuth) (KeepsAgent "agent-1"))
            .empty firstTokenRevoked).any
          (fun db : RegistryDB =>
            decide (db.tokenVersion "agent-1" = some 2)) =
        true by decide)
  have guarded := run.guarded_of_checked
  have inForce : final.tokenVersion "agent-1" = some 2 :=
    of_decide_eq_true reached
  have permanent :=
    revocationPermanent_of_keepsAgent exampleAuth "agent-1" guarded
      (.nil final) inForce
  refine ⟨final, guarded, ?_⟩
  exact permanent.2 firstToken 1
    (AgentAuth.looksLikeJwt_issue exampleLibrary_lawful _ _ _ _)
    (AgentAuth.carriedVersion_issue exampleLibrary_lawful _ _ _ _)
    (by decide) _ _

/-- With the agent's deletion, a revoked token is accepted again. -/
theorem not_revocationPermanent :
    ¬ RevocationPermanent exampleAuth "agent-1"
      (Fires (operate? exampleAuth)) := by
  intro permanent
  obtain ⟨middle, final, leading, trailing, passed, reached⟩ :=
    exists_runs_of_execute
      (show
        (execute (operate? exampleAuth) .empty firstTokenRevoked).any
          (fun db : RegistryDB =>
            decide (db.tokenVersion "agent-1" = some 2)) =
        true by decide)
      (show
        (execute (operate? exampleAuth) .empty
            (firstTokenRevoked ++ provisionedAnew)).any
          (fun db : RegistryDB =>
            decide (db.tokenVersion "agent-1" = some 1)) =
        true by decide)
  have rejected :=
    (permanent leading trailing (of_decide_eq_true passed)).2 firstToken 1
      (AgentAuth.looksLikeJwt_issue exampleLibrary_lawful _ _ _ _)
      (AgentAuth.carriedVersion_issue exampleLibrary_lawful _ _ _ _)
      (by decide) 1700000300 secondJti
  obtain ⟨row, found, first⟩ :=
    Option.map_eq_some_iff.mp (of_decide_eq_true reached)
  have accepted :
      authorizeDecision exampleAuth "agent-1" (some row)
          (some (exampleAuth.issueAgentAccessToken "agent-1"
            row.tokenVersion 1700000000 firstJti))
          1700000300 secondJti =
        (.authorized .jwt none, markUsedOnce row) :=
    authorizeDecision_issued exampleLibrary_lawful (by omega) rfl
  rw [authorizeAgent_fst, found, firstToken, ← first, accepted] at rejected
  cases rejected

end RpaPlatform.Agents
