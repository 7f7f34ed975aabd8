import RpaPlatform.AgentFreshToken

namespace RpaPlatform.Agents

open RegistryDB Transition

/-!
# Reuse of bootstrap tokens

A bootstrap token that has been used is accepted once more within the
recovery window, in case the agent has lost the access token it was given.
The window is measured from `secret_rotated_at`, and every recovery and every
rotation moves that timestamp, so the window moves with them.
-/

/-- The registry, and the time at which it was last used. -/
structure TimedRegistry where
  db : RegistryDB
  clock : Int

/-- The time that an operation reads off the clock. -/
def RegistryOperation.time : RegistryOperation → Option Int
  | .setBootstrapToken _ _ _ now => some now
  | .rotateAgentTokenVersion _ now => some now
  | .authorizeAgent _ _ now _ => some now
  | _ => none

/-- Perform an operation, on a clock that does not go back. -/
def timedOperate?
    (auth : AgentAuth)
    (sys : TimedRegistry)
    (operation : RegistryOperation) : Option TimedRegistry :=
  let now := operation.time.getD sys.clock
  if sys.clock ≤ now then
    some { db := operate auth sys.db operation, clock := now }
  else
    none

/-- No bootstrap token is stored for the agent, which is not deleted. -/
def KeepsBootstrap
    (agentId : String)
    (_ : TimedRegistry) : RegistryOperation → Prop
  | .setBootstrapToken updated _ _ _ => updated ≠ agentId
  | .deleteAgent deleted => deleted ≠ agentId
  | _ => True

/-- The token is the bootstrap token, and the recovery window is open. -/
def CredentialsRow.recovers
    (row : CredentialsRow)
    (auth : AgentAuth)
    (token : String)
    (now : Int) : Bool :=
  decide (token ≠ "") && !looksLikeJwt token &&
    matchesHash row.bootstrapTokenHash (auth.hashToken token) &&
    row.recoveryOpen auth.recoveryWindowSeconds now

/--
Rotations of the agent's version and recoveries are further back than the
recovery window.
-/
def LeavesWindow
    (auth : AgentAuth)
    (agentId : String)
    (presentedAt : Int)
    (sys : TimedRegistry) : RegistryOperation → Prop
  | .rotateAgentTokenVersion rotated now =>
    rotated = agentId →
      sys.db.registered agentId = true →
      now + auth.recoveryWindowSeconds < presentedAt
  | .authorizeAgent authorized (some token) now _ =>
    authorized = agentId →
      (∃ row,
        sys.db.getAgentCredentials agentId = some row ∧
          row.recovers auth token now = true) →
      now + auth.recoveryWindowSeconds < presentedAt
  | _ => True

/--
A bootstrap token has been marked as used just now, in a run from the empty
registry, and then authorizations and rotations follow.
-/
structure UsedToken
    (auth : AgentAuth)
    (agentId : String)
    (token : BootstrapToken)
    (used final : TimedRegistry)
    (later : List RegistryOperation) : Prop where
  marked :
    ∃ row,
      used.db.getAgentCredentials agentId = some row ∧
        row.bootstrapUsedAt = some used.clock ∧
        row.bootstrapTokenHash = some (auth.hashToken token.text)
  before :
    ∃ start earlier,
      0 < start ∧
        Run (Fires (timedOperate? auth)) { db := .empty, clock := start }
          earlier used
  after :
    Run (Guarded (Fires (timedOperate? auth)) (KeepsBootstrap agentId))
      used later final

/--
A bootstrap token is not accepted any more, once the recovery window has
passed since it was marked as used.
-/
def BoundedReuse (auth : AgentAuth) (agentId : String) : Prop :=
  ∀ {token : BootstrapToken}
    {used final : TimedRegistry}
    {later : List RegistryOperation}
    {presentedAt : Int}
    {jti : String},
    UsedToken auth agentId token used final later →
    final.clock ≤ presentedAt →
    used.clock + auth.recoveryWindowSeconds < presentedAt →
    (final.db.authorizeAgent auth agentId (some token.text) presentedAt
      jti).1.isAuthorized = false

/-! ### Timestamps are in the past -/

/-- No secret is stored, and versions are raised at times in the past. -/
structure Stamped (row : CredentialsRow) (clock : Int) : Prop where
  noSecret : row.secretHash = none
  past :
    ∀ {rotatedAt : Int},
      row.secretRotatedAt = some rotatedAt →
      0 < rotatedAt ∧ rotatedAt ≤ clock ∧ 0 < row.tokenVersion

/-- The clock has started, and the agent's credentials are stamped. -/
structure StampedRegistry
    (agentId : String)
    (sys : TimedRegistry) : Prop where
  started : 0 < sys.clock
  stamped :
    ∀ {row : CredentialsRow},
      sys.db.getAgentCredentials agentId = some row →
      Stamped row sys.clock

section Stamps

variable
    {auth : AgentAuth}
    {agentId : String}
    {row next : CredentialsRow}
    {before after : TimedRegistry}
    {operation : RegistryOperation}

theorem timedOperate_cases
    (fired : Fires (timedOperate? auth) before operation after) :
    after.db = operate auth before.db operation ∧
      before.clock ≤ after.clock ∧
      ∀ {now : Int}, operation.time = some now → after.clock = now := by
  simp only [Fires, timedOperate?] at fired
  split at fired
  · rename_i forward
    cases fired
    refine ⟨rfl, forward, ?_⟩
    intro now timed
    dsimp only
    rw [timed, Option.getD_some]
  · cases fired

theorem Stamped.mono
    {clock later : Int}
    (stamped : Stamped row clock)
    (forward : clock ≤ later) :
    Stamped row later where
  noSecret := stamped.noSecret
  past := by
    intro rotatedAt isRotated
    obtain ⟨positive, past, raised⟩ := stamped.past isRotated
    exact ⟨positive, past.trans forward, raised⟩

theorem Stamped.step
    {db : RegistryDB}
    {clock later : Int}
    (stamped : Stamped row clock)
    (started : 0 < clock)
    (forward : clock ≤ later)
    (timed : ∀ {now : Int}, operation.time = some now → later = now)
    (stepped : RowStep auth db agentId row operation next) :
    Stamped next later := by
  have kept := stamped.mono forward
  cases stepped with
  | unchanged _ _ =>
    exact kept
  | bootstrapSet tokenHash expiresAt now =>
    exact ⟨kept.noSecret, kept.past⟩
  | rotated now _ =>
    obtain rfl : later = now := timed rfl
    refine ⟨rfl, ?_⟩
    intro rotatedAt isRotated
    cases isRotated
    dsimp only
    omega
  | @authorized _ now _ update decided =>
    obtain rfl : later = now := timed rfl
    cases update with
    | markUsed =>
      exact ⟨kept.noSecret, kept.past⟩
    | raiseVersion version =>
      obtain ⟨_, _, raises⟩ := raisesVersion_of_decision decided
      have raised := raises.next
      refine ⟨rfl, ?_⟩
      intro rotatedAt isRotated
      cases isRotated
      simp only [CredentialsRow.updated]
      omega

/-- Credentials that an operation creates. -/
theorem operate_created
    {db : RegistryDB}
    (absent : db.getAgentCredentials agentId = none)
    (found :
      (operate auth db operation).getAgentCredentials agentId = some row) :
    row.secretHash = none ∧
      ∀ {rotatedAt : Int},
        row.secretRotatedAt = some rotatedAt →
        operation.time = some rotatedAt ∧ 0 < row.tokenVersion := by
  have unfound : db.credentials.find? agentId = none := absent
  cases operation with
  | upsertAgent registered hostname =>
    cases absent.symm.trans found
  | setBootstrapToken updated tokenHash expiresAt now =>
    simp only [operate, setBootstrapToken, getAgentCredentials] at found
    split at found
    · rw [KeyedTable.find?_upsert, unfound] at found
      split at found
      · cases found
        refine ⟨rfl, fun isRotated => ?_⟩
        cases isRotated
      · cases found
    · cases unfound.symm.trans found
  | rotateAgentTokenVersion rotated now =>
    simp only [operate, rotateAgentTokenVersion, getAgentCredentials] at found
    split at found
    · rw [KeyedTable.find?_upsert, unfound] at found
      split at found
      · cases found
        refine ⟨rfl, ?_⟩
        rintro _ ⟨⟩
        refine ⟨rfl, ?_⟩
        dsimp only [Option.map_none, Option.getD_none]
        omega
      · cases found
    · cases unfound.symm.trans found
  | authorizeAgent authorized token now jti =>
    have kept :
        (operate auth db
            (.authorizeAgent authorized token now
              jti)).getAgentCredentials agentId = none := by
      by_cases same : authorized = agentId
      · subst authorized
        simp only [operate, authorizeAgent, absent, authorizeDecision,
          applyUpdate]
      · simp only [operate, authorizeAgent]
        rw [getAgentCredentials_applyUpdate_other same, absent]
    cases kept.symm.trans found
  | deleteAgent deleted =>
    have kept :
        (db.deleteAgent deleted).getAgentCredentials agentId = none := by
      by_cases same : agentId = deleted
      · subst deleted
        exact KeyedTable.find?_delete_self _ _
      · exact (KeyedTable.find?_delete _ same).trans absent
    cases kept.symm.trans found

theorem StampedRegistry.step
    (stamped : StampedRegistry agentId before)
    (fired : Fires (timedOperate? auth) before operation after) :
    StampedRegistry agentId after := by
  obtain ⟨isAfter, forward, timed⟩ := timedOperate_cases fired
  refine ⟨lt_of_lt_of_le stamped.started forward, ?_⟩
  intro next isNext
  rw [isAfter] at isNext
  cases found : before.db.getAgentCredentials agentId with
  | none =>
    obtain ⟨noSecret, rotated⟩ := operate_created found isNext
    refine ⟨noSecret, ?_⟩
    intro rotatedAt isRotated
    obtain ⟨isTime, raised⟩ := rotated isRotated
    have now := timed isTime
    have started := stamped.started
    omega
  | some row =>
    by_cases keeps : operation = .deleteAgent agentId
    · subst operation
      have deleted :
          (before.db.deleteAgent agentId).getAgentCredentials agentId = none :=
        KeyedTable.find?_delete_self _ _
      exact absurd (deleted.symm.trans isNext) nofun
    · obtain ⟨stored, isStored, stepped⟩ :=
        operate_row keeps found
      rw [isNext, Option.some.injEq] at isStored
      subst stored
      exact (stamped.stamped found).step stamped.started forward timed stepped

theorem stampedRegistry_of_run
    {start : Int}
    {earlier : List RegistryOperation}
    (started : 0 < start)
    (run :
      Run (Fires (timedOperate? auth)) { db := .empty, clock := start }
        earlier after) :
    StampedRegistry agentId after := by
  let keeps : TimedRegistry → Prop := StampedRegistry agentId
  have initially : keeps { db := .empty, clock := start } :=
    ⟨started, nofun⟩
  refine run.preserves ?_ initially
  intro before operation after fired stamped
  exact stamped.step fired

end Stamps

/-! ### The window moves with the version -/

/-- The version was raised at most a window before the presentation. -/
def CredentialsRow.raisedWithin
    (row : CredentialsRow)
    (window presentedAt : Int) : Bool :=
  row.secretRotatedAt.any (presentedAt - · ≤ window)

/-- The credentials while the used bootstrap token is not replaced. -/
structure HoldsUsed
    (agentId tokenHash : String)
    (usedAt : Int)
    (row : CredentialsRow)
    (sys : TimedRegistry) : Prop where
  found : sys.db.getAgentCredentials agentId = some row
  hash : row.bootstrapTokenHash = some tokenHash
  used : row.bootstrapUsedAt = some usedAt
  stamped : StampedRegistry agentId sys

section Window

variable
    {auth : AgentAuth}
    {agentId tokenHash : String}
    {usedAt presentedAt : Int}
    {row : CredentialsRow}
    {before after : TimedRegistry}
    {operation : RegistryOperation}

theorem unmarked_of_markUsed
    {presented : Option String}
    {now : Int}
    {jti : String}
    (decided :
      (authorizeDecision auth agentId (some row) presented now jti).2 =
        some .markUsed) :
    filledInt row.bootstrapUsedAt = false := by
  by_contra marked
  rw [Bool.not_eq_false] at marked
  refine update_of_not_accepts ?_ decided
  rintro token rfl nonempty
  by_contra accepted
  rw [Bool.not_eq_false] at accepted
  rw [update_of_accepts nonempty accepted, markUsedOnce, if_pos marked]
    at decided
  cases decided

theorem decision_of_recovers
    {token : String}
    {now : Int}
    (jti : String)
    (noSecret : row.secretHash = none)
    (recovers : row.recovers auth token now = true) :
    (authorizeDecision auth agentId (some row) (some token) now jti).2 ≠
      none := by
  simp only [CredentialsRow.recovers, Bool.and_eq_true, Bool.not_eq_true',
    decide_eq_true_eq] at recovers
  obtain ⟨⟨⟨nonempty, notJwt⟩, stored⟩, isOpen⟩ := recovers
  have present : (some token).filter (· ≠ "") = some token := by
    simp [nonempty]
  have otherSecret :
      matchesHash row.secretHash (auth.hashToken token) = false := by
    rw [noSecret]
    rfl
  rw [authorizeDecision, present]
  dsimp only
  rw [notJwt, if_neg Bool.false_ne_true, authorizeOpaque, otherSecret,
    if_neg Bool.false_ne_true, stored, isOpen]
  cases row.bootstrapOpen now with
  | false | true => simp

theorem raisedWithin_eq_false
    {window now : Int}
    (rotated : row.secretRotatedAt = some now) :
    row.raisedWithin window presentedAt = false ↔
      now + window < presentedAt := by
  simp only [CredentialsRow.raisedWithin, rotated, Option.any_some,
    decide_eq_false_iff_not]
  omega

theorem raisedWithin_of_later
    {clock window now : Int}
    (stamped : Stamped row clock)
    (forward : clock ≤ now)
    (late : now + window < presentedAt) :
    row.raisedWithin window presentedAt = false := by
  cases rotated : row.secretRotatedAt with
  | none =>
    rw [CredentialsRow.raisedWithin, rotated]
    rfl
  | some rotatedAt =>
    have past := (stamped.past rotated).2.1
    rw [raisedWithin_eq_false rotated]
    omega

theorem leavesWindow_of_unchanged
    (noSecret : row.secretHash = none)
    (found : before.db.getAgentCredentials agentId = some row)
    (unrotated :
      ∀ {now : Int},
        operation = .rotateAgentTokenVersion agentId now →
        before.db.registered agentId = false)
    (undecided :
      ∀ {token : Option String} {now : Int} {jti : String},
        operation = .authorizeAgent agentId token now jti →
        (authorizeDecision auth agentId (some row) token now jti).2 = none) :
    LeavesWindow auth agentId presentedAt before operation := by
  cases operation with
  | rotateAgentTokenVersion rotated now =>
    rintro rfl registered
    rw [unrotated rfl] at registered
    cases registered
  | authorizeAgent authorized presented now jti =>
    cases presented with
    | none =>
      trivial
    | some token =>
      rintro rfl ⟨other, isOther, recovers⟩
      rw [found, Option.some.injEq] at isOther
      subst other
      exact (decision_of_recovers jti noSecret recovers (undecided rfl)).elim
  | _ =>
    trivial

/-- A step brings the token into the window only by raising the version. -/
theorem HoldsUsed.step
    (positive : 0 < usedAt)
    (holds : HoldsUsed agentId tokenHash usedAt row before)
    (fired : Fires (timedOperate? auth) before operation after)
    (keeps : KeepsBootstrap agentId before operation) :
    ∃ next,
      HoldsUsed agentId tokenHash usedAt next after ∧
        (next.raisedWithin auth.recoveryWindowSeconds presentedAt =
            false ↔
          row.raisedWithin auth.recoveryWindowSeconds presentedAt =
              false ∧
            LeavesWindow auth agentId presentedAt before operation) := by
  obtain ⟨isAfter, forward, timed⟩ := timedOperate_cases fired
  have stampedAfter := holds.stamped.step fired
  have kept : operation ≠ .deleteAgent agentId := by
    rintro rfl
    exact keeps rfl
  have marked : filledInt row.bootstrapUsedAt = true := by
    simp only [filledInt, holds.used, Option.any_some, decide_eq_true_eq]
    omega
  have stamped := holds.stamped.stamped holds.found
  obtain ⟨next, isNext, stepped⟩ := operate_row kept holds.found
  rw [← isAfter] at isNext
  refine ⟨next, ?_⟩
  cases stepped with
  | unchanged unrotated undecided =>
    refine ⟨⟨isNext, holds.hash, holds.used, stampedAfter⟩,
      fun late => ⟨late, ?_⟩, And.left⟩
    exact leavesWindow_of_unchanged stamped.noSecret holds.found
      unrotated undecided
  | bootstrapSet tokenHash expiresAt now =>
    exact (keeps rfl).elim
  | rotated now registered =>
    obtain rfl : after.clock = now := timed rfl
    refine ⟨⟨isNext, holds.hash, holds.used, stampedAfter⟩, ?_⟩
    rw [raisedWithin_eq_false rfl]
    constructor
    · intro late
      exact ⟨raisedWithin_of_later stamped forward late, fun _ _ => late⟩
    · rintro ⟨_, leaves⟩
      exact leaves rfl registered
  | @authorized presented now jti update decided =>
    obtain rfl : after.clock = now := timed rfl
    cases update with
    | markUsed =>
      rw [unmarked_of_markUsed decided] at marked
      cases marked
    | raiseVersion tokenVersion =>
      obtain ⟨token, rfl, raises⟩ := raisesVersion_of_decision decided
      have isOpen :
          row.recoveryOpen auth.recoveryWindowSeconds after.clock = true := by
        rcases raises.accepts with isOpen | isOpen
        · rw [CredentialsRow.bootstrapOpen, marked] at isOpen
          cases isOpen
        · exact isOpen
      have recovers : row.recovers auth token after.clock = true := by
        simp [CredentialsRow.recovers, raises.nonempty,
          raises.isOpaque, raises.stored, isOpen]
      refine ⟨⟨isNext, holds.hash, holds.used, stampedAfter⟩, ?_⟩
      rw [raisedWithin_eq_false rfl]
      constructor
      · intro late
        exact ⟨raisedWithin_of_later stamped forward late, fun _ _ => late⟩
      · rintro ⟨_, leaves⟩
        exact leaves rfl ⟨row, holds.found, recovers⟩

theorem HoldsUsed.run
    {later : List RegistryOperation}
    (positive : 0 < usedAt)
    (run :
      Run (Guarded (Fires (timedOperate? auth)) (KeepsBootstrap agentId))
        before later after)
    (holds : HoldsUsed agentId tokenHash usedAt row before) :
    ∃ last,
      HoldsUsed agentId tokenHash usedAt last after ∧
        (last.raisedWithin auth.recoveryWindowSeconds presentedAt =
            false ↔
          row.raisedWithin auth.recoveryWindowSeconds presentedAt =
              false ∧
            Run
              (Guarded
                (Guarded (Fires (timedOperate? auth)) (KeepsBootstrap agentId))
                (LeavesWindow auth agentId presentedAt))
              before later after) := by
  induction run generalizing row with
  | nil state =>
    exact ⟨row, holds, fun late => ⟨late, .nil state⟩, And.left⟩
  | cons taken _ inductionHypothesis =>
    obtain ⟨fired, keeps⟩ := taken
    obtain ⟨next, holdsNext, outside⟩ := holds.step positive fired keeps
    obtain ⟨last, holdsLast, outsideLater⟩ :=
      inductionHypothesis holdsNext
    refine ⟨last, holdsLast, ?_⟩
    rw [outsideLater, outside]
    constructor
    · rintro ⟨⟨late, leaves⟩, rest⟩
      exact ⟨late, .cons ⟨⟨fired, keeps⟩, leaves⟩ rest⟩
    · rintro ⟨late, whole⟩
      cases whole with
      | cons first rest =>
        obtain ⟨⟨refired, _⟩, leaves⟩ := first
        obtain rfl := Option.some.inj (fired.symm.trans refired)
        exact ⟨⟨late, leaves⟩, rest⟩

end Window

/--
A used bootstrap token is rejected after the recovery window exactly when
every rotation and recovery since its use is further back than the window.
-/
theorem usedToken_rejected_iff
    {auth : AgentAuth}
    (lawful : auth.library.Lawful)
    {agentId : String}
    {token : BootstrapToken}
    {used final : TimedRegistry}
    {later : List RegistryOperation}
    {presentedAt : Int}
    {jti : String}
    (reuse : UsedToken auth agentId token used final later)
    (past : used.clock + auth.recoveryWindowSeconds < presentedAt) :
    (final.db.authorizeAgent auth agentId (some token.text) presentedAt
        jti).1.isAuthorized = false ↔
      Run
        (Guarded
          (Guarded (Fires (timedOperate? auth)) (KeepsBootstrap agentId))
          (LeavesWindow auth agentId presentedAt))
        used later final := by
  obtain ⟨row, found, isUsed, hash⟩ := reuse.marked
  obtain ⟨start, earlier, started, run⟩ := reuse.before
  have stampedUsed : StampedRegistry agentId used :=
    stampedRegistry_of_run started run
  have positive := stampedUsed.started
  have initially :
      row.raisedWithin auth.recoveryWindowSeconds presentedAt = false :=
    raisedWithin_of_later (stampedUsed.stamped found) le_rfl past
  obtain ⟨last, holds, outside⟩ :=
    HoldsUsed.run positive reuse.after ⟨found, hash, isUsed, stampedUsed⟩
  have stamped := holds.stamped.stamped holds.found
  have marked : filledInt last.bootstrapUsedAt = true := by
    simp only [filledInt, holds.used, Option.any_some, decide_eq_true_eq]
    omega
  have closed : last.bootstrapOpen presentedAt = false := by
    rw [CredentialsRow.bootstrapOpen, marked]
    rfl
  have noSecret :
      matchesHash last.secretHash (auth.hashToken token.text) = false := by
    rw [stamped.noSecret]
    rfl
  have recovery :
      last.recoveryOpen auth.recoveryWindowSeconds presentedAt =
        last.raisedWithin auth.recoveryWindowSeconds presentedAt := by
    rw [CredentialsRow.recoveryOpen, marked, CredentialsRow.raisedWithin]
    cases rotated : last.secretRotatedAt with
    | none =>
      simp [filledInt]
    | some rotatedAt =>
      obtain ⟨nonzero, _, raised⟩ := stamped.past rotated
      have stampedAt : rotatedAt ≠ 0 := by
        omega
      simp [filledInt, raised, stampedAt]
  have stored := matchesHash_stored lawful holds.hash
  rw [authorizeAgent_fst, holds.found, Bool.eq_false_iff, ne_eq,
    authorizeDecision_bootstrapToken_iff token stored, closed, noSecret,
    recovery]
  refine Iff.trans ?_ (outside.trans (and_iff_right initially))
  simp

/-! ### A rotation after the token's use -/

/-- The token of the second deployment is presented. -/
def secondDeployment : List RegistryOperation :=
  firstDeployment ++
    [.setBootstrapToken "agent-1"
        (redeploymentAuth.hashToken secondBootstrapToken.text) 1700691200
        1700604800,
      .authorizeAgent "agent-1" (some secondBootstrapToken.text)
        1700604850 secondJti]

/-- The credentials before the new access token is first accepted. -/
def UnusedRow (row : CredentialsRow) : Prop :=
  row.tokenVersion = 2 ∧
    row.bootstrapUsedAt = none ∧
    row.secretRotatedAt = some 1700604850 ∧
    row.bootstrapTokenHash =
      some (redeploymentAuth.hashToken secondBootstrapToken.text)

instance (row : CredentialsRow) : Decidable (UnusedRow row) := by
  unfold UnusedRow
  infer_instance

/-- The access token of the second deployment is accepted. -/
theorem secondDeployment_used :
    ∃ used row,
      UsedToken redeploymentAuth "agent-1" secondBootstrapToken used used
          [] ∧
        used.clock = 1700604860 ∧
        used.db.registered "agent-1" = true ∧
        used.db.getAgentCredentials "agent-1" = some row ∧
        row.bootstrapUsedAt = some 1700604860 ∧
        row.bootstrapTokenHash =
          some (redeploymentAuth.hashToken secondBootstrapToken.text) := by
  obtain ⟨unused, run, reached⟩ :=
    exists_run_of_execute
      (show
        (execute (timedOperate? redeploymentAuth)
            { db := .empty, clock := 1700000000 } secondDeployment).any
          (fun sys : TimedRegistry =>
            decide (sys.clock = 1700604850) &&
              sys.db.registered "agent-1" &&
              (sys.db.getAgentCredentials "agent-1").any fun row =>
                decide (UnusedRow row)) =
        true by decide)
  rw [Bool.and_eq_true, Bool.and_eq_true, decide_eq_true_eq,
    Option.any_eq_true] at reached
  obtain ⟨⟨isClock, registered⟩, row, found, holds⟩ := reached
  rw [decide_eq_true_eq] at holds
  have decided :
      authorizeDecision redeploymentAuth "agent-1" (some row)
          (some (redeploymentAuth.issueAgentAccessToken "agent-1"
            row.tokenVersion 1700604850 secondJti))
          1700604860 secondJti =
        (.authorized .jwt none, markUsedOnce row) :=
    authorizeDecision_issued redeploymentLibrary_lawful
      (by rw [holds.1]; decide) rfl
  have unmarked : markUsedOnce row = some .markUsed := by
    rw [markUsedOnce, holds.2.1]
    rfl
  have marks :
      unused.db.authorizeAgent redeploymentAuth "agent-1"
          (some (redeploymentAuth.issueAgentAccessToken "agent-1"
            row.tokenVersion 1700604850 secondJti))
          1700604860 secondJti =
        (.authorized .jwt none,
          unused.db.applyUpdate "agent-1" 1700604860 (some .markUsed)) := by
    unfold authorizeAgent
    dsimp only
    rw [found, decided, unmarked]
  let used : TimedRegistry :=
    { db := unused.db.applyUpdate "agent-1" 1700604860 (some .markUsed)
      clock := 1700604860 }
  have fired :
      Fires (timedOperate? redeploymentAuth) unused
        (.authorizeAgent "agent-1"
          (some (redeploymentAuth.issueAgentAccessToken "agent-1"
            row.tokenVersion 1700604850 secondJti))
          1700604860 secondJti)
        used := by
    simp only [Fires, timedOperate?, RegistryOperation.time,
      Option.getD_some, isClock, operate, marks]
    rfl
  have isFound :
      used.db.getAgentCredentials "agent-1" =
        some (row.updated 1700604860 .markUsed) :=
    getAgentCredentials_applyUpdate found 1700604860 .markUsed
  refine ⟨used, row.updated 1700604860 .markUsed, ?_, rfl, registered,
    isFound, rfl, holds.2.2.2⟩
  exact
    { marked := ⟨_, isFound, rfl, holds.2.2.2⟩
      before :=
        ⟨1700000000, _, by decide, run.append (.single fired)⟩
      after := .nil used }

/-- Without a rotation, the token is rejected after the window. -/
theorem secondBootstrapToken_rejected :
    ∃ used,
      UsedToken redeploymentAuth "agent-1" secondBootstrapToken used used
          [] ∧
        used.clock = 1700604860 ∧
        (used.db.authorizeAgent redeploymentAuth "agent-1"
            (some secondBootstrapToken.text) 1700700000
            secondJti).1.isAuthorized = false := by
  obtain ⟨used, row, reuse, isClock, _⟩ := secondDeployment_used
  refine ⟨used, reuse, isClock, ?_⟩
  exact
    (usedToken_rejected_iff redeploymentLibrary_lawful reuse
      (by rw [isClock]; decide)).mpr (.nil used)

/-- With a rotation in between, it is accepted again. -/
theorem not_boundedReuse :
    ¬ BoundedReuse redeploymentAuth "agent-1" := by
  intro bounded
  obtain ⟨used, row, reuse, isClock, registered, found, usedAt, hash⟩ :=
    secondDeployment_used
  let rotated : TimedRegistry :=
    { db := used.db.rotateAgentTokenVersion "agent-1" 1700640000
      clock := 1700640000 }
  have fired :
      Fires (timedOperate? redeploymentAuth) used
        (.rotateAgentTokenVersion "agent-1" 1700640000) rotated := by
    simp only [Fires, timedOperate?, RegistryOperation.time,
      Option.getD_some, isClock]
    rfl
  have extended :
      UsedToken redeploymentAuth "agent-1" secondBootstrapToken used
        rotated [.rotateAgentTokenVersion "agent-1" 1700640000] :=
    { reuse with after := .single ⟨fired, trivial⟩ }
  obtain ⟨next, isNext, stepped⟩ :
      ∃ next,
        rotated.db.getAgentCredentials "agent-1" = some next ∧
          RowStep redeploymentAuth used.db "agent-1" row
            (.rotateAgentTokenVersion "agent-1" 1700640000) next :=
    rotateAgentTokenVersion_row found "agent-1" 1700640000
  have rejected :
      (rotated.db.authorizeAgent redeploymentAuth "agent-1"
        (some secondBootstrapToken.text) 1700700000
        secondJti).1.isAuthorized = false :=
    bounded extended (show (1700640000 : Int) ≤ 1700700000 by decide)
      (by rw [isClock]; decide)
  cases stepped with
  | unchanged unrotated _ =>
    rw [unrotated rfl] at registered
    cases registered
  | rotated now _ =>
    rw [authorizeAgent_fst, isNext, Bool.eq_false_iff] at rejected
    apply rejected
    apply (authorizeDecision_bootstrapToken_iff secondBootstrapToken ?_).mpr
    · have raised : 0 < max row.tokenVersion 0 + 1 := by
        omega
      refine .inr (.inl ?_)
      simp [CredentialsRow.recoveryOpen, usedAt, filledInt, raised,
        redeploymentAuth]
    · exact matchesHash_stored redeploymentLibrary_lawful hash

end RpaPlatform.Agents
