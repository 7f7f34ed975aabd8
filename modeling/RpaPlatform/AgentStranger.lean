import RpaPlatform.AgentSession

namespace RpaPlatform.Agents

/-!
# The handshake of a stranger

A peer that claims to be an agent without holding any of its credentials.
The reason that it is rejected for is computed from the stored credentials:
where an unused bootstrap token has expired, any token that does not look like
a JWT is told so, and the agent's deployment and the agent itself are marked
as expired and offline.
-/

namespace CredentialsRow

def guarded (row : CredentialsRow) : Bool :=
  filledText row.bootstrapTokenHash || filledText row.secretHash ||
    decide (0 < row.tokenVersion)

/-- The expiry of the bootstrap token is the reason for a rejection. -/
def reportsExpiry
    (row : CredentialsRow)
    (token : Option String)
    (now : Int) : Bool :=
  match token.filter (· ≠ "") with
  | none => false
  | some text => !looksLikeJwt text && row.bootstrapExpired now

end CredentialsRow

/--
A token that is none of an agent's: neither hash that is stored is its hash,
and it is no JWT that the agent's version lets pass.
-/
structure Stranger
    (auth : AgentAuth)
    (agentId : String)
    (row : CredentialsRow)
    (now : Int)
    (text : String) : Prop where
  notBootstrap : row.bootstrapTokenHash ≠ some (auth.hashToken text)
  notSecret : row.secretHash ≠ some (auth.hashToken text)
  notJwt :
    looksLikeJwt text = true →
    ∀ claims,
      auth.verifyAgentAccessToken text agentId row.tokenVersion now ≠
        .verified claims

/-- What a stranger's authorization comes to. -/
inductive StrangerDecision
    (row : CredentialsRow)
    (token : Option String)
    (now : Int) : AuthResult × Option CredentialsUpdate → Prop where
  | raised :
      row.reportsExpiry token now = false →
      StrangerDecision row token now (.raised, none)
  | rejected (reason : String) :
      (reason = "bootstrap token expired" ↔
        row.reportsExpiry token now = true) →
      StrangerDecision row token now (.rejected reason, none)

section Decision

variable
    {auth : AgentAuth}
    {agentId : String}
    {row : CredentialsRow}
    {token : Option String}
    {now : Int}

theorem authorizeOpaque_stranger
    {text : String}
    (stranger : Stranger auth agentId row now text)
    (jti : String) :
    authorizeOpaque auth agentId row text now jti =
      (.rejected
          (if row.bootstrapExpired now then "bootstrap token expired"
          else "invalid bearer token"),
        none) := by
  have notBootstrap :
      matchesHash row.bootstrapTokenHash (auth.hashToken text) = false := by
    simp [matchesHash, stranger.notBootstrap]
  have notSecret :
      matchesHash row.secretHash (auth.hashToken text) = false := by
    simp [matchesHash, stranger.notSecret]
  unfold authorizeOpaque
  dsimp only
  rw [notBootstrap, notSecret]
  simp only [Bool.false_eq_true, if_false, Bool.false_and]
  split
  · rfl
  · rfl

theorem reportsExpiry_missing
    (missing : token.filter (· ≠ "") = none) :
    row.reportsExpiry token now = false := by
  rw [CredentialsRow.reportsExpiry, missing]

theorem reportsExpiry_presented
    {text : String}
    (presented : token.filter (· ≠ "") = some text) :
    row.reportsExpiry token now =
      (!looksLikeJwt text && row.bootstrapExpired now) := by
  rw [CredentialsRow.reportsExpiry, presented]

theorem authorizeDecision_stranger
    (isGuarded : row.guarded = true)
    (stranger :
      ∀ text, token.filter (· ≠ "") = some text →
        Stranger auth agentId row now text)
    (jti : String) :
    StrangerDecision row token now
      (authorizeDecision auth agentId (some row) token now jti) := by
  unfold authorizeDecision
  dsimp only
  cases presented : token.filter (· ≠ "") with
  | none =>
    have silent : row.reportsExpiry token now = false :=
      reportsExpiry_missing presented
    rw [CredentialsRow.guarded] at isGuarded
    dsimp only
    rw [if_pos isGuarded]
    exact .rejected _ (by simp [silent])
  | some text =>
    have holds := stranger text presented
    have reports : row.reportsExpiry token now = _ :=
      reportsExpiry_presented presented
    dsimp only
    cases isJwt : looksLikeJwt text with
    | true =>
      rw [isJwt, Bool.not_true, Bool.false_and] at reports
      rw [if_pos rfl, authorizeJwt]
      split
      · exact .rejected _ (by simp [reports])
      · cases checked :
            auth.verifyAgentAccessToken text agentId row.tokenVersion now with
        | verified claims =>
          exact absurd checked (holds.notJwt isJwt claims)
        | refused error =>
          exact .rejected _ (by simp [reports])
        | raised =>
          exact .raised reports
    | false =>
      rw [isJwt, Bool.not_false, Bool.true_and] at reports
      rw [if_neg Bool.false_ne_true, authorizeOpaque_stranger holds]
      refine .rejected _ ?_
      rw [reports]
      cases row.bootstrapExpired now with
      | true =>
        simp
      | false =>
        simp

end Decision

/-! ### What is written -/

/-- The registry after a rejection that expires a deployment. -/
def AgentRegistry.expired
    (registry : AgentRegistry)
    (clientId : String)
    (deployment : DeploymentRow)
    (now : Int) : AgentRegistry :=
  (registry.updateDeployment deployment.id
      { status := some .expiredBootstrap
        error := some bootstrapExpiryError
        completedAt := some now }).upsertAgent
    clientId
    { status := some .bootstrapExpired
      connectionStatus := some .offline
      lastDeploymentId := some deployment.id
      lastSeenAt := some now }
    now

/-- The expiry has been recorded already, in the same second. -/
structure ExpiryRecorded
    (registry : AgentRegistry)
    (clientId : String)
    (deployment : DeploymentRow)
    (now : Int) : Prop where
  deploymentStatus : deployment.status = .expiredBootstrap
  error : deployment.error = some bootstrapExpiryError
  completedAt : deployment.completedAt = some now
  agent :
    ∃ agent,
      registry.getAgent clientId = some agent ∧
        agent.status = .bootstrapExpired ∧
        agent.connectionStatus = .offline ∧
        (deployment.id = "" ∨ agent.lastDeploymentId = some deployment.id) ∧
        agent.lastSeenAt = some now ∧
        agent.updatedAt = now

namespace AgentRegistry

variable
    {registry : AgentRegistry}
    {deployment : DeploymentRow}

theorem find?_latestDeployment
    {agentId : String}
    (isLatest :
      registry.getLatestDeploymentForAgent agentId = some deployment) :
    registry.deployments.find? deployment.id = some deployment := by
  have member := mem_of_latest isLatest
  rw [KeyedTable.find?_eq_some_iff]
  exact ⟨(List.mem_filter.mp member).1, rfl⟩

theorem updateDeployment_eq_self_iff
    (found : registry.deployments.find? deployment.id = some deployment)
    (change : DeploymentChange) :
    registry.updateDeployment deployment.id change = registry ↔
      deployment.changed change = deployment := by
  rw [← registry.deployments.modify_eq_self_iff found
    (·.changed change) fun _ => rfl]
  constructor
  · exact congrArg AgentRegistry.deployments
  · intro same
    unfold updateDeployment
    rw [same]

theorem writeAgent_eq_self_iff
    (registry : AgentRegistry)
    (row : AgentRecord) :
    registry.writeAgent row = registry ↔
      ∃ stored,
        registry.getAgent row.id = some stored ∧
          { row with id := stored.id, createdAt := stored.createdAt } =
            stored := by
  have rows :=
    registry.agents.upsert_eq_self_iff row
      (fun stored =>
        { row with id := stored.id, createdAt := stored.createdAt })
      fun _ => rfl
  unfold getAgent
  rw [← rows]
  constructor
  · exact congrArg AgentRegistry.agents
  · intro same
    unfold writeAgent
    rw [same]

theorem expired_eq_self
    {clientId : String}
    {now : Int} :
    registry.expired clientId deployment now = registry ↔
      registry.updateDeployment deployment.id
            { status := some .expiredBootstrap
              error := some bootstrapExpiryError
              completedAt := some now } =
          registry ∧
        registry.upsertAgent clientId
            { status := some .bootstrapExpired
              connectionStatus := some .offline
              lastDeploymentId := some deployment.id
              lastSeenAt := some now }
            now =
          registry := by
  constructor
  · intro same
    have deployments := congrArg AgentRegistry.deployments same
    have agents := congrArg AgentRegistry.agents same
    obtain ⟨agentTable, deploymentTable, credentialsTable⟩ := registry
    constructor
    · exact congrArg
        (AgentRegistry.mk agentTable · credentialsTable) deployments
    · exact congrArg
        (AgentRegistry.mk · deploymentTable credentialsTable) agents
  · rintro ⟨deployments, agents⟩
    unfold expired
    rw [deployments]
    exact agents

theorem upsertExpired_eq_self_iff
    {clientId deploymentId : String}
    {now : Int} :
    registry.upsertAgent clientId
          { status := some .bootstrapExpired
            connectionStatus := some .offline
            lastDeploymentId := some deploymentId
            lastSeenAt := some now }
          now =
        registry ↔
      ∃ agent,
        registry.getAgent clientId = some agent ∧
          agent.status = .bootstrapExpired ∧
          agent.connectionStatus = .offline ∧
          (deploymentId = "" ∨ agent.lastDeploymentId = some deploymentId) ∧
          agent.lastSeenAt = some now ∧
          agent.updatedAt = now := by
  unfold upsertAgent
  rw [writeAgent_eq_self_iff]
  refine exists_congr fun agent => and_congr_right fun found => ?_
  have stored : registry.getAgent clientId = some agent := found
  rw [stored]
  obtain ⟨id, hostname, displayName, status, connectionStatus, version,
    lastDeploymentId, metadata, createdAt, updatedAt, lastSeenAt⟩ := agent
  have remembered :
      ((some deploymentId).filter (· ≠ "")).or lastDeploymentId =
          lastDeploymentId ↔
        deploymentId = "" ∨ lastDeploymentId = some deploymentId := by
    by_cases unnamed : deploymentId = ""
    · simp [Option.filter, unnamed]
    · simp [Option.filter, unnamed, eq_comm]
  simp only [mergeAgent, orText, mergeMetadata, AgentRecord.mk.injEq,
    Option.getD_some, Option.getD_none, Option.some_or, ne_eq,
    not_true_eq_false, if_false, true_and]
  constructor
  · rintro ⟨status, connection, last, updated, seen⟩
    exact ⟨status.symm, connection.symm, remembered.mp last, seen.symm,
      updated.symm⟩
  · rintro ⟨status, connection, last, seen, updated⟩
    exact ⟨status.symm, connection.symm, remembered.mpr last,
      updated.symm, seen.symm⟩

theorem expired_eq_self_iff
    {clientId : String}
    {now : Int}
    (isLatest :
      registry.getLatestDeploymentForAgent clientId = some deployment) :
    registry.expired clientId deployment now = registry ↔
      ExpiryRecorded registry clientId deployment now := by
  rw [expired_eq_self, upsertExpired_eq_self_iff,
    updateDeployment_eq_self_iff (find?_latestDeployment isLatest)]
  obtain ⟨id, agentId, hostname, status, error, createdAt, completedAt⟩ :=
    deployment
  constructor
  · rintro ⟨changed, agent⟩
    simp only [DeploymentRow.changed, Option.getD_some, Option.some_or,
      DeploymentRow.mk.injEq, true_and] at changed
    exact ⟨changed.1.symm, changed.2.1.symm, changed.2.2.symm, agent⟩
  · intro recorded
    refine ⟨?_, recorded.agent⟩
    simp only [DeploymentRow.changed, Option.getD_some, Option.some_or,
      DeploymentRow.mk.injEq, true_and]
    exact ⟨recorded.deploymentStatus.symm, recorded.error.symm,
      recorded.completedAt.symm⟩

end AgentRegistry

section Handshake

open SessionCoroutine

variable
    {context : LifecycleContext}
    {data : HandshakeData}
    {state : SessionState}
    {row : CredentialsRow}

theorem alone_rejectHandshake (clientId reason : String) :
    ((rejectHandshake clientId reason).alone state).1.server.registry =
      match
        state.server.registry.getLatestDeploymentForAgent clientId with
      | none =>
        state.server.registry
      | some deployment =>
        if reason = "bootstrap token expired" then
          state.server.registry.expired clientId deployment state.server.clock
        else
          state.server.registry := by
  unfold rejectHandshake
  rw [Coroutine.bind_eq, alone_bind_getLatestDeploymentForAgent]
  cases state.server.registry.getLatestDeploymentForAgent clientId with
  | none =>
    rfl
  | some deployment =>
    dsimp only
    by_cases expired : reason = "bootstrap token expired"
    · rw [recordExpiry, if_pos expired, if_pos expired]
      rfl
    · rw [recordExpiry, if_neg expired, if_neg expired]
      rfl

theorem alone_handleHandshake_stranger
    (found : state.server.registry.getAgentCredentials data.clientId = some row)
    (isGuarded : row.guarded = true)
    (stranger :
      ∀ text, context.authToken.filter (· ≠ "") = some text →
        Stranger context.auth data.clientId row state.server.clock text) :
    ((handleHandshake context data).alone state).1.server.registry =
      match
        state.server.registry.getLatestDeploymentForAgent data.clientId with
      | none =>
        state.server.registry
      | some deployment =>
        if row.reportsExpiry context.authToken state.server.clock then
          state.server.registry.expired data.clientId deployment
            state.server.clock
        else
          state.server.registry := by
  have decided :=
    authorizeDecision_stranger isGuarded stranger state.server.uuid
  unfold handleHandshake authorizeAgent
  rw [Coroutine.bind_eq, Coroutine.bind_eq, Coroutine.bind_assoc,
    alone_bind_query, found]
  rw [Coroutine.bind_eq, Coroutine.bind_assoc, Coroutine.alone_bind_read]
  dsimp only
  generalize
    authorizeDecision context.auth data.clientId (some row)
      context.authToken state.server.clock state.server.uuid = decision
    at decided
  cases decided with
  | raised silent =>
    rw [silent]
    cases state.server.registry.getLatestDeploymentForAgent data.clientId with
    | none =>
      rfl
    | some deployment =>
      rfl
  | rejected reason reports =>
    refine (alone_rejectHandshake data.clientId reason).trans ?_
    simp only [reports]

/-- The handshake of a stranger leaves every row of the registry alone. -/
def HarmlessStrangers (context : LifecycleContext) : Prop :=
  ∀ {data : HandshakeData} {state : SessionState} {row : CredentialsRow},
    state.server.registry.getAgentCredentials data.clientId = some row →
    row.guarded = true →
    (∀ text, context.authToken.filter (· ≠ "") = some text →
      Stranger context.auth data.clientId row state.server.clock text) →
    ((handleHandshake context data).alone state).1.server.registry =
      state.server.registry

/--
A stranger is harmless exactly when it is not told that a bootstrap token has
expired, or the expiry of the latest deployment, if there is one, has just
been recorded.
-/
theorem strangerHarmless_iff
    (found : state.server.registry.getAgentCredentials data.clientId = some row)
    (isGuarded : row.guarded = true)
    (stranger :
      ∀ text, context.authToken.filter (· ≠ "") = some text →
        Stranger context.auth data.clientId row state.server.clock text) :
    ((handleHandshake context data).alone state).1.server.registry =
        state.server.registry ↔
      row.reportsExpiry context.authToken state.server.clock = false ∨
        ∀ deployment,
          state.server.registry.getLatestDeploymentForAgent
              data.clientId = some deployment →
          ExpiryRecorded state.server.registry data.clientId deployment
            state.server.clock := by
  rw [alone_handleHandshake_stranger found isGuarded stranger]
  cases isLatest :
      state.server.registry.getLatestDeploymentForAgent data.clientId with
  | none =>
    simp
  | some deployment =>
    cases row.reportsExpiry context.authToken state.server.clock with
    | false =>
      simp
    | true =>
      simp [AgentRegistry.expired_eq_self_iff isLatest]

end Handshake

/-! ### An agent that is being redeployed -/

/-- A peer without any of the agent's credentials. -/
def strangerContext : LifecycleContext where
  auth := exampleAuth
  library := asciiTextLibrary
  socket := 7
  authToken := some "wrong"
  setWindowTracking _ := .finished ()

/-- The agent's credentials, with a bootstrap token for a redeployment. -/
def redeployingRow : CredentialsRow where
  agentId := "agent-1"
  bootstrapTokenHash := some (exampleAuth.hashToken exampleBootstrapToken)
  bootstrapExpiresAt := some 1700086400
  secretRotatedAt := some 1690000000
  tokenVersion := 1
  updatedAt := 1700000000

/-- The agent is online; its redeployment has been prepared. -/
def redeployingRegistry : AgentRegistry where
  agents :=
    { rows :=
        [{ id := "agent-1"
           status := .active
           connectionStatus := .online
           createdAt := 1690000000
           updatedAt := 1700086460 }]
      distinct := List.nodup_singleton _ }
  deployments :=
    { rows :=
        [{ id := "deployment-2"
           agentId := "agent-1"
           hostname := ""
           status := .ready
           createdAt := 1700000000 }]
      distinct := List.nodup_singleton _ }
  credentials :=
    { rows := [redeployingRow], distinct := List.nodup_singleton _ }

/-- A peer connects while the agent does, at a time. -/
def redeployingState (clock : Int) : SessionState where
  server :=
    { registry := redeployingRegistry
      monitoring :=
        { runtime := { activeAgents := [("agent-1", 3)] } }
      tasks := .empty
      logs := fun _ => none
      clock
      uuid := firstJti }

theorem redeploying_stranger (clock : Int) :
    ∀ text, strangerContext.authToken.filter (· ≠ "") = some text →
      Stranger strangerContext.auth "agent-1" redeployingRow clock text := by
  intro text presented
  have wrong : text = "wrong" := by
    have same : some "wrong" = some text := presented
    exact (Option.some.inj same).symm
  subst wrong
  refine ⟨?_, nofun, ?_⟩
  · decide
  · intro isJwt
    have notJwt : looksLikeJwt "wrong" = false := by
      decide
    rw [notJwt] at isJwt
    cases isJwt

/-- Before the bootstrap token has expired, the stranger is harmless. -/
theorem unexpiredStranger_harmless :
    ((SessionCoroutine.handleHandshake strangerContext
            { clientId := "agent-1" }).alone
          (redeployingState 1700000100)).1.server.registry =
      redeployingRegistry :=
  (strangerHarmless_iff rfl rfl (redeploying_stranger _)).mpr (.inl (by decide))

/-- The agent is online and is marked as offline and expired. -/
theorem not_harmlessStrangers : ¬ HarmlessStrangers strangerContext := by
  intro harmless
  have same :
      ((SessionCoroutine.handleHandshake strangerContext
            { clientId := "agent-1" }).alone
          (redeployingState 1700086500)).1.server.registry =
        redeployingRegistry :=
    harmless rfl rfl (redeploying_stranger _)
  have marked :
      (((SessionCoroutine.handleHandshake strangerContext
              { clientId := "agent-1" }).alone
            (redeployingState
              1700086500)).1.server.registry.getAgent "agent-1").any
          (fun agent =>
            decide (agent.connectionStatus = .offline)) = true := by
    decide
  rw [same] at marked
  cases marked

end RpaPlatform.Agents
