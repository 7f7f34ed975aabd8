import RpaPlatform.AgentSockets

namespace RpaPlatform.Agents

open Transition

/-!
# The agents that sessions write

A session stores the row of an agent that it has presented: while it is being
authorized, while it reports, and when it is torn down.  It presents an agent
with a handshake, and in no other way.
-/

/-- Whether a session has not started its clean-up. -/
def SessionPoint.isOpen : SessionPoint → Bool
  | .cleaning _ _ => false
  | .ended _ => false
  | _ => true

/-- The agent that a call of `upsert_agent` has still to store. -/
def UpsertCall.toStore? (call : UpsertCall) : UpsertStage → Option String
  | .committing => none
  | _ => some call.agentId

namespace AgentSession

variable (session : AgentSession)

/-- The agent that a handler or the clean-up is busy with. -/
def busyWith : Option String :=
  match session.point with
  | .authorizing clientId => some clientId
  | .greeting clientId => some clientId
  | .replacing clientId => some clientId
  | .matching _ => some (session.connection.clientId.getD "")
  | .upserting call stage _ => call.toStore? stage
  | .cleaning call stage => call.toStore? stage
  | _ => none

def Presents (agentId : String) : Prop :=
  session.busyWith = some agentId ∨
    session.connection.clientId = some agentId ∧ session.point.isOpen = true

instance (agentId : String) : Decidable (session.Presents agentId) :=
  inferInstanceAs (Decidable (_ ∨ _))

end AgentSession

/-- The rows of agents are as before, but for one that is presented. -/
def WritesPresented
    (before after : SocketSystem)
    (session : AgentSession) : Prop :=
  after.registry.agents = before.registry.agents ∨
    ∃ call existing,
      session.Presents call.agentId ∧
        after.registry.agents = (before.write call existing).registry.agents

/-- A session goes on; what it presents anew is in a handshake. -/
structure StaysWithin
    (before after : SocketSystem)
    (socket : Nat)
    (session : AgentSession)
    (action : SocketAction) : Prop where
  goesOn :
    ∃ next : AgentSession,
      (after.sessions = before.sessions.set socket next ∨
          after.sessions = before.sessions ∧ next = session) ∧
        ∀ agentId, next.Presents agentId →
          session.Presents agentId ∨ action = .receiveHandshake socket agentId
  writes : WritesPresented before after session

section Steps

variable
    {library : TextLibrary}
    {before after : SocketSystem}
    {socket : Nat}
    {session : AgentSession}
    {action : SocketAction}

variable
    {agentId : String}
    {call : UpsertCall}

theorem WritesPresented.getAgent
    (writes : WritesPresented before after session)
    (absent : ¬ session.Presents agentId) :
    after.registry.getAgent agentId = before.registry.getAgent agentId := by
  unfold AgentRegistry.getAgent
  rcases writes with same | ⟨call, existing, presents, wrote⟩
  · rw [same]
  · rw [wrote]
    refine (KeyedTable.find?_upsert _ _ _ _ agentId).trans (if_neg ?_)
    exact fun isOwn => absent (isOwn ▸ presents)

theorem WritesPresented.keepsRows
    (writes : WritesPresented before after session)
    (present : (before.registry.getAgent agentId).isSome = true) :
    (after.registry.getAgent agentId).isSome = true := by
  unfold AgentRegistry.getAgent at present ⊢
  rcases writes with same | ⟨call, existing, _, wrote⟩
  · rwa [same]
  · rw [wrote]
    refine
      (congrArg Option.isSome
        (KeyedTable.find?_upsert _ _ _ _ agentId)).trans ?_
    split
    · rfl
    · exact present

theorem staysWithin_goTo
    (middle : SocketSystem)
    {point : SessionPoint}
    (sameSessions : middle.sessions = before.sessions)
    (writes : WritesPresented before middle session)
    (staysOpen : point.isOpen = true → session.point.isOpen = true)
    (busy :
      ∀ agentId,
        { session with point }.busyWith = some agentId →
        session.Presents agentId ∨ action = .receiveHandshake socket agentId) :
    StaysWithin before (middle.goTo socket session point) socket session
      action := by
  refine ⟨⟨{ session with point }, .inl ?_, ?_⟩, writes⟩
  · rw [← sameSessions]
    rfl
  · rintro agentId (isBusy | ⟨isClient, isOpen⟩)
    · exact busy agentId isBusy
    · exact .inl (.inr ⟨isClient, staysOpen isOpen⟩)

theorem staysWithin_startUpsert
    (middle : SocketSystem)
    (sameSessions : middle.sessions = before.sessions)
    (sameRegistry : middle.registry = before.registry)
    (isOpen : session.point.isOpen = true)
    (presents : session.Presents agentId)
    (change : AgentChange)
    (now : Int)
    (leaves : Bool) :
    StaysWithin before
      (middle.startUpsert socket session agentId change now leaves) socket
      session action := by
  have sameRows : middle.registry.agents = before.registry.agents := by
    rw [sameRegistry]
  refine
    staysWithin_goTo middle sameSessions (.inl sameRows) (fun _ => isOpen) ?_
  intro other isBusy
  exact .inl (Option.some.inj isBusy ▸ presents)

theorem staysWithin_end
    (middle : SocketSystem)
    (cleanedUp : Bool)
    (sameSessions : middle.sessions = before.sessions)
    (sameRegistry : middle.registry = before.registry) :
    StaysWithin before (middle.goTo socket session (.ended cleanedUp)) socket
      session action := by
  have sameRows : middle.registry.agents = before.registry.agents := by
    rw [sameRegistry]
  refine staysWithin_goTo middle sameSessions (.inl sameRows) ?_ ?_
  · intro isOpen
    cases isOpen
  · intro other isBusy
    cases isBusy

theorem staysWithin_startCleanup
    (isOpen : session.point.isOpen = true)
    (now : Int) :
    StaysWithin before (before.startCleanup socket session now) socket
      session action := by
  unfold SocketSystem.startCleanup
  split
  · exact staysWithin_end _ _ rfl rfl
  · rename_i agentId isClient
    obtain ⟨isId, _⟩ := Option.filter_eq_some_iff.mp isClient
    refine staysWithin_goTo before rfl (.inl rfl) ?_ ?_
    · exact fun _ => isOpen
    · intro other isBusy
      exact .inl (.inr ⟨Option.some.inj isBusy ▸ isId, isOpen⟩)

theorem staysWithin_receiving (isOpen : session.point.isOpen = true) :
    StaysWithin before (before.goTo socket session .receiving) socket session
      action := by
  refine staysWithin_goTo before rfl (.inl rfl) (fun _ => isOpen) ?_
  intro other isBusy
  cases isBusy

theorem staysWithin_judge
    {clientId : String}
    (isAuthorizing : session.point = .authorizing clientId)
    (now : Int)
    (verdict : Verdict) :
    StaysWithin before (before.judge socket session clientId now verdict)
      socket session action := by
  have isOpen : session.point.isOpen = true := by
    rw [isAuthorizing]
    rfl
  have presents : session.Presents clientId := by
    left
    rw [AgentSession.busyWith, isAuthorizing]
  cases verdict with
  | accepted =>
    refine ⟨⟨_, .inl rfl, ?_⟩, .inl rfl⟩
    rintro agentId (isBusy | ⟨isClient, _⟩)
    · exact .inl (Option.some.inj isBusy ▸ presents)
    · exact .inl (Option.some.inj isClient ▸ presents)
  | rejected expired =>
    cases expired with
    | none =>
      exact staysWithin_startCleanup isOpen now
    | some deploymentId =>
      exact staysWithin_startUpsert before rfl rfl isOpen presents _ now true
  | unexpectedHost expected =>
    exact staysWithin_startUpsert before rfl rfl isOpen presents _ now true
  | raises =>
    exact staysWithin_receiving isOpen

theorem staysWithin_register
    {clientId : String}
    (isGreeting : session.point = .greeting clientId)
    (now : Int) :
    StaysWithin before (before.register socket session clientId now) socket
      session action := by
  have isOpen : session.point.isOpen = true := by
    rw [isGreeting]
    rfl
  have presents : session.Presents clientId := by
    left
    rw [AgentSession.busyWith, isGreeting]
  let registered :=
    before.withRuntime (before.runtime.registerAgent clientId socket now)
  have online :
      StaysWithin before
        (registered.recordOnline socket session clientId now) socket session
        action := by
    have sameSessions : registered.sessions = before.sessions := rfl
    have sameRegistry : registered.registry = before.registry := rfl
    exact
      staysWithin_startUpsert registered sameSessions sameRegistry isOpen
        presents _ now false
  unfold SocketSystem.register
  dsimp only
  split
  · exact online
  · split
    · exact online
    · refine staysWithin_goTo registered rfl (.inl rfl) (fun _ => isOpen) ?_
      intro other isBusy
      exact .inl (Option.some.inj isBusy ▸ presents)

theorem staysWithin_heartbeat
    (isReceiving : session.point = .receiving)
    (payload : HeartbeatData)
    (now : Int) :
    StaysWithin before
      (before.heartbeat library socket session payload now) socket session
      action := by
  have isOpen : session.point.isOpen = true := by
    rw [isReceiving]
    rfl
  unfold SocketSystem.heartbeat
  split
  · dsimp only
    split
    · exact ⟨⟨session, .inr ⟨rfl, rfl⟩, fun _ => .inl⟩, .inl rfl⟩
    · rename_i reported
      have named : session.connection.clientId.all (· = "") = false := by
        simp only [Bool.or_eq_true, not_or, Bool.not_eq_true] at reported
        exact reported.2
      refine staysWithin_goTo
          { before with
            monitoring :=
              (mergeHeartbeat library payload now
                before.monitoring).changed }
          rfl (.inl rfl) (fun _ => isOpen) ?_
      intro other isBusy
      left
      right
      refine ⟨?_, isOpen⟩
      have same : session.connection.clientId.getD "" = other :=
        Option.some.inj isBusy
      cases isClient : session.connection.clientId with
      | none =>
        rw [isClient] at named
        cases named
      | some clientId =>
        rw [isClient] at same
        exact congrArg some same
  · exact staysWithin_startCleanup isOpen now

theorem staysWithin_record
    {metrics stored : JsonObject}
    (isMatching : session.point = .matching metrics)
    (now : Int)
    (check : HostCheck) :
    StaysWithin before
      (before.record socket session
        (session.connection.clientId.getD "") stored now check)
      socket session action := by
  have isOpen : session.point.isOpen = true := by
    rw [isMatching]
    rfl
  have presents : session.Presents (session.connection.clientId.getD "") := by
    left
    rw [AgentSession.busyWith, isMatching]
  cases check with
  | expected hostname =>
    exact staysWithin_startUpsert before rfl rfl isOpen presents _ now false
  | unexpected hostname =>
    exact staysWithin_startUpsert before rfl rfl isOpen presents _ now true
  | raises =>
    exact staysWithin_receiving isOpen

theorem staysWithin_write
    (presents : session.Presents call.agentId)
    (existing : Option AgentRecord)
    {point : SessionPoint}
    (staysOpen : point.isOpen = true → session.point.isOpen = true)
    (isStored : { session with point }.busyWith = none) :
    StaysWithin before
      ((before.write call existing).goTo socket session point) socket session
      action := by
  refine
    staysWithin_goTo (before.write call existing) rfl
      (.inr ⟨call, existing, presents, rfl⟩) staysOpen ?_
  intro other isBusy
  cases isStored.symm.trans isBusy

theorem staysWithin_stepUpsert
    {stage : UpsertStage}
    {leaves : Bool}
    (isUpserting : session.point = .upserting call stage leaves)
    (now : Int) :
    StaysWithin before
      (before.stepUpsert socket session call leaves now stage) socket
      session action := by
  have isOpen : session.point.isOpen = true := by
    rw [isUpserting]
    rfl
  have presents :
      ∀ agentId, call.toStore? stage = some agentId →
        session.Presents agentId := by
    intro agentId isBusy
    left
    rw [AgentSession.busyWith, isUpserting]
    exact isBusy
  cases stage with
  | reading =>
    refine staysWithin_goTo before rfl (.inl rfl) (fun _ => isOpen) ?_
    exact fun other isBusy => .inl (presents other isBusy)
  | writing existing =>
    exact staysWithin_write (presents _ rfl) existing (fun _ => isOpen) rfl
  | committing =>
    cases leaves with
    | true =>
      exact staysWithin_startCleanup isOpen now
    | false =>
      exact staysWithin_receiving isOpen

theorem staysWithin_stepCleanup
    {stage : UpsertStage}
    (isCleaning : session.point = .cleaning call stage)
    (now : Int) :
    StaysWithin before (before.stepCleanup socket session call now stage)
      socket session action := by
  have presents :
      ∀ agentId, call.toStore? stage = some agentId →
        session.Presents agentId := by
    intro agentId isBusy
    left
    rw [AgentSession.busyWith, isCleaning]
    exact isBusy
  cases stage with
  | reading =>
    refine staysWithin_goTo before rfl (.inl rfl) ?_ ?_
    · intro isOpen
      cases isOpen
    · exact fun other isBusy => .inl (presents other isBusy)
  | writing existing =>
    refine staysWithin_write (presents _ rfl) existing ?_ rfl
    intro isOpen
    cases isOpen
  | committing =>
    exact staysWithin_end _ _ rfl rfl

/-- Every step of a session stays with the agents that it presents. -/
theorem staysWithin_sessionStep
    (isSocket : action.socket = some socket)
    (taken : sessionStep? library before socket session action = some after) :
    StaysWithin before after socket session action := by
  cases sessionTaken taken with
  | receiveHandshake isReceiving =>
    cases isSocket
    refine staysWithin_goTo before rfl (.inl rfl) ?_ ?_
    · intro _
      rw [isReceiving]
      rfl
    · intro other isBusy
      exact .inr (Option.some.inj isBusy ▸ rfl)
  | @authorize _ _ verdict now isAuthorizing =>
    exact staysWithin_judge isAuthorizing now verdict
  | @greeted _ _ sent now isGreeting =>
    cases sent with
    | true =>
      exact staysWithin_register isGreeting now
    | false =>
      apply staysWithin_receiving
      rw [isGreeting]
      rfl
  | @replaced _ clientId now isReplacing =>
    have presents : session.Presents clientId := by
      left
      rw [AgentSession.busyWith, isReplacing]
    refine staysWithin_startUpsert before rfl rfl ?_ presents _ now false
    rw [isReplacing]
    rfl
  | @receiveHeartbeat _ payload now isReceiving =>
    exact staysWithin_heartbeat isReceiving payload now
  | @checkHost _ _ check now isMatching =>
    exact staysWithin_record isMatching now check
  | @upsert _ done now _ _ _ isUpserting =>
    cases done with
    | true =>
      exact staysWithin_stepUpsert isUpserting now
    | false =>
      apply staysWithin_receiving
      rw [isUpserting]
      rfl
  | @clean _ done now _ _ isCleaning =>
    cases done with
    | true =>
      exact staysWithin_stepCleanup isCleaning now
    | false =>
      exact staysWithin_end before false rfl rfl
  | @disconnect _ now notCleaning notEnded =>
    refine staysWithin_startCleanup ?_ now
    cases isPoint : session.point with
    | cleaning call stage =>
      exact (notCleaning call stage isPoint).elim
    | ended cleanedUp =>
      exact (notEnded cleanedUp isPoint).elim
    | _ =>
      rfl
  | resume =>
    exact ⟨⟨session, .inr ⟨rfl, rfl⟩, fun _ => .inl⟩, .inl rfl⟩

end Steps

end RpaPlatform.Agents
