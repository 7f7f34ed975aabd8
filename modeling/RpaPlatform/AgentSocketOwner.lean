import RpaPlatform.AgentSockets

namespace RpaPlatform.Agents

open Transition

/-!
# The agents that a websocket is registered for

Every handshake that is accepted registers its websocket for the client id
that it names, and a session may present itself more than once.  The clean-up
unregisters the websocket for the last of these client ids alone.
-/

namespace SocketSystem

def active (sys : SocketSystem) (agentId : String) : Option Nat :=
  sys.runtime.activeAgents.lookup agentId

/-- Whether the clean-up of a websocket's session has run. -/
def cleanedUp (sys : SocketSystem) (socket : Nat) : Bool :=
  sys.sessions[socket]?.any fun session =>
    match session.point with
    | .ended cleanedUp => cleanedUp
    | _ => false

theorem cleanedUp_iff
    {sys : SocketSystem}
    {socket : Nat} :
    sys.cleanedUp socket = true ↔
      ∃ session,
        sys.sessions[socket]? = some session ∧ session.point = .ended true := by
  unfold cleanedUp
  rw [Option.any_eq_true]
  refine exists_congr fun session => and_congr_right fun _ => ?_
  split
  · rename_i cleanedUp ended
    rw [ended, SessionPoint.ended.injEq]
  · rename_i other
    exact ⟨nofun, fun ended => (other true ended).elim⟩

end SocketSystem

/--
In every state that is reached a websocket is registered for at most one
agent, and for none once the clean-up of its session has run.
-/
def OneSocketOneAgent
    (step : SocketSystem → SocketAction → SocketSystem → Prop) : Prop :=
  ∀ {registry : AgentRegistry} {final : SocketSystem}
    {actions : List SocketAction},
    Run step (.started registry) actions final →
    ∀ socket,
      (∀ first second,
        final.active first = some socket →
        final.active second = some socket →
        first = second) ∧
      (final.cleanedUp socket = true →
        ∀ agentId, final.active agentId ≠ some socket)

/--
The condition under which a websocket does not leak.  A handshake is accepted
for a client id that is not empty, and on a websocket that is not registered
for another agent.
-/
def PresentsOneAgent (sys : SocketSystem) : SocketAction → Prop
  | .authorize socket .accepted _ =>
    ∀ session ∈ sys.sessions[socket]?,
      ∀ clientId,
        session.point = .authorizing clientId →
        clientId ≠ "" ∧
          ∀ agentId, sys.active agentId = some socket → agentId = clientId
  | _ => True

/-! ### What the operations do to the registered websockets -/

section Operations

variable
    {runtime : AgentRuntime}
    {agentId other : String}
    {socket found : Nat}
    {now : Int}

theorem active_registerAgent_cases
    (isFound :
      (runtime.registerAgent agentId socket now).activeAgents.lookup
          other =
        some found) :
    other = agentId ∧ found = socket ∨
      runtime.activeAgents.lookup other = some found := by
  unfold AgentRuntime.registerAgent AgentRuntime.markConnected at isFound
  dsimp only at isFound
  by_cases same : other = agentId
  · subst other
    rw [Dictionary.lookup_set_self] at isFound
    exact .inl ⟨rfl, (Option.some.inj isFound).symm⟩
  · rw [Dictionary.lookup_set_other same] at isFound
    exact .inr isFound

theorem active_erase
    (isFound :
      (Dictionary.erase agentId runtime.activeAgents).lookup other =
        some found) :
    other ≠ agentId ∧ runtime.activeAgents.lookup other = some found := by
  by_cases same : other = agentId
  · subst other
    rw [Dictionary.lookup_erase_self] at isFound
    cases isFound
  · rw [Dictionary.lookup_erase_other same] at isFound
    exact ⟨same, isFound⟩

/--
`unregister_agent` adds no entry, and leaves none of the client id that
refers to the websocket.
-/
theorem active_unregisterAgent
    {clientId : Option String}
    (isFound :
      (runtime.unregisterAgent clientId socket
          now).1.changed.activeAgents.lookup other =
        some found) :
    runtime.activeAgents.lookup other = some found ∧
      (clientId = some other → other ≠ "" → found ≠ socket) := by
  unfold AgentRuntime.unregisterAgent at isFound
  split at isFound
  · rename_i unnamed
    refine ⟨isFound, ?_⟩
    rintro rfl notEmpty
    simp [Option.filter_eq_none_iff, notEmpty] at unnamed
  · rename_i agentId named
    have same := (Option.filter_eq_some_iff.mp named).1
    split at isFound
    · rename_i inactive
      rw [activeAgents_resetAgentRuntimeState] at isFound
      refine ⟨isFound, ?_⟩
      rintro rfl _
      cases same
      rw [inactive] at isFound
      cases isFound
    · rename_i current registered
      split at isFound
      · rename_i different
        refine ⟨isFound, ?_⟩
        rintro rfl _
        cases same
        rw [registered] at isFound
        cases isFound
        exact different
      · rw [activeAgents_resetAgentRuntimeState] at isFound
        obtain ⟨elsewhere, kept⟩ := active_erase isFound
        refine ⟨kept, ?_⟩
        rintro rfl _
        cases same
        exact (elsewhere rfl).elim

end Operations

/-! ### The invariant -/

/--
A websocket is registered for the client id of its session alone, while that
has not been cleaned up; and a session that is being greeted is greeted under
its client id.
-/
structure SocketsOwned (sys : SocketSystem) : Prop where
  owned :
    ∀ agentId socket,
      sys.active agentId = some socket →
      agentId ≠ "" ∧
        ∃ session,
          sys.sessions[socket]? = some session ∧
            session.connection.clientId = some agentId ∧
            session.point ≠ .ended true
  greeted :
    ∀ (socket : Nat) session,
      sys.sessions[socket]? = some session →
      ∀ clientId,
        session.point = .greeting clientId →
        session.connection.clientId = some clientId ∧ clientId ≠ ""

namespace SocketsOwned

variable
    {library : TextLibrary}
    {before after : SocketSystem}
    {socket : Nat}
    {session : AgentSession}

section Keeping

variable
    (holds : SocketsOwned before)
include holds

theorem shrink
    (same : after.sessions = before.sessions)
    (fewer :
      ∀ agentId socket,
        after.active agentId = some socket →
        before.active agentId = some socket) :
    SocketsOwned after := by
  constructor
  · intro agentId socket isActive
    rw [same]
    exact holds.owned agentId socket (fewer agentId socket isActive)
  · rw [same]
    exact holds.greeted

theorem move
    {next : AgentSession}
    (isSession : before.sessions[socket]? = some session)
    (moved : after.sessions = before.sessions.set socket next)
    (elsewhere :
      ∀ agentId other,
        other ≠ socket →
        after.active agentId = some other →
        before.active agentId = some other)
    (here :
      ∀ agentId,
        after.active agentId = some socket →
        agentId ≠ "" ∧
          next.connection.clientId = some agentId ∧
          next.point ≠ .ended true)
    (greets :
      ∀ clientId,
        next.point = .greeting clientId →
        next.connection.clientId = some clientId ∧ clientId ≠ "") :
    SocketsOwned after := by
  have placed : (before.sessions.set socket next)[socket]? = some next :=
    List.getElem?_set_self (List.getElem?_eq_some_iff.mp isSession).1
  constructor
  · intro agentId other isActive
    by_cases same : other = socket
    · subst other
      obtain ⟨notEmpty, named, running⟩ := here agentId isActive
      exact ⟨notEmpty, next, moved ▸ placed, named, running⟩
    · obtain ⟨notEmpty, owner, isOwner, rest⟩ :=
        holds.owned agentId other (elsewhere agentId other same isActive)
      refine ⟨notEmpty, owner, ?_, rest⟩
      rw [moved, List.getElem?_set_ne (Ne.symm same)]
      exact isOwner
  · intro other current isCurrent
    rw [moved] at isCurrent
    rcases getElem?_set_cases isCurrent with ⟨_, rfl⟩ | ⟨_, unchanged⟩
    · exact greets
    · exact holds.greeted other current unchanged

theorem here
    (isSession : before.sessions[socket]? = some session)
    {agentId : String}
    (isActive : before.active agentId = some socket) :
    agentId ≠ "" ∧ session.connection.clientId = some agentId := by
  obtain ⟨notEmpty, owner, isOwner, named, _⟩ :=
    holds.owned agentId socket isActive
  rw [isSession] at isOwner
  cases isOwner
  exact ⟨notEmpty, named⟩

theorem goTo
    (isSession : before.sessions[socket]? = some session)
    {point : SessionPoint}
    (running : point ≠ .ended true)
    (quiet : ∀ clientId, point ≠ .greeting clientId) :
    SocketsOwned (before.goTo socket session point) := by
  refine holds.move isSession rfl (fun _ _ _ => id) ?_ ?_
  · intro agentId isActive
    obtain ⟨notEmpty, named⟩ := holds.here isSession isActive
    exact ⟨notEmpty, named, running⟩
  · intro clientId greeting
    exact (quiet clientId greeting).elim

theorem write
    (call : UpsertCall)
    (existing : Option AgentRecord) :
    SocketsOwned (before.write call existing) :=
  holds.shrink rfl fun _ _ => id

theorem finishCleanup
    (isSession : before.sessions[socket]? = some session)
    (now : Int) :
    SocketsOwned (before.finishCleanup socket session now) := by
  refine holds.move isSession rfl ?_ ?_ (fun _ => nofun)
  · intro agentId other _ isActive
    exact (active_unregisterAgent isActive).1
  · intro agentId isActive
    -- The websocket would have been registered for the client id.
    obtain ⟨kept, elsewhere⟩ := active_unregisterAgent isActive
    obtain ⟨notEmpty, named⟩ := holds.here isSession kept
    exact (elsewhere named notEmpty rfl).elim

theorem startCleanup
    (isSession : before.sessions[socket]? = some session)
    (now : Int) :
    SocketsOwned (before.startCleanup socket session now) := by
  unfold SocketSystem.startCleanup
  split
  · exact holds.finishCleanup isSession now
  · exact holds.goTo isSession nofun (fun _ => nofun)

theorem startUpsert
    (isSession : before.sessions[socket]? = some session)
    (agentId : String)
    (change : AgentChange)
    (now : Int)
    (leaves : Bool) :
    SocketsOwned
      (before.startUpsert socket session agentId change now leaves) :=
  holds.goTo isSession nofun (fun _ => nofun)

theorem judge
    (isSession : before.sessions[socket]? = some session)
    {clientId : String}
    {verdict : Verdict}
    (presents :
      verdict = .accepted →
      clientId ≠ "" ∧
        ∀ agentId, before.active agentId = some socket → agentId = clientId)
    (now : Int) :
    SocketsOwned (before.judge socket session clientId now verdict) := by
  cases verdict with
  | accepted =>
    obtain ⟨notEmpty, alone⟩ := presents rfl
    refine holds.move isSession rfl (fun _ _ _ => id) ?_ ?_
    · intro agentId isActive
      obtain rfl := alone agentId isActive
      exact ⟨notEmpty, rfl, nofun⟩
    · intro named greeting
      cases greeting
      exact ⟨rfl, notEmpty⟩
  | rejected expired =>
    cases expired with
    | none =>
      exact holds.startCleanup isSession now
    | some deploymentId =>
      exact holds.startUpsert isSession clientId _ now true
  | unexpectedHost expected =>
    exact holds.startUpsert isSession clientId _ now true
  | raises =>
    exact holds.goTo isSession nofun (fun _ => nofun)

theorem register
    (isSession : before.sessions[socket]? = some session)
    {clientId : String}
    (isGreeted : session.point = .greeting clientId)
    (now : Int) :
    SocketsOwned (before.register socket session clientId now) := by
  obtain ⟨isClient, notEmpty⟩ :=
    holds.greeted socket session isSession clientId isGreeted
  have registered :
      SocketsOwned
        (before.withRuntime
          (before.runtime.registerAgent clientId socket now)) := by
    constructor
    · intro agentId other isActive
      rcases active_registerAgent_cases isActive with
        ⟨rfl, rfl⟩ | unchanged
      · refine ⟨notEmpty, session, isSession, isClient, ?_⟩
        rw [isGreeted]
        exact nofun
      · exact holds.owned agentId other unchanged
    · exact holds.greeted
  unfold SocketSystem.register
  dsimp only
  split
  · exact registered.startUpsert isSession clientId _ now false
  · split
    · exact registered.startUpsert isSession clientId _ now false
    · exact registered.goTo isSession nofun (fun _ => nofun)

theorem heartbeat
    (isSession : before.sessions[socket]? = some session)
    (payload : HeartbeatData)
    (now : Int) :
    SocketsOwned (before.heartbeat library socket session payload now) := by
  have reported : SocketsOwned
        { before with
          monitoring :=
            (mergeHeartbeat library payload now
              before.monitoring).changed } := by
    refine holds.shrink rfl ?_
    intro agentId other isActive
    unfold SocketSystem.active SocketSystem.runtime at isActive
    rw [(runtime_mergeHeartbeat library payload now
      before.monitoring).2] at isActive
    exact isActive
  unfold SocketSystem.heartbeat
  split
  · dsimp only
    split
    · exact reported
    · exact reported.goTo isSession nofun (fun _ => nofun)
  · exact holds.startCleanup isSession now

theorem record
    (isSession : before.sessions[socket]? = some session)
    (clientId : String)
    (metrics : JsonObject)
    (now : Int)
    (check : HostCheck) :
    SocketsOwned (before.record socket session clientId metrics now check) := by
  cases check with
  | expected hostname =>
    exact holds.startUpsert isSession clientId _ now false
  | unexpected hostname =>
    exact holds.startUpsert isSession clientId _ now true
  | raises =>
    exact holds.goTo isSession nofun (fun _ => nofun)

end Keeping

section Sessions

variable
    (holds : SocketsOwned before)
    (isSession : before.sessions[socket]? = some session)
include holds isSession

theorem stepUpsert
    (call : UpsertCall)
    (leaves : Bool)
    (now : Int)
    (stage : UpsertStage) :
    SocketsOwned (before.stepUpsert socket session call leaves now stage) := by
  cases stage with
  | reading =>
    exact holds.goTo isSession nofun (fun _ => nofun)
  | writing existing =>
    have written := holds.write call existing
    exact written.goTo isSession nofun (fun _ => nofun)
  | committing =>
    cases leaves with
    | true =>
      exact holds.startCleanup isSession now
    | false =>
      exact holds.goTo isSession nofun (fun _ => nofun)

theorem stepCleanup
    (call : UpsertCall)
    (now : Int)
    (stage : UpsertStage) :
    SocketsOwned (before.stepCleanup socket session call now stage) := by
  cases stage with
  | reading =>
    exact holds.goTo isSession nofun (fun _ => nofun)
  | writing existing =>
    have written := holds.write call existing
    exact written.goTo isSession nofun (fun _ => nofun)
  | committing =>
    exact holds.finishCleanup isSession now

/-- A session that takes a step keeps the invariant. -/
theorem sessionStep
    {action : SocketAction}
    (isSocket : action.socket = some socket)
    (presents : PresentsOneAgent before action)
    (taken : sessionStep? library before socket session action = some after) :
    SocketsOwned after := by
  cases sessionTaken taken with
  | receiveHandshake =>
    exact holds.goTo isSession nofun (fun _ => nofun)
  | @authorize _ clientId _ now isAuthorizing =>
    cases isSocket
    refine holds.judge isSession ?_ now
    rintro rfl
    exact presents session isSession clientId isAuthorizing
  | @greeted _ _ sent now isGreeted =>
    cases sent with
    | true =>
      exact holds.register isSession isGreeted now
    | false =>
      exact holds.goTo isSession nofun (fun _ => nofun)
  | @replaced _ _ now =>
    exact holds.startUpsert isSession _ _ now false
  | @receiveHeartbeat _ payload now =>
    exact holds.heartbeat isSession payload now
  | @checkHost _ _ check now =>
    exact holds.record isSession _ _ now check
  | @upsert _ done now =>
    cases done with
    | true =>
      exact holds.stepUpsert isSession _ _ now _
    | false =>
      exact holds.goTo isSession nofun (fun _ => nofun)
  | @clean _ done now =>
    cases done with
    | true =>
      exact holds.stepCleanup isSession _ now _
    | false =>
      exact holds.goTo isSession nofun (fun _ => nofun)
  | @disconnect _ now =>
    exact holds.startCleanup isSession now
  | resume =>
    exact holds

end Sessions

theorem connect (holds : SocketsOwned before) :
    SocketsOwned { before with sessions := before.sessions ++ [{}] } := by
  constructor
  · intro agentId socket isActive
    obtain ⟨notEmpty, session, isSession, rest⟩ :=
      holds.owned agentId socket isActive
    refine ⟨notEmpty, session, ?_, rest⟩
    have inside := (List.getElem?_eq_some_iff.mp isSession).1
    rw [List.getElem?_append_left inside]
    exact isSession
  · intro socket session isSession
    rcases getElem?_append_cases isSession with rfl | earlier
    · exact fun _ => nofun
    · exact holds.greeted socket session earlier

theorem step
    (holds : SocketsOwned before)
    {action : SocketAction}
    (presents : PresentsOneAgent before action)
    (taken : socketStep? library before action = some after) :
    SocketsOwned after := by
  unfold socketStep? at taken
  split at taken
  · rename_i socket isSocket
    obtain ⟨session, isSession, went⟩ := Option.bind_eq_some_iff.mp taken
    exact holds.sessionStep isSession isSocket presents went
  · split at taken
    · cases taken
      exact holds.connect
    · cases taken
      exact holds.shrink rfl fun _ _ isActive => (active_erase isActive).2
    · cases taken
      refine holds.shrink rfl ?_
      intro agentId socket isActive
      unfold SocketSystem.active SocketSystem.withRuntime
        SocketSystem.runtime at isActive
      dsimp only at isActive
      rw [activeAgents_resetAgentRuntimeState] at isActive
      exact isActive
    · cases taken
      exact holds.shrink rfl fun _ _ isActive =>
        (active_unregisterAgent isActive).1
    · cases taken
      exact holds.shrink rfl fun _ _ isActive => (active_erase isActive).2
    · cases taken
      exact holds.shrink rfl fun _ _ => id
    · cases taken

end SocketsOwned

/--
Where the condition is met, a websocket is registered for one agent at most,
and for none after the clean-up.
-/
theorem oneSocketOneAgent_of_presentsOneAgent (library : TextLibrary) :
    OneSocketOneAgent
      (Guarded (Fires (socketStep? library)) PresentsOneAgent) := by
  intro registry final actions run socket
  have started : SocketsOwned (.started registry) :=
    ⟨fun _ _ => nofun, fun _ _ => nofun⟩
  have holds : SocketsOwned final := by
    apply run.preserves ?_ started
    rintro before action after ⟨taken, presents⟩ holds
    exact holds.step presents taken
  constructor
  · intro first second isFirst isSecond
    obtain ⟨_, session, isSession, named, _⟩ :=
      holds.owned first socket isFirst
    obtain ⟨_, same⟩ := holds.here isSession isSecond
    rw [named] at same
    exact Option.some.inj same
  · intro cleanedUp agentId isActive
    obtain ⟨session, isSession, ended⟩ :=
      SocketSystem.cleanedUp_iff.mp cleanedUp
    obtain ⟨_, owner, isOwner, _, running⟩ :=
      holds.owned agentId socket isActive
    rw [isSession] at isOwner
    cases isOwner
    exact running ended

/-- A handshake that is accepted, greeted, registered and stored. -/
def acceptedHandshake
    (socket : Nat)
    (clientId : String)
    (now : Int) : List SocketAction :=
  [.receiveHandshake socket clientId, .authorize socket .accepted now,
    .greeted socket true now, .upsert socket true now,
    .upsert socket true now, .upsert socket true now]

def lostConnection (socket : Nat) (now : Int) : List SocketAction :=
  [.disconnect socket now, .clean socket true now, .clean socket true now,
    .clean socket true now]

/-- An agent connects again, and its earlier connection is cleaned up. -/
def takenOver : List SocketAction :=
  .connect :: acceptedHandshake 0 "a" 0 ++
    [.connect, .receiveHandshake 1 "a", .authorize 1 .accepted 1,
      .greeted 1 true 1] ++
    lostConnection 0 2 ++ [.replaced 1 3]

/-- The condition, read off the entries themselves. -/
def PresentsOneAgentSimply
    (sys : SocketSystem) : SocketAction → Prop
  | .authorize socket .accepted _ =>
    sys.sessions[socket]?.all
      (fun session =>
        match session.point with
        | .authorizing clientId =>
          clientId ≠ "" &&
            sys.runtime.activeAgents.all fun entry =>
              entry.2 ≠ socket || entry.1 = clientId
        | _ => true) =
      true
  | _ => True

instance (sys : SocketSystem) (action : SocketAction) :
    Decidable (PresentsOneAgentSimply sys action) := by
  unfold PresentsOneAgentSimply
  split <;> infer_instance

theorem PresentsOneAgentSimply.presentsOneAgent
    {sys : SocketSystem}
    {action : SocketAction}
    (simply : PresentsOneAgentSimply sys action) :
    PresentsOneAgent sys action := by
  unfold PresentsOneAgent
  split
  · rename_i socket now
    intro session isSession clientId isAuthorizing
    dsimp only [PresentsOneAgentSimply] at simply
    rw [Option.mem_def.mp isSession, Option.all_some, isAuthorizing,
      Bool.and_eq_true, List.all_eq_true] at simply
    refine ⟨of_decide_eq_true simply.1, ?_⟩
    intro agentId isActive
    have entry :=
      simply.2 (agentId, socket) (Dictionary.mem_of_lookup isActive)
    simpa using entry
  · trivial

theorem takenOver_owned :
    ∃ final,
      Run
        (Guarded (Fires (socketStep? asciiTextLibrary)) PresentsOneAgent)
        (.started .empty) takenOver final ∧
        final.active "a" = some 1 ∧
        final.cleanedUp 0 = true ∧
        ∀ agentId, final.active agentId ≠ some 0 := by
  obtain ⟨final, checkedRun, reached⟩ :=
    exists_run_of_execute
      (show (execute
          (checked (socketStep? asciiTextLibrary) PresentsOneAgentSimply)
          (.started .empty) takenOver).any
          (fun sys : SocketSystem =>
            sys.active "a" = some 1 && sys.cleanedUp 0) = true by
        decide)
  rw [Bool.and_eq_true, decide_eq_true_eq] at reached
  have run :=
    checkedRun.guarded_of_checked.relax fun _ _ =>
      PresentsOneAgentSimply.presentsOneAgent
  have owned := oneSocketOneAgent_of_presentsOneAgent asciiTextLibrary run 0
  exact ⟨final, run, reached.1, reached.2, owned.2 reached.2⟩

/--
Without the condition a websocket is registered for two agents, and stays so
for the first of them after its clean-up.
-/
theorem not_oneSocketOneAgent :
    ¬ OneSocketOneAgent (Fires (socketStep? asciiTextLibrary)) := by
  intro claimed
  obtain ⟨final, run, reached⟩ :=
    exists_run_of_execute
      (show (execute (socketStep? asciiTextLibrary) (.started .empty)
          (.connect :: acceptedHandshake 0 "a" 0 ++
            acceptedHandshake 0 "b" 1 ++ lostConnection 0 2)).any
          (fun sys : SocketSystem =>
            sys.active "a" = some 0 && sys.cleanedUp 0) = true by
        decide)
  rw [Bool.and_eq_true, decide_eq_true_eq] at reached
  exact (claimed run 0).2 reached.2 "a" reached.1

end RpaPlatform.Agents
