import RpaPlatform.AgentDeletion

namespace RpaPlatform.Deploy

open Agents (AgentRecord AgentSession PatchStage SocketAction StaysWithin TextLibrary
  asciiTextLibrary sessionStep? socketStep? staysWithin_sessionStep strip
  strip_strip)
open Transition

/-!
# Deletions that stand

Whoever stores an agent's row has presented the agent, has been requested for
it, or has found the row.  A deletion that is made while nobody of the first
two kinds is left stands until somebody of them begins anew.
-/

namespace DeletionSystem

def SameRows (sys next : DeletionSystem) : Prop :=
  ∀ agentId, next.hasRow agentId = sys.hasRow agentId

/-- Two states that differ in what stores no agents. -/
structure SameWriters (sys next : DeletionSystem) : Prop where
  sessions : next.sessions = sys.sessions
  parties : next.deployments.parties = sys.deployments.parties

/-- A request to change an agent goes on. -/
structure PatchMoves
    (sys next : DeletionSystem)
    (position : Nat)
    (patch : AgentPatch)
    (stage : PatchStage) : Prop where
  isPatch : sys.patches[position]? = some patch
  moves : next.patches = sys.patches.set position { patch with stage }
  keepsRows : ∀ agentId, sys.hasRow agentId = true → next.hasRow agentId = true
  writes :
    ∀ agentId, next.hasRow agentId = true →
      sys.hasRow agentId = true ∨
        patch.agentId = agentId ∧ mayStore patch.stage = true
  finds :
    mayStore stage = true →
      mayStore patch.stage = true ∨ sys.hasRow patch.agentId = true

/-- What a step does to the agents, and to all that stores them. -/
inductive Effect (sys next : DeletionSystem) : DeletionAction → Prop where
  /-- A session takes a step. -/
  | session
      {action : SocketAction}
      {socket : Nat}
      {session : AgentSession}
      (isSocket : action.socket = some socket)
      (isSession : sys.sessions[socket]? = some session)
      (stays : StaysWithin sys.sockets next.sockets socket session action)
      (sameParties : next.deployments.parties = sys.deployments.parties)
      (samePatches : next.patches = sys.patches)
      (sameDeletes : next.deletes = sys.deletes) :
      Effect sys next (.session action)
  /-- A connection is opened. -/
  | connects
      (opens : next.sessions = sys.sessions ++ [({} : AgentSession)])
      (sameParties : next.deployments.parties = sys.deployments.parties)
      (samePatches : next.patches = sys.patches)
      (sameDeletes : next.deletes = sys.deletes)
      (sameRows : SameRows sys next) :
      Effect sys next (.session .connect)
  /-- A deployment goes on. -/
  | party
      {action : DeploymentAction}
      {position : Nat}
      {party moved : Party}
      (isPosition : action.party? = some position)
      (isParty : sys.deployments.parties[position]? = some party)
      (goesOn : ¬ (party.hasEnded && party.isQuiet) = true)
      (moves :
        next.deployments.parties = sys.deployments.parties.set position moved)
      (stays :
        StaysWithAgent sys.deployments.server party next.deployments.server
          moved)
      (sameSessions : next.sessions = sys.sessions)
      (samePatches : next.patches = sys.patches)
      (sameDeletes : next.deletes = sys.deletes) :
      Effect sys next (.deployment action)
  /-- A deployment is requested. -/
  | requested
      {request : PrepareRequest}
      (requests :
        next.deployments.parties = sys.deployments.parties ++
            [{ request :=
                { request with agentId := strip request.agentId } }])
      (sameSessions : next.sessions = sys.sessions)
      (samePatches : next.patches = sys.patches)
      (sameDeletes : next.deletes = sys.deletes)
      (sameRows : SameRows sys next) :
      Effect sys next (.deployment (.request request))
  /-- A change of an agent is requested. -/
  | patched
      {action : DeletionAction}
      {patch : AgentPatch}
      (requests :
        next.patches = sys.patches ++ [{ patch with stage := .looking }])
      (sameWriters : SameWriters sys next)
      (sameDeletes : next.deletes = sys.deletes)
      (sameRows : SameRows sys next) :
      Effect sys next action
  | patch
      {action : DeletionAction}
      {position : Nat}
      {patch : AgentPatch}
      {stage : PatchStage}
      (moves : PatchMoves sys next position patch stage)
      (sameWriters : SameWriters sys next)
      (sameDeletes : next.deletes = sys.deletes) :
      Effect sys next action
  /-- The statement of a deletion is executed. -/
  | deletes
      {action : DeletionAction}
      {agentId : String}
      (isNext : sys.deletesRow? action = some agentId)
      (deletes :
        ∀ other, next.hasRow other = true ↔
          sys.hasRow other = true ∧ other ≠ agentId)
      (begun :
        ∀ other, next.Deletes other → sys.Deletes other ∨ other = agentId)
      (sameWriters : SameWriters sys next)
      (samePatches : next.patches = sys.patches) :
      Effect sys next action
  /-- Nothing that stores an agent goes on. -/
  | aside
      {action : DeletionAction}
      (sameWriters : SameWriters sys next)
      (samePatches : next.patches = sys.patches)
      (fewerDeletes : ∀ agentId, next.Deletes agentId → sys.Deletes agentId)
      (sameRows : SameRows sys next) :
      Effect sys next action

section Effects

variable
    {library : TextLibrary}
    {context : DeploymentContext}
    {sys next : DeletionSystem}

theorem effect_sessionStep
    {action : SocketAction}
    (stepped : sys.sessionStep? library action = some next) :
    Effect sys next (.session action) := by
  unfold sessionStep? at stepped
  split at stepped
  · cases stepped
  · rename_i notChange
    obtain ⟨after, taken, rfl⟩ := Option.map_eq_some_iff.mp stepped
    unfold socketStep? at taken
    split at taken
    · rename_i socket isSocket
      obtain ⟨session, isSession, goesOn⟩ :=
        Option.bind_eq_some_iff.mp taken
      have stays := staysWithin_sessionStep isSocket goesOn
      exact .session isSocket isSession ⟨stays.goesOn, stays.writes⟩ rfl rfl rfl
    · cases action with
      | connect =>
        cases taken
        exact .connects rfl rfl rfl rfl fun _ => rfl
      | timeoutAgent | resetAgent | sendFailed | removeAgent =>
        cases taken
        exact .aside ⟨rfl, rfl⟩ rfl (fun _ => id) fun _ => rfl
      | changeRegistry registry =>
        exact (notChange registry rfl).elim
      | _ =>
        cases taken

theorem effect_deploymentStep
    (keeps : ∀ party ∈ sys.deployments.parties, party.KeepsAgent)
    {action : DeploymentAction}
    (stepped : sys.deploymentStep? context action = some next) :
    Effect sys next (.deployment action) := by
  unfold deploymentStep? at stepped
  split at stepped
  · obtain ⟨routed, isRouted, went⟩ := Option.bind_eq_some_iff.mp stepped
    obtain ⟨deployments, taken, rfl⟩ := Option.map_eq_some_iff.mp went
    have goesOn :
        ∀ position, routed.party? = some position →
          action.party? = some position →
          Effect sys { sys with deployments } (.deployment action) := by
      intro position isPosition isOwn
      unfold DeploymentSystem.step? at taken
      rw [isPosition] at taken
      obtain ⟨party, isParty, moves⟩ := Option.bind_eq_some_iff.mp taken
      obtain ⟨moved, sameParties, _, stays⟩ :=
        staysWithAgent_partyStep (keeps party (List.mem_of_getElem? isParty))
          moves
      refine .party isOwn isParty ?_ sameParties stays rfl rfl rfl
      intro isQuiet
      cases (not_partyStep_of_quiet isQuiet).symm.trans moves
    cases action with
    | restart | recover | crash =>
      cases isRouted
    | request request =>
      cases isRouted
      dsimp only [DeploymentSystem.step?, DeploymentAction.party?] at taken
      split at taken
      · rename_i isRestart _
        cases isRestart
      · rename_i isRecover _
        cases isRecover
      · rename_i isRequest _
        obtain rfl := DeploymentAction.request.inj isRequest
        cases taken
        exact .requested rfl rfl rfl rfl fun _ => rfl
      · rename_i isCrash
        cases isCrash
      · cases taken
    | _ =>
      cases isRouted
      exact goesOn _ rfl rfl
  · cases stepped

theorem hasRow_writeAgent
    (row : AgentRecord)
    (agentId : String) :
    (sys.withRegistry (sys.registry.writeAgent row)).hasRow agentId = true ↔
      sys.hasRow agentId = true ∨ row.id = agentId := by
  have found :=
    KeyedTable.find?_upsert sys.registry.agents row
      (fun stored =>
        { row with id := stored.id, createdAt := stored.createdAt })
      (fun _ => rfl) agentId
  have isRow :
      (sys.withRegistry (sys.registry.writeAgent row)).hasRow agentId =
        (if row.id = agentId then
          some
            (((sys.registry.agents.find? agentId).map fun stored =>
              { row with id := stored.id, createdAt := stored.createdAt
                : AgentRecord }).getD row)
        else
          sys.registry.agents.find? agentId).isSome :=
    congrArg Option.isSome found
  rw [isRow]
  split
  · rename_i own
    exact ⟨fun _ => .inr own, fun _ => rfl⟩
  · rename_i other
    exact ⟨.inl, fun either => either.resolve_right other⟩

variable
    {position : Nat}
    {patch : AgentPatch}

theorem patchMoves_write
    {stage : PatchStage}
    (isPatch : sys.patches[position]? = some patch)
    (row : AgentRecord)
    (isOwn : row.id = patch.agentId)
    (stores : mayStore patch.stage = true) :
    PatchMoves sys
      ((sys.withRegistry (sys.registry.writeAgent row)).setPatch position
        patch stage)
      position patch stage where
  isPatch := isPatch
  moves := rfl
  keepsRows := fun agentId present =>
    (hasRow_writeAgent row agentId).mpr (.inl present)
  writes := fun agentId present =>
    ((hasRow_writeAgent row agentId).mp present).imp_right fun same =>
      ⟨isOwn.symm.trans same, stores⟩
  finds := fun _ => .inl stores

theorem patchMoves_read
    {stage : PatchStage}
    (isPatch : sys.patches[position]? = some patch)
    (finds :
      mayStore stage = true →
        mayStore patch.stage = true ∨ sys.hasRow patch.agentId = true) :
    PatchMoves sys (sys.setPatch position patch stage) position patch
      stage where
  isPatch := isPatch
  moves := rfl
  keepsRows := fun _ => id
  writes := fun _ => .inl
  finds := finds

/-- The effect of a step of a request to change an agent. -/
theorem patchMoves_advance
    {now : Int}
    {stepped : Registry × PatchStage}
    (isPatch : sys.patches[position]? = some patch)
    (advances : patch.advance? library sys.registry now = some stepped) :
    PatchMoves sys
      ((sys.withRegistry stepped.1).setPatch position patch stepped.2)
      position patch stepped.2 := by
  unfold AgentPatch.advance? at advances
  dsimp only at advances
  split at advances
  case h_1 =>
    -- The request goes on if there is such a row.
    split at advances
    · cases advances
      refine patchMoves_read isPatch ?_
      intro stores
      cases stores
    · rename_i stored found
      cases advances
      refine patchMoves_read isPatch fun _ => .inr ?_
      exact Option.isSome_iff_exists.mpr ⟨stored, found⟩
  case h_2 | h_4 | h_5 | h_7 | h_9 =>
    rename_i isStage
    cases advances
    refine patchMoves_read isPatch fun _ => .inl ?_
    rw [isStage]
    rfl
  case h_3 | h_8 =>
    rename_i isStage
    cases advances
    refine patchMoves_write isPatch _ rfl ?_
    rw [isStage]
    rfl
  case h_10 =>
    cases advances
    refine patchMoves_read isPatch ?_
    intro stores
    cases stores
  case h_6 | h_11 =>
    cases advances

theorem deletes_setDelete
    {owner agentId : String}
    {point : DeletePoint}
    (notCommitting : point ≠ .committing)
    (deletes : (sys.setDelete position owner point).Deletes agentId) :
    sys.Deletes agentId := by
  rcases List.mem_or_eq_of_mem_set deletes with old | isNew
  · exact old
  · exact (notCommitting (congrArg AgentDelete.point isNew).symm).elim

theorem effect_setDelete
    (action : DeletionAction)
    {middle : DeletionSystem}
    {agentId : String}
    {point : DeletePoint}
    (sameWriters : SameWriters sys middle)
    (samePatches : middle.patches = sys.patches)
    (sameDeletes : middle.deletes = sys.deletes)
    (sameRows : SameRows sys middle)
    (notCommitting : point ≠ .committing) :
    Effect sys (middle.setDelete position agentId point) action := by
  refine
    .aside ⟨sameWriters.sessions, sameWriters.parties⟩ samePatches ?_ sameRows
  intro other deletes
  have still := deletes_setDelete notCommitting deletes
  unfold Deletes at still ⊢
  rwa [sameDeletes] at still

/-- The effect of a step of a deletion. -/
theorem effect_advanceDelete
    {request : AgentDelete}
    {now : Int}
    (isRequest : sys.deletes[position]? = some request)
    (advances :
      sys.advanceDelete? position request.agentId now request.point =
        some next) :
    Effect sys next (.advanceDelete position now) := by
  obtain ⟨agentId, point⟩ := request
  have aside :
      ∀ middle point, SameWriters sys middle →
        middle.patches = sys.patches → middle.deletes = sys.deletes →
        SameRows sys middle → point ≠ .committing →
        Effect sys (middle.setDelete position agentId point)
          (.advanceDelete position now) :=
    fun _ _ => effect_setDelete _
  unfold advanceDelete? at advances
  cases point with
  | looking =>
    dsimp only at advances
    split at advances
    · split at advances
      · cases advances
        exact aside _ _ ⟨rfl, rfl⟩ rfl rfl (fun _ => rfl) (by decide)
      · cases advances
        exact aside _ _ ⟨rfl, rfl⟩ rfl rfl (fun _ => rfl) (by decide)
    · cases advances
      exact aside _ _ ⟨rfl, rfl⟩ rfl rfl (fun _ => rfl) (by decide)
  | closing =>
    dsimp only at advances
    split at advances
    · cases advances
      exact aside _ _ ⟨rfl, rfl⟩ rfl rfl (fun _ => rfl) (by decide)
    · cases advances
      exact aside _ _ ⟨rfl, rfl⟩ rfl rfl (fun _ => rfl) (by decide)
  | deleting =>
    cases advances
    have isNext :
        sys.deletesRow? (.advanceDelete position now) = some agentId := by
      dsimp only [deletesRow?]
      rw [isRequest]
      rfl
    refine .deletes isNext ?_ ?_ ⟨rfl, rfl⟩ rfl
    · intro other
      have isRow : ((sys.withRegistry
              (sys.registry.deleteAgent agentId)).setDelete position
              agentId .committing).hasRow other =
            ((sys.registry.agents.delete agentId).find? other).isSome :=
        rfl
      rw [isRow]
      by_cases own : other = agentId
      · subst own
        rw [KeyedTable.find?_delete_self]
        simp
      · rw [KeyedTable.find?_delete _ own]
        exact ⟨fun present => ⟨present, own⟩, And.left⟩
    · intro other deletes
      rcases List.mem_or_eq_of_mem_set deletes with old | isNew
      · exact .inl old
      · exact .inr (congrArg AgentDelete.agentId isNew)
  | committing =>
    cases advances
    exact aside _ _ ⟨rfl, rfl⟩ rfl rfl (fun _ => rfl) (by decide)
  | deleted | ended =>
    cases advances

/-- Every step has one of the effects. -/
theorem effect_step
    (keeps : ∀ party ∈ sys.deployments.parties, party.KeepsAgent)
    {action : DeletionAction}
    (stepped : sys.step? library context action = some next) :
    Effect sys next action := by
  cases action with
  | session action =>
    exact effect_sessionStep stepped
  | deployment action =>
    exact effect_deploymentStep keeps stepped
  | requestPatch patch =>
    cases stepped
    exact .patched rfl ⟨rfl, rfl⟩ rfl fun _ => rfl
  | advancePatch position now =>
    obtain ⟨patch, isPatch, went⟩ := Option.bind_eq_some_iff.mp stepped
    obtain ⟨after, advances, rfl⟩ := Option.map_eq_some_iff.mp went
    exact .patch (patchMoves_advance isPatch advances) ⟨rfl, rfl⟩ rfl
  | provisionPatch position provisioned now =>
    obtain ⟨patch, isPatch, went⟩ := Option.bind_eq_some_iff.mp stepped
    obtain ⟨stage, provisions, rfl⟩ := Option.map_eq_some_iff.mp went
    refine .patch (patchMoves_read isPatch ?_) ⟨rfl, rfl⟩ rfl
    intro _
    left
    unfold AgentPatch.provision? at provisions
    split at provisions
    · rename_i isStage
      rw [isStage]
      rfl
    · cases provisions
  | failPatch position =>
    obtain ⟨patch, isPatch, went⟩ := Option.bind_eq_some_iff.mp stepped
    obtain ⟨stage, fails, rfl⟩ := Option.map_eq_some_iff.mp went
    refine .patch (patchMoves_read isPatch ?_) ⟨rfl, rfl⟩ rfl
    unfold AgentPatch.fail? at fails
    split at fails
    · cases fails
    · cases fails
      intro stores
      cases stores
  | requestDelete agentId =>
    cases stepped
    refine .aside ⟨rfl, rfl⟩ rfl ?_ fun _ => rfl
    intro other deletes
    rcases List.mem_append.mp deletes with old | added
    · exact old
    · cases List.mem_singleton.mp added
  | advanceDelete position now =>
    obtain ⟨request, isRequest, advances⟩ :=
      Option.bind_eq_some_iff.mp stepped
    exact effect_advanceDelete isRequest advances
  | failDelete position =>
    obtain ⟨request, isRequest, fails⟩ :=
      Option.bind_eq_some_iff.mp stepped
    split at fails
    · cases fails
    · cases fails
    · cases fails
      exact effect_setDelete _ ⟨rfl, rfl⟩ rfl rfl (fun _ => rfl) (by decide)
  | changeTables registry =>
    cases stepped
    exact .aside ⟨rfl, rfl⟩ rfl (fun _ => id) fun _ => rfl

end Effects

/-! ### Who stores a row -/

/-- Only sessions and deployments that are new may still store an agent. -/
structure OnlyNew
    (agentId : String)
    (newSocket newParty : Nat → Prop)
    (sys : DeletionSystem) : Prop where
  sessions :
    ∀ {socket session},
      sys.sessions[socket]? = some session →
      session.Presents agentId → newSocket socket
  parties :
    ∀ {position party},
      sys.deployments.parties[position]? = some party →
      party.request.agentId = agentId →
      (party.hasEnded && party.isQuiet) = true ∨ newParty position

/-- What holds in every run whose deletions are unattended. -/
structure Sound (sys : DeletionSystem) : Prop where
  keepsAgent : ∀ party ∈ sys.deployments.parties, party.KeepsAgent
  patchesFind :
    ∀ patch ∈ sys.patches,
      mayStore patch.stage = true → sys.hasRow patch.agentId = true
  deletes :
    ∀ agentId, sys.Deletes agentId →
      sys.hasRow agentId = false ∧
        OnlyNew agentId (fun _ => False) (fun _ => False) sys

section Rows

variable
    {agentId : String}
    {newSocket newParty : Nat → Prop}
    {sys next : DeletionSystem}
    {action : DeletionAction}

theorem OnlyNew.mono
    (onlyNew : OnlyNew agentId newSocket newParty sys)
    {largerSocket largerParty : Nat → Prop}
    (sockets : ∀ socket, newSocket socket → largerSocket socket)
    (parties : ∀ position, newParty position → largerParty position) :
    OnlyNew agentId largerSocket largerParty sys where
  sessions := fun isSession presents =>
    sockets _ (onlyNew.sessions isSession presents)
  parties := fun isParty isOwn =>
    (onlyNew.parties isParty isOwn).imp_right (parties _)

theorem OnlyNew.of_same
    (onlyNew : OnlyNew agentId newSocket newParty sys)
    (sameWriters : SameWriters sys next) :
    OnlyNew agentId newSocket newParty next where
  sessions := fun isSession presents =>
    onlyNew.sessions (sameWriters.sessions ▸ isSession) presents
  parties := fun isParty isOwn =>
    onlyNew.parties (sameWriters.parties ▸ isParty) isOwn

/-- A row appears only by whoever may store it. -/
theorem appears_of_effect
    (patchesFind :
      ∀ patch ∈ sys.patches,
        mayStore patch.stage = true → sys.hasRow patch.agentId = true)
    (onlyNew : OnlyNew agentId newSocket newParty sys)
    (effect : Effect sys next action)
    (absent : sys.hasRow agentId = false)
    (present : next.hasRow agentId = true) :
    (∃ sessionAction socket,
        action = .session sessionAction ∧
          sessionAction.socket = some socket ∧ newSocket socket) ∨
      ∃ deploymentAction position,
        action = .deployment deploymentAction ∧
          deploymentAction.party? = some position ∧ newParty position := by
  have notSame : ¬ SameRows sys next := by
    intro sameRows
    rw [sameRows agentId, absent] at present
    cases present
  cases effect with
  | session isSocket isSession stays =>
    left
    refine ⟨_, _, rfl, isSocket, ?_⟩
    by_contra notNew
    have sameRow :=
      stays.writes.getAgent fun presents =>
        notNew (onlyNew.sessions isSession presents)
    have isSame : next.hasRow agentId = sys.hasRow agentId :=
      congrArg Option.isSome sameRow
    rw [isSame, absent] at present
    cases present
  | party isPosition isParty goesOn _ stays =>
    right
    refine ⟨_, _, rfl, isPosition, ?_⟩
    by_contra notNew
    have isOther : agentId ≠ _ := fun isOwn =>
      (onlyNew.parties isParty isOwn.symm).elim goesOn notNew
    have isSame : next.hasRow agentId = sys.hasRow agentId :=
      congrArg Option.isSome (stays.writes.others agentId isOther)
    rw [isSame, absent] at present
    cases present
  | patch moves =>
    rcases moves.writes agentId present with before | ⟨isOwn, stores⟩
    · rw [absent] at before
      cases before
    · have found :=
        patchesFind _ (List.mem_of_getElem? moves.isPatch) stores
      rw [isOwn, absent] at found
      cases found
  | deletes _ deletes =>
    have before := ((deletes agentId).mp present).1
    rw [absent] at before
    cases before
  | connects _ _ _ _ sameRows | requested _ _ _ _ sameRows
  | patched _ _ _ sameRows | aside _ _ _ sameRows =>
    exact (notSame sameRows).elim

/-- What begins is new, and all the rest was there before. -/
theorem OnlyNew.step
    (onlyNew : OnlyNew agentId newSocket newParty sys)
    (effect : Effect sys next action)
    (handshakes :
      ∀ socket, action = .session (.receiveHandshake socket agentId) →
        newSocket socket)
    (requests :
      ∀ request, action = .deployment (.request request) →
        strip request.agentId = agentId →
        newParty sys.deployments.parties.length) :
    OnlyNew agentId newSocket newParty next := by
  cases effect with
  | @session sessionAction socket session isSocket isSession stays
      sameParties =>
      obtain ⟨moved, moves, presented⟩ := stays.goesOn
      have stillNew : moved.Presents agentId → newSocket socket := by
        intro presents
        rcases presented agentId presents with before | isHandshake
        · exact onlyNew.sessions isSession before
        · exact handshakes socket (congrArg DeletionAction.session isHandshake)
      constructor
      · intro other found isFound presents
        rcases moves with isSet | ⟨isSame, rfl⟩
        · have sameSessions : next.sessions = sys.sessions.set socket moved :=
            isSet
          rw [sameSessions] at isFound
          rcases getElem?_set_cases isFound with ⟨rfl, rfl⟩ | ⟨_, isOld⟩
          · exact stillNew presents
          · exact onlyNew.sessions isOld presents
        · have sameSessions : next.sessions = sys.sessions := isSame
          rw [sameSessions] at isFound
          exact onlyNew.sessions isFound presents
      · intro position party isParty
        exact onlyNew.parties (sameParties ▸ isParty)
  | connects opens sameParties =>
    constructor
    · intro other found isFound presents
      rw [opens] at isFound
      rcases getElem?_append_cases isFound with rfl | isOld
      · rcases presents with isBusy | ⟨isClient, _⟩
        · cases isBusy
        · cases isClient
      · exact onlyNew.sessions isOld presents
    · intro position party isParty
      exact onlyNew.parties (sameParties ▸ isParty)
  | party isPosition isParty goesOn moves stays sameSessions =>
    constructor
    · intro other found isFound
      exact onlyNew.sessions (sameSessions ▸ isFound)
    · intro other found isFound isOwn
      rw [moves] at isFound
      rcases getElem?_set_cases isFound with ⟨rfl, rfl⟩ | ⟨_, isOld⟩
      · rw [stays.sameRequest] at isOwn
        exact .inr ((onlyNew.parties isParty isOwn).resolve_left goesOn)
      · exact onlyNew.parties isOld isOwn
  | requested requested sameSessions =>
    constructor
    · intro other found isFound
      exact onlyNew.sessions (sameSessions ▸ isFound)
    · intro other found isFound isOwn
      rw [requested, List.getElem?_append] at isFound
      split at isFound
      · exact onlyNew.parties isFound isOwn
      · obtain ⟨inRange, isAdded⟩ := List.getElem?_eq_some_iff.mp isFound
        rw [List.getElem_singleton] at isAdded
        subst isAdded
        have isLast : other = sys.deployments.parties.length := by
          rw [List.length_singleton] at inRange
          omega
        rw [isLast]
        exact .inr (requests _ rfl isOwn)
  | patched _ sameWriters | patch _ sameWriters
  | deletes _ _ _ sameWriters | aside sameWriters =>
    exact onlyNew.of_same sameWriters

theorem keepsRows_of_effect
    (effect : Effect sys next action)
    (present : sys.hasRow agentId = true) :
    next.hasRow agentId = true ∨ sys.deletesRow? action = some agentId := by
  cases effect with
  | session isSocket isSession stays =>
    exact .inl (stays.writes.keepsRows present)
  | party isPosition isParty goesOn moves stays =>
    exact .inl (stays.writes.keepsRows agentId present)
  | patch moves =>
    exact .inl (moves.keepsRows agentId present)
  | @deletes _ owner isNext deletes =>
    by_cases own : agentId = owner
    · subst own
      exact .inr isNext
    · exact .inl ((deletes agentId).mpr ⟨present, own⟩)
  | connects _ _ _ _ sameRows | requested _ _ _ _ sameRows
  | patched _ _ _ sameRows | aside _ _ _ sameRows =>
    exact .inl ((sameRows agentId).trans present)

theorem deletes_of_effect
    (effect : Effect sys next action)
    (deletes : next.Deletes agentId) :
    sys.Deletes agentId ∨
      sys.deletesRow? action = some agentId ∧
        next.hasRow agentId = false ∧ SameWriters sys next := by
  cases effect with
  | session _ _ _ _ _ sameDeletes | connects _ _ _ sameDeletes
  | party _ _ _ _ _ _ _ sameDeletes | requested _ _ _ sameDeletes
  | patched _ _ sameDeletes | patch _ _ sameDeletes =>
    unfold Deletes at deletes ⊢
    rw [sameDeletes] at deletes
    exact .inl deletes
  | aside _ _ fewerDeletes =>
    exact .inl (fewerDeletes agentId deletes)
  | deletes isNext deletesOne begun sameWriters =>
    rcases begun agentId deletes with before | rfl
    · exact .inl before
    · refine .inr ⟨isNext, ?_, sameWriters⟩
      rw [Bool.eq_false_iff]
      exact fun present => ((deletesOne agentId).mp present).2 rfl

theorem Unattended.onlyNew
    (unattended : sys.Unattended agentId) :
    OnlyNew agentId (fun _ => False) (fun _ => False) sys where
  sessions := fun isSession =>
    unattended.sessions _ (List.mem_of_getElem? isSession)
  parties := fun isParty isOwn =>
    .inl (unattended.parties _ (List.mem_of_getElem? isParty) isOwn)

theorem keepsAgent_requested (request : PrepareRequest) :
    Party.KeepsAgent
      { request := { request with agentId := strip request.agentId } } where
  unpadded := strip_strip request.agentId
  prepares := fun _ member => (Option.not_mem_none _ member).elim
  dispatches := fun _ member => (Option.not_mem_none _ member).elim
  runs := fun _ member => (Option.not_mem_none _ member).elim

theorem keepsAgent_of_effect
    (keeps : ∀ party ∈ sys.deployments.parties, party.KeepsAgent)
    (effect : Effect sys next action) :
    ∀ party ∈ next.deployments.parties, party.KeepsAgent := by
  cases effect with
  | session _ _ _ sameParties | connects _ sameParties =>
    rwa [sameParties]
  | party _ _ _ moves stays =>
    rw [moves]
    intro party member
    rcases List.mem_or_eq_of_mem_set member with old | rfl
    · exact keeps party old
    · exact stays.keepsAgent
  | requested requested =>
    rw [requested]
    intro party member
    rcases List.mem_append.mp member with old | added
    · exact keeps party old
    · rw [List.mem_singleton.mp added]
      exact keepsAgent_requested _
  | patched _ sameWriters | patch _ sameWriters
  | deletes _ _ _ sameWriters | aside sameWriters =>
    rwa [sameWriters.parties]

theorem Sound.patchesFind_step
    (sound : Sound sys)
    (effect : Effect sys next action)
    (unattended : DeletesUnattended sys action) :
    ∀ patch ∈ next.patches,
      mayStore patch.stage = true → next.hasRow patch.agentId = true := by
  have stillFinds :
      ∀ patch ∈ sys.patches,
        mayStore patch.stage = true → next.hasRow patch.agentId = true := by
    intro patch member stores
    have present := sound.patchesFind patch member stores
    rcases keepsRows_of_effect effect present with kept | isDeleted
    · exact kept
    · have noneLeft := (unattended.1 _ isDeleted).patches patch member rfl
      rw [noneLeft] at stores
      cases stores
  cases effect with
  | session _ _ _ _ samePatches | connects _ _ samePatches
  | party _ _ _ _ _ _ samePatches | requested _ _ samePatches
  | deletes _ _ _ _ samePatches | aside _ samePatches =>
    rwa [samePatches]
  | patched requests =>
    rw [requests]
    intro patch member stores
    rcases List.mem_append.mp member with old | added
    · exact stillFinds patch old stores
    · rw [List.mem_singleton.mp added] at stores
      cases stores
  | patch moves =>
    rw [moves.moves]
    intro found member stores
    rcases List.mem_or_eq_of_mem_set member with old | rfl
    · exact stillFinds found old stores
    · rcases moves.finds stores with before | present
      · have found :=
          stillFinds _ (List.mem_of_getElem? moves.isPatch) before
        exact found
      · exact moves.keepsRows _ present

theorem Sound.deletes_step
    (sound : Sound sys)
    (effect : Effect sys next action)
    (unattended : DeletesUnattended sys action) :
    ∀ agentId, next.Deletes agentId →
      next.hasRow agentId = false ∧
        OnlyNew agentId (fun _ => False) (fun _ => False) next := by
  intro agentId deletes
  rcases deletes_of_effect effect deletes with
    before | ⟨isDeleted, absent, sameWriters⟩
  · obtain ⟨absent, onlyNew⟩ := sound.deletes agentId before
    have noneBegins : ¬ action.begins? = some agentId :=
      fun begins => unattended.2 agentId begins before
    constructor
    · by_contra present
      rcases
          appears_of_effect sound.patchesFind onlyNew effect absent
            ((Bool.not_eq_false _).mp present) with
        ⟨_, _, _, _, isNew⟩ | ⟨_, _, _, _, isNew⟩
      · exact isNew
      · exact isNew
    · refine onlyNew.step effect ?_ ?_
      · rintro socket rfl
        exact noneBegins rfl
      · rintro request rfl isOwn
        exact noneBegins (congrArg some isOwn)
  · exact ⟨absent, (unattended.1 agentId isDeleted).onlyNew.of_same sameWriters⟩

theorem Sound.step
    {library : TextLibrary}
    {context : DeploymentContext}
    (sound : Sound sys)
    (stepped : sys.step? library context action = some next)
    (unattended : DeletesUnattended sys action) :
    Sound next := by
  have effect := effect_step sound.keepsAgent stepped
  exact
    ⟨keepsAgent_of_effect sound.keepsAgent effect,
      sound.patchesFind_step effect unattended,
      sound.deletes_step effect unattended⟩

theorem parties_grow
    (effect : Effect sys next action) :
    sys.deployments.parties.length ≤ next.deployments.parties.length := by
  cases effect with
  | session _ _ _ sameParties | connects _ sameParties =>
    rw [sameParties]
  | party _ _ _ moves =>
    rw [moves, List.length_set]
  | requested requested =>
    rw [requested, List.length_append]
    omega
  | patched _ sameWriters | patch _ sameWriters
  | deletes _ _ _ sameWriters | aside sameWriters =>
    rw [sameWriters.parties]

end Rows

end DeletionSystem

open DeletionSystem (OnlyNew Sound appears_of_effect effect_step
  parties_grow)

/-- What holds in a run after a deletion is complete. -/
structure AfterDeletion
    (agentId : String)
    (deleted : DeletionSystem)
    (later : List DeletionAction)
    (sys : DeletionSystem) : Prop where
  sound : Sound sys
  onlyNew :
    OnlyNew agentId
      (fun socket => .session (.receiveHandshake socket agentId) ∈ later)
      (fun position => deleted.deployments.parties.length ≤ position) sys
  grown : deleted.deployments.parties.length ≤ sys.deployments.parties.length

theorem AfterDeletion.step
    {library : TextLibrary}
    {context : DeploymentContext}
    {agentId : String}
    {deleted sys next : DeletionSystem}
    {later : List DeletionAction}
    {action : DeletionAction}
    (after : AfterDeletion agentId deleted later sys)
    (stepped : sys.step? library context action = some next)
    (unattended : DeletesUnattended sys action) :
    AfterDeletion agentId deleted (later ++ [action]) next := by
  have effect := effect_step after.sound.keepsAgent stepped
  refine ⟨after.sound.step stepped unattended, ?_, ?_⟩
  · have larger :=
      after.onlyNew.mono
        (fun _ (member : _ ∈ later) => List.mem_append_left [action] member)
        fun _ => id
    refine larger.step effect ?_ ?_
    · rintro socket rfl
      exact List.mem_append_right later (List.mem_singleton_self _)
    · exact fun _ _ _ => after.grown
  · exact after.grown.trans (parties_grow effect)

/--
In every run in which a row is deleted only while nothing is under way for
its agent, and nothing begins for it before the deletion is complete, the
deletion stands until the agent presents itself or is deployed anew.
-/
theorem deletionsStand_of_unattended
    (library : TextLibrary)
    (context : DeploymentContext) :
    DeletionsStand
      (Guarded (Fires (DeletionSystem.step? library context))
        DeletesUnattended) := by
  intro server issued earlier before deleted agentId position now leading
    isDelete ⟨completes, unattended⟩
  have start : Sound (.started server issued) := by
    constructor
    · exact fun _ member => (List.not_mem_nil member).elim
    · exact fun _ member => (List.not_mem_nil member).elim
    · exact fun _ member => (List.not_mem_nil member).elim
  have stepPreserves :
      ∀ sys action next,
        Guarded (Fires (DeletionSystem.step? library context))
            DeletesUnattended sys action next →
        Sound sys → Sound next :=
    fun _ _ _ ⟨stepped, unattended⟩ sound => sound.step stepped unattended
  have soundBefore := leading.preserves stepPreserves start
  obtain ⟨absent, noneLeft⟩ :=
    soundBefore.deletes agentId (List.mem_of_getElem? isDelete)
  obtain rfl : before.setDelete position agentId .deleted = deleted := by
    have taken := completes
    dsimp only [Fires, DeletionSystem.step?] at taken
    rw [isDelete] at taken
    exact Option.some.inj taken
  refine ⟨absent, ?_⟩
  intro later action middle final run ⟨stepped, _⟩ absentBefore present
  have onlyNew :
      OnlyNew agentId (fun _ => False) (fun _ => False)
        (before.setDelete position agentId .deleted) :=
    noneLeft.of_same ⟨rfl, rfl⟩
  have after :
      AfterDeletion agentId (before.setDelete position agentId .deleted) []
        (before.setDelete position agentId .deleted) :=
    ⟨soundBefore.step completes unattended,
      onlyNew.mono (fun _ => False.elim) fun _ => False.elim, le_rfl⟩
  have afterRun :
      AfterDeletion agentId (before.setDelete position agentId .deleted)
        later middle :=
    run.traced
      (fun _ _ _ _ _ ⟨stepped, unattended⟩ after =>
        after.step stepped unattended)
      after
  have effect := effect_step afterRun.sound.keepsAgent stepped
  rcases
      appears_of_effect afterRun.sound.patchesFind afterRun.onlyNew effect
        absentBefore present with
    ⟨_, socket, rfl, isSocket, isNew⟩ | ⟨_, party, rfl, isParty, isNew⟩
  · exact ⟨socket, isSocket, isNew⟩
  · exact ⟨party, isParty, isNew⟩

/-! ### An agent that is deleted -/

/-- A registry that knows one agent, without credentials. -/
def knownAgent : DeploymentServer where
  registry :=
    { agents :=
        { rows := [{ id := "agent-1", createdAt := 900, updatedAt := 900 }]
          distinct := by decide } }

/-- The agent presents itself on a connection, and is stored. -/
def presenting (socket : Nat) : List DeletionAction :=
  [.session .connect, .session (.receiveHandshake socket "agent-1"),
    .session (.authorize socket .accepted 1000),
    .session (.greeted socket true 1000),
    .session (.upsert socket true 1000)]

def leaving (socket : Nat) : List DeletionAction :=
  [.session (.disconnect socket 1100), .session (.clean socket true 1100)]

def registering : List DeletionAction :=
  presenting 0 ++
    [.session (.upsert 0 true 1000), .session (.upsert 0 true 1000)]

/-- The deletion of an agent whose session is open. -/
def deletingConnected : List DeletionAction :=
  registering ++
    [.requestDelete "agent-1", .advanceDelete 0 1050, .advanceDelete 0 1050,
      .advanceDelete 0 1050]

/-- The deletion of an agent whose session has been torn down. -/
def deletingDisconnected : List DeletionAction :=
  registering ++ leaving 0 ++
    [.session (.clean 0 true 1100), .session (.clean 0 true 1100),
      .requestDelete "agent-1", .advanceDelete 0 1150,
      .advanceDelete 0 1150]

/-- A deletion that is completed, and a row that appears after it. -/
def reappears
    (step? : DeletionSystem → DeletionAction → Option DeletionSystem)
    (earlier later : List DeletionAction)
    (last : DeletionAction) : Bool :=
  (Transition.execute step? (.started knownAgent []) earlier).any
    fun before =>
      decide
          (before.deletes[0]? =
            some { agentId := "agent-1", point := .committing }) &&
        (step? before (.advanceDelete 0 1200)).any fun deleted =>
          (Transition.execute step? deleted later).any fun middle =>
            !middle.hasRow "agent-1" &&
              (step? middle last).any (·.hasRow "agent-1")

theorem runs_of_reappears
    {step? : DeletionSystem → DeletionAction → Option DeletionSystem}
    {earlier later : List DeletionAction}
    {last : DeletionAction}
    (found : reappears step? earlier later last = true) :
    ∃ before deleted middle final,
      Run (Fires step?) (.started knownAgent []) earlier before ∧
        before.deletes[0]? =
          some { agentId := "agent-1", point := .committing } ∧
        Fires step? before (.advanceDelete 0 1200) deleted ∧
        Run (Fires step?) deleted later middle ∧
        Fires step? middle last final ∧
        middle.hasRow "agent-1" = false ∧
        final.hasRow "agent-1" = true := by
  simp only [reappears, Option.any_eq_true, Bool.and_eq_true,
    decide_eq_true_eq, Bool.not_eq_true'] at found
  obtain ⟨before, leading, isDelete, deleted, completes, middle, trailing,
    absent, final, stepped, present⟩ := found
  exact
    ⟨before, deleted, middle, final, run_of_execute leading, isDelete,
      completes, run_of_execute trailing, stepped, absent, present⟩

/-- An agent that was gone comes back with a new handshake. -/
theorem presenting_isNew :
    ∃ deleted final : DeletionSystem,
      deleted.hasRow "agent-1" = false ∧ final.hasRow "agent-1" = true ∧
        IsNew "agent-1" deleted (presenting 1)
          (.session (.upsert 1 true 1300)) := by
  obtain ⟨before, deleted, middle, final, leading, isDelete, completes,
    trailing, stepped, absent, present⟩ :=
    runs_of_reappears
      (show
        reappears
            (checked
              (DeletionSystem.step? asciiTextLibrary asciiContext)
              DeletesUnattended)
            deletingDisconnected (presenting 1)
            (.session (.upsert 1 true 1300)) =
          true by decide)
  obtain ⟨gone, appears⟩ :=
    deletionsStand_of_unattended asciiTextLibrary asciiContext
      (Run.guarded_of_checked leading) isDelete (guarded_of_checked completes)
  exact
    ⟨deleted, final, gone, present,
      appears (Run.guarded_of_checked trailing) (guarded_of_checked stepped) absent
        present⟩

/-- The session of a deleted agent stores it again when it is torn down. -/
theorem not_deletionsStand :
    ¬ DeletionsStand
        (Fires (DeletionSystem.step? asciiTextLibrary asciiContext)) := by
  intro claimed
  obtain ⟨before, deleted, middle, final, leading, isDelete, completes,
    trailing, stepped, absent, present⟩ :=
    runs_of_reappears
      (show
        reappears (DeletionSystem.step? asciiTextLibrary asciiContext)
            deletingConnected (leaving 0)
            (.session (.clean 0 true 1100)) =
          true by decide)
  obtain ⟨_, appears⟩ := claimed leading isDelete completes
  obtain ⟨socket, _, isNew⟩ := appears trailing stepped absent present
  simp [leaving] at isNew

end RpaPlatform.Deploy
