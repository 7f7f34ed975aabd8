import RpaPlatform.DeploymentSystem

namespace RpaPlatform.Deploy

open Agents (AgentChange AgentRecord TextLibrary getField mergeAgent orText
  strip)
open Tasks (TaskSpec)
open Transition

/-!
# The agents that deployments write

A deployment, from its request to the end of its preparation, stores the row
of the agent that it has been requested for, and of no other one.
-/

/-- All rows of agents but one are as before, and none goes away. -/
structure WritesOnly
    (agentId : String)
    (before after : Registry) : Prop where
  others :
    ∀ other, other ≠ agentId →
      after.agents.find? other = before.agents.find? other
  keepsRows :
    ∀ other, (before.agents.find? other).isSome = true →
      (after.agents.find? other).isSome = true

theorem writesOnly_of_same
    {agentId : String}
    {before after : Registry}
    (same : after.agents = before.agents) :
    WritesOnly agentId before after where
  others := fun other _ => by rw [same]
  keepsRows := fun other present => by rwa [same]

theorem writesOnly_writeAgent
    (registry : Registry)
    (agentId : String)
    (existing : Option AgentRecord)
    (change : AgentChange)
    (now : Int) :
    WritesOnly agentId registry
      (registry.writeAgent (mergeAgent agentId existing change now)) := by
  have found :=
    KeyedTable.find?_upsert registry.agents
      (mergeAgent agentId existing change now)
      (fun stored =>
        { mergeAgent agentId existing change now with
          id := stored.id, createdAt := stored.createdAt })
      fun _ => rfl
  constructor
  · intro other different
    exact (found other).trans (if_neg (Ne.symm different))
  · intro other present
    refine (congrArg Option.isSome (found other)).trans ?_
    split
    · rfl
    · exact present

theorem writesOnly_upsertStep
    (server : DeploymentServer)
    (agentId : String)
    (change : AgentChange)
    (now : Int)
    (progress : UpsertProgress) :
    WritesOnly agentId server.registry
      (server.upsertStep agentId change now progress).1.registry := by
  cases progress with
  | none =>
    exact writesOnly_of_same rfl
  | some read =>
    exact writesOnly_writeAgent _ _ _ _ _

/-! ### Whose deployment it is -/

theorem agentId_of_readTask
    {library : TextLibrary}
    {preparation : Preparation}
    {repoRoot : String}
    {run : PrepareRun}
    (accepts : readTask library (preparation.taskSpec repoRoot) = .ok run) :
    run.agentId = strip preparation.agentId := by
  have isAgent :
      (preparation.taskSpec repoRoot).identity.agentId =
        preparation.agentId := by
    rw [Preparation.taskSpec, Tasks.identity_prepareTask]
  have found :
      getField (preparation.taskSpec repoRoot).payload "agent_id" =
        .str preparation.agentId := by
    rw [payload_taskSpec]
    rfl
  have named :
      run.agentId =
        strip
          (orText
            (Agents.textOr library
              (getField (preparation.taskSpec repoRoot).payload "agent_id"))
            (preparation.taskSpec repoRoot).identity.agentId) := by
    unfold readTask at accepts
    dsimp only at accepts
    split at accepts
    · cases accepts
    · split at accepts
      · cases accepts
      · obtain rfl := Except.ok.inj accepts
        rfl
  rw [named, found, isAgent, Agents.textOr, orText]
  by_cases nonempty : preparation.agentId = ""
  · simp [nonempty, Agents.truthy]
  · simp [nonempty, Agents.truthy]

/-- What a call is preparing. -/
def CallPoint.preparation? : CallPoint → Option Preparation
  | .registering preparation _ => some preparation
  | .settingToken preparation => some preparation
  | .inserting preparation => some preparation
  | .linking preparation _ => some preparation
  | .submitting preparation => some preparation
  | .auditingTask preparation => some preparation
  | .dispatching preparation _ => some preparation
  | .marking preparation _ => some preparation
  | .auditingMark preparation => some preparation
  | .rejecting preparation _ => some preparation
  | .auditingRejection preparation _ => some preparation
  | .failing preparation _ => some preparation
  | .unregistering preparation _ => some preparation
  | .reading preparation => some preparation
  | _ => none

/-- What a call has dispatched. -/
def CallPoint.run? : CallPoint → Option PrepareRun
  | .dispatching _ run => some run
  | .marking _ run => some run
  | _ => none

/-- What runs in the background. -/
def RunPoint.run? : RunPoint → Option PrepareRun
  | .starting run => some run
  | .preparing run => some run
  | .storing run _ => some run
  | .completing run _ => some run
  | .auditingCompletion run _ => some run
  | .readying run _ _ => some run
  | .failing run _ _ => some run
  | .failingTask run _ => some run
  | .auditingFailure run _ => some run
  | .markingAgent run _ => some run
  | .ended => none

/-- All that is under way for a request is about the request's agent. -/
structure Party.KeepsAgent (party : Party) : Prop where
  unpadded : strip party.request.agentId = party.request.agentId
  prepares :
    ∀ preparation ∈ party.call.preparation?, preparation.request = party.request
  dispatches : ∀ run ∈ party.call.run?, run.agentId = party.request.agentId
  runs :
    ∀ point ∈ party.run, ∀ run ∈ point.run?, run.agentId = party.request.agentId

section Steps

variable
    {context : DeploymentContext}
    {sys next : DeploymentSystem}
    {server after : DeploymentServer}
    {party moved : Party}
    {now : Int}

/-- A step of a party that keeps to its agent. -/
structure StaysWithAgent
    (server : DeploymentServer)
    (party : Party)
    (after : DeploymentServer)
    (moved : Party) : Prop where
  sameRequest : moved.request = party.request
  keepsAgent : moved.KeepsAgent
  writes : WritesOnly party.request.agentId server.registry after.registry

theorem Party.KeepsAgent.of_call
    (keeps : party.KeepsAgent)
    {call : CallPoint}
    (samePreparation :
      call.preparation? = none ∨ call.preparation? = party.call.preparation?)
    (sameRun : call.run? = none ∨ call.run? = party.call.run?) :
    Party.KeepsAgent { party with call } := by
  refine ⟨keeps.unpadded, ?_, ?_, keeps.runs⟩
  · intro preparation member
    rcases samePreparation with absent | same
    · cases absent.symm.trans member
    · exact keeps.prepares preparation (same.symm.trans member)
  · intro run member
    rcases sameRun with absent | same
    · cases absent.symm.trans member
    · exact keeps.dispatches run (same.symm.trans member)

theorem Party.KeepsAgent.dispatchPoint
    (keeps : party.KeepsAgent)
    {preparation : Preparation}
    (isOwn : preparation.agentId = party.request.agentId)
    (isPreparing : party.call.preparation? = some preparation) :
    Party.KeepsAgent
      { party with call := dispatchPoint context preparation } := by
  unfold Deploy.dispatchPoint
  split
  · split
    · exact keeps.of_call (.inr isPreparing.symm) (.inl rfl)
    · rename_i run accepts
      refine ⟨keeps.unpadded, ?_, ?_, keeps.runs⟩
      · intro found isFound
        exact keeps.prepares found (isPreparing.trans isFound)
      · intro found isFound
        cases isFound
        rw [agentId_of_readTask accepts, isOwn]
        exact keeps.unpadded
  · exact keeps.of_call (.inr isPreparing.symm) (.inl rfl)

theorem Party.KeepsAgent.of_run
    (keeps : party.KeepsAgent)
    {point : RunPoint}
    (same : ∀ run ∈ point.run?, run.agentId = party.request.agentId) :
    Party.KeepsAgent { party with run := some point } where
  unpadded := keeps.unpadded
  prepares := keeps.prepares
  dispatches := keeps.dispatches
  runs := fun _ isPoint => Option.some.inj isPoint ▸ same

theorem staysWithAgent_upsert
    {change : AgentChange}
    {progress : UpsertProgress}
    {agentId : String}
    (isOwn : agentId = party.request.agentId)
    {continued : UpsertProgress → Party}
    {ended : Party}
    (keepsAgent :
      ∀ next, (∃ later, next = continued later) ∨ next = ended →
        next.request = party.request ∧ next.KeepsAgent)
    (stepped :
      (match server.upsertStep agentId change now progress with
        | (server, some later) => some (server, continued later)
        | (server, none) => some (server, ended)) = some (after, moved)) :
    StaysWithAgent server party after moved := by
  obtain ⟨rfl, goesOn⟩ := upsertStep_cases stepped
  obtain ⟨sameRequest, keeps⟩ := keepsAgent moved goesOn
  subst isOwn
  exact ⟨sameRequest, keeps, writesOnly_upsertStep _ _ _ _ _⟩

/-- What a call does writes its own agent. -/
theorem staysWithAgent_callStep
    (keeps : party.KeepsAgent)
    (stepped : callStep? context now server party = some (after, moved)) :
    StaysWithAgent server party after moved := by
  obtain ⟨request, draft, call, run⟩ := party
  unfold callStep? at stepped
  cases call with
  | waiting | checking | refused | resolving | returned | raised =>
    cases stepped
  | registering preparation progress | linking preparation progress
  | unregistering preparation progress =>
    have isOwn := congrArg PrepareRequest.agentId (keeps.prepares _ rfl)
    refine staysWithAgent_upsert isOwn ?_ stepped
    rintro next (⟨later, rfl⟩ | rfl)
    · exact ⟨rfl, keeps.of_call (.inr rfl) (.inl rfl)⟩
    · exact ⟨rfl, keeps.of_call (.inr rfl) (.inl rfl)⟩
  | inserting preparation | submitting preparation =>
    dsimp only at stepped
    split at stepped
    · obtain ⟨rfl, rfl⟩ := Prod.mk.inj (Option.some.inj stepped)
      exact ⟨rfl, keeps.of_call (.inl rfl) (.inl rfl), writesOnly_of_same rfl⟩
    · rename_i inserted
      obtain ⟨_, _, rfl⟩ := Option.map_eq_some_iff.mp inserted
      obtain ⟨rfl, rfl⟩ := Prod.mk.inj (Option.some.inj stepped)
      exact ⟨rfl, keeps.of_call (.inr rfl) (.inl rfl), writesOnly_of_same rfl⟩
  | auditingTask preparation =>
    obtain ⟨rfl, rfl⟩ := Prod.mk.inj (Option.some.inj stepped)
    have isOwn := congrArg PrepareRequest.agentId (keeps.prepares _ rfl)
    exact ⟨rfl, keeps.dispatchPoint isOwn rfl, writesOnly_of_same rfl⟩
  | marking preparation dispatched =>
    obtain ⟨rfl, rfl⟩ := Prod.mk.inj (Option.some.inj stepped)
    have isOwn := keeps.dispatches dispatched rfl
    have aside :
        Party.KeepsAgent
          { request, draft, call := .auditingMark preparation, run } :=
      keeps.of_call (.inr rfl) (.inl rfl)
    refine ⟨rfl, aside.of_run ?_, writesOnly_of_same rfl⟩
    intro started isStarted
    exact Option.some.inj isStarted ▸ isOwn
  | dispatching preparation dispatched =>
    obtain ⟨rfl, rfl⟩ := Prod.mk.inj (Option.some.inj stepped)
    exact ⟨rfl, keeps.of_call (.inr rfl) (.inr rfl), writesOnly_of_same rfl⟩
  | reading preparation =>
    obtain ⟨rfl, rfl⟩ := Prod.mk.inj (Option.some.inj stepped)
    exact ⟨rfl, keeps.of_call (.inl rfl) (.inl rfl), writesOnly_of_same rfl⟩
  | settingToken | auditingMark | rejecting | auditingRejection | failing =>
    obtain ⟨rfl, rfl⟩ := Prod.mk.inj (Option.some.inj stepped)
    exact ⟨rfl, keeps.of_call (.inr rfl) (.inl rfl), writesOnly_of_same rfl⟩

theorem keepsAgent_callFail
    (keeps : party.KeepsAgent)
    (failed : callFail? party = some moved) :
    moved.request = party.request ∧ moved.KeepsAgent := by
  obtain ⟨request, draft, call, run⟩ := party
  unfold callFail? at failed
  cases call with
  | waiting | refused | returned | raised =>
    cases failed
  | marking preparation dispatched =>
    cases failed
    have isOwn := keeps.dispatches dispatched rfl
    have raised : Party.KeepsAgent { request, draft, call := .raised, run } :=
      keeps.of_call (.inl rfl) (.inl rfl)
    refine ⟨rfl, raised.of_run ?_⟩
    intro started isStarted
    exact Option.some.inj isStarted ▸ isOwn
  | _ =>
    cases failed
    exact ⟨rfl, keeps.of_call (.inl rfl) (.inl rfl)⟩

theorem writesOnly_runStep
    {point later : RunPoint}
    {agentId : String}
    (isOwn : ∀ run ∈ point.run?, run.agentId = agentId)
    (stepped : runStep? context now server point = some (after, later)) :
    WritesOnly agentId server.registry after.registry ∧
      ∀ run ∈ later.run?, run.agentId = agentId := by
  have ends : ∀ run ∈ RunPoint.ended.run?, run.agentId = agentId :=
    fun _ member => (Option.not_mem_none _ member).elim
  unfold runStep? at stepped
  cases point with
  | preparing | ended =>
    cases stepped
  | readying run log progress | markingAgent run progress =>
    obtain ⟨rfl, goesOn⟩ := upsertStep_cases stepped
    obtain rfl := isOwn run rfl
    refine ⟨writesOnly_upsertStep _ _ _ _ _, ?_⟩
    rcases goesOn with ⟨_, rfl⟩ | rfl
    · exact isOwn
    · exact ends
  | _ =>
    obtain ⟨rfl, rfl⟩ := Prod.mk.inj (Option.some.inj stepped)
    exact ⟨writesOnly_of_same rfl, isOwn⟩

theorem run?_runFail
    {error : String}
    {log : List String}
    {point later : RunPoint}
    (failed : runFail? error log point = some later) :
    later.run? = none ∨ later.run? = point.run? := by
  unfold runFail? at failed
  cases point with
  | preparing | storing | completing | auditingCompletion | readying =>
    cases failed
    exact .inr rfl
  | ended =>
    cases failed
  | _ =>
    cases failed
    exact .inl rfl

theorem run?_downloaded (run : PrepareRun) (digest : String) :
    (downloaded run digest).run? = some run := by
  unfold downloaded
  split
  · rfl
  · rfl

/-- A party that goes on writes its own agent, and leaves the others. -/
theorem staysWithAgent_partyStep
    {position : Nat}
    {action : DeploymentAction}
    (keeps : party.KeepsAgent)
    (stepped : sys.partyStep? context position party action = some next) :
    ∃ moved,
      next.parties = sys.parties.set position moved ∧
        next.phase = sys.phase ∧
        StaysWithAgent sys.server party next.server moved := by
  cases action with
  | acquire =>
    dsimp only [DeploymentSystem.partyStep?] at stepped
    split at stepped
    · cases stepped
      exact
        ⟨_, rfl, rfl, rfl, keeps.of_call (.inl rfl) (.inl rfl),
          writesOnly_of_same rfl⟩
    · cases stepped
  | check _ draft =>
    dsimp only [DeploymentSystem.partyStep?,
      DeploymentSystem.checkStep?] at stepped
    split at stepped
    · split at stepped
      · cases stepped
        exact
          ⟨_, rfl, rfl, rfl, keeps.of_call (.inl rfl) (.inl rfl),
            writesOnly_of_same rfl⟩
      · split at stepped
        · cases stepped
          have resolving :
              Party.KeepsAgent { party with call := .resolving draft } :=
            keeps.of_call (.inl rfl) (.inl rfl)
          exact
            ⟨_, rfl, rfl, rfl,
              ⟨resolving.unpadded, resolving.prepares,
                resolving.dispatches, resolving.runs⟩,
              writesOnly_of_same rfl⟩
        · cases stepped
    · cases stepped
  | resolve _ release mapping provisioning =>
    dsimp only [DeploymentSystem.partyStep?] at stepped
    split at stepped
    · cases stepped
      refine
        ⟨_, rfl, rfl, rfl, ⟨keeps.unpadded, ?_, ?_, keeps.runs⟩,
          writesOnly_of_same rfl⟩
      · intro preparation member
        cases member
        rfl
      · exact fun _ member => (Option.not_mem_none _ member).elim
    · cases stepped
  | proceed _ now =>
    obtain ⟨⟨after, moved⟩, isStep, rfl⟩ :=
      Option.map_eq_some_iff.mp stepped
    exact ⟨moved, rfl, rfl, staysWithAgent_callStep keeps isStep⟩
  | fail _ =>
    obtain ⟨moved, failed, rfl⟩ := Option.map_eq_some_iff.mp stepped
    obtain ⟨sameRequest, stillKeeps⟩ := keepsAgent_callFail keeps failed
    exact ⟨moved, rfl, rfl, sameRequest, stillKeeps, writesOnly_of_same rfl⟩
  | download _ digest =>
    dsimp only [DeploymentSystem.partyStep?] at stepped
    split at stepped
    · rename_i run isPoint
      cases stepped
      refine ⟨_, rfl, rfl, rfl, keeps.of_run ?_, writesOnly_of_same rfl⟩
      rw [run?_downloaded]
      exact keeps.runs _ isPoint
    · cases stepped
  | proceedRun _ now =>
    obtain ⟨point, isPoint, goesOn⟩ := Option.bind_eq_some_iff.mp stepped
    obtain ⟨⟨after, later⟩, isStep, rfl⟩ :=
      Option.map_eq_some_iff.mp goesOn
    obtain ⟨writes, isOwn⟩ :=
      writesOnly_runStep (keeps.runs point isPoint) isStep
    exact ⟨_, rfl, rfl, rfl, keeps.of_run isOwn, writes⟩
  | failRun _ error log =>
    obtain ⟨point, isPoint, goesOn⟩ := Option.bind_eq_some_iff.mp stepped
    obtain ⟨later, failed, rfl⟩ := Option.map_eq_some_iff.mp goesOn
    refine ⟨_, rfl, rfl, rfl, keeps.of_run ?_, writesOnly_of_same rfl⟩
    rcases run?_runFail failed with absent | same
    · rw [absent]
      exact fun _ member => (Option.not_mem_none _ member).elim
    · rw [same]
      exact keeps.runs point isPoint
  | restart | recover | request | crash =>
    cases stepped

end Steps

end RpaPlatform.Deploy
