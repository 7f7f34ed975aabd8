import RpaPlatform.AgentPolicyPatches
import RpaPlatform.DeploymentAgents
import RpaPlatform.SessionAgents

namespace RpaPlatform.Deploy

open Agents (AccessUpdateRequest AgentChange AgentRecord AgentRuntime
  AgentSession Monitoring PatchStage PatchSystem Provisioned SocketAction
  SocketSystem TextLibrary getField mappingMetadata mergeAgent objectAt
  provisionedMapping socketStep? strip)
open Transition

/-!
# Deletions of agents

`api_delete_agent_registry_item`, beside all that stores a row of `agents`
while a server runs: the sessions of agents, deployments and their background
preparations, and `api_update_agent_registry_item`.  Each request takes a step
for each of its awaits.  The caller's role has been checked.
-/

/-! ### Requests to change an agent -/

/-- `AgentRegistryUpdateRequest`, and where its request is. -/
structure AgentPatch where
  agentId : String
  hostname : Option String := none
  displayName : Option String := none
  access : Option AccessUpdateRequest := none
  stage : PatchStage := .looking

namespace AgentPatch

variable (library : TextLibrary) (patch : AgentPatch)

/-- What `upsert_agent` is given first. -/
def change : AgentChange where
  hostname := strip (patch.hostname.getD "")
  displayName := strip (patch.displayName.getD "")
  metadata :=
    patch.access.map fun access =>
      mappingMetadata [("access", .obj access.modelDump)]

/-- Once the row has been read again: there may be nothing to provision. -/
def reloaded : Option AgentRecord → PatchStage
  | none => .finished
  | some updated =>
    let mapping := objectAt updated.metadata "guacamole"
    if mapping.isEmpty then
      .finished
    else
      .provisioning
        (PatchSystem.provisionHostname library patch.agentId
          updated.hostname mapping)
        mapping

/-- An await of the request ends. -/
def advance? (registry : Registry) (now : Int) :
    Option (Registry × PatchStage) :=
  let stored := registry.agents.find? patch.agentId
  match patch.stage with
  | .looking =>
    match stored with
    | none => some (registry, .finished)
    | some _ => some (registry, .reading now)
  | .reading time =>
    some (registry, .writing time stored)
  | .writing time existing =>
    some
      (registry.writeAgent
        (mergeAgent patch.agentId existing patch.change time),
        .committing)
  | .committing =>
    some (registry, .reloading)
  | .reloading =>
    some (registry, patch.reloaded library stored)
  | .provisioning .. =>
    none
  | .readingBack time refreshed =>
    some (registry, .writingBack time refreshed stored)
  | .writingBack time refreshed existing =>
    some
      (registry.writeAgent
        (mergeAgent patch.agentId existing
          { metadata := some (mappingMetadata refreshed) } time),
        .committingBack)
  | .committingBack =>
    some (registry, .reloadingBack)
  | .reloadingBack =>
    some (registry, .finished)
  | .finished =>
    none

/-- Guacamole has been provisioned; what it raises is only logged. -/
def provision? (provisioned : Provisioned) (now : Int) :
    Option PatchStage :=
  match patch.stage with
  | .provisioning hostname mapping =>
    some
      (match
          provisionedMapping library patch.agentId hostname mapping
            provisioned with
      | none => .finished
      | some refreshed => .readingBack now refreshed)
  | _ =>
    none

/-- The request fails, or its second part is given up. -/
def fail? : Option PatchStage :=
  match patch.stage with
  | .finished => none
  | _ => some .finished

/--
A request with an access policy does to the agents what one of the requests on
a single agent does.
-/
theorem advance?_policy
    (registry : Registry)
    (policy : Agents.RegistryPatch)
    (agentId : String)
    (stage : PatchStage)
    (now : Int) :
    (PatchSystem.advance? library agentId
        { registry :=
            { agents := registry.agents
              deployments := .empty
              credentials := registry.credentials }
          patches := [{ patch := policy, stage }] }
        0 { patch := policy, stage } now).map
        (fun after => (after.registry.agents, after.patches.map (·.stage))) =
      (AgentPatch.advance? library
          { agentId
            hostname := policy.hostname
            displayName := policy.displayName
            access := some policy.access
            stage }
          registry now).map
        fun stepped => (stepped.1.agents, [stepped.2]) := by
  cases stage with
  | looking =>
    unfold PatchSystem.advance? AgentPatch.advance?
      Agents.AgentRegistry.getAgent
    cases registry.agents.find? agentId with
    | none =>
      rfl
    | some stored =>
      rfl
  | reloading =>
    unfold PatchSystem.advance? PatchSystem.reload AgentPatch.advance?
      AgentPatch.reloaded Agents.AgentRegistry.getAgent
    cases registry.agents.find? agentId with
    | none =>
      rfl
    | some updated =>
      dsimp only
      split
      · rfl
      · rfl
  | _ =>
    rfl

end AgentPatch

/-- Whether a request has found the row, and may still store it. -/
def mayStore : PatchStage → Bool
  | .looking => false
  | .finished => false
  | _ => true

/-! ### Requests to delete an agent -/

/-- Where `api_delete_agent_registry_item` is. -/
inductive DeletePoint where
  | looking
  /-- `timeout_agent` closes the connection. -/
  | closing
  | deleting
  | committing
  | deleted
  /-- There is no such agent, or an await raises. -/
  | ended
deriving DecidableEq

structure AgentDelete where
  agentId : String
  point : DeletePoint := .looking
deriving DecidableEq

/-! ### The server -/

/-- The server, and all that stores agents. -/
structure DeletionSystem where
  /-- With the databases that all of them share. -/
  deployments : DeploymentSystem
  monitoring : Monitoring := {}
  sessions : List AgentSession := []
  patches : List AgentPatch := []
  deletes : List AgentDelete := []

/-- What can happen next. -/
inductive DeletionAction where
  | session (action : SocketAction)
  | deployment (action : DeploymentAction)
  | requestPatch (patch : AgentPatch)
  | advancePatch (position : Nat) (now : Int)
  | provisionPatch (position : Nat) (provisioned : Provisioned) (now : Int)
  | failPatch (position : Nat)
  | requestDelete (agentId : String)
  | advanceDelete (position : Nat) (now : Int)
  | failDelete (position : Nat)
  /-- Another operation, on the other tables. -/
  | changeTables (registry : Registry)

/-- The actions on deployments while a server runs, as they are requested. -/
def routed? : DeploymentAction → Option DeploymentAction
  | .request request =>
    some (.request { request with agentId := strip request.agentId })
  | .restart => none
  | .recover _ => none
  | .crash => none
  | action => some action

/-- The agent to whose row the next statement of a call refers. -/
def CallPoint.refersTo? : CallPoint → Option String
  | .settingToken preparation => some preparation.agentId
  | .inserting preparation => some preparation.agentId
  | _ => none

namespace DeletionSystem

variable (sys : DeletionSystem)

def registry : Registry :=
  sys.deployments.server.registry

def withRegistry (registry : Registry) : DeletionSystem :=
  { sys with
    deployments :=
      { sys.deployments with
        server := { sys.deployments.server with registry } } }

def withRuntime (runtime : AgentRuntime) : DeletionSystem :=
  { sys with monitoring := { sys.monitoring with runtime } }

def hasRow (agentId : String) : Bool :=
  (sys.registry.agents.find? agentId).isSome

/-- What the sessions see; what other tables tell them is in their steps. -/
def sockets : SocketSystem where
  registry :=
    { agents := sys.registry.agents
      deployments := .empty
      credentials := sys.registry.credentials }
  monitoring := sys.monitoring
  sessions := sys.sessions

/-- After a step of the sessions. -/
def withSockets (after : SocketSystem) : DeletionSystem :=
  { sys.withRegistry
      { sys.registry with agents := after.registry.agents } with
    monitoring := after.monitoring
    sessions := after.sessions }

def sessionStep? (library : TextLibrary) :
    SocketAction → Option DeletionSystem
  | .changeRegistry _ => none
  | action => (socketStep? library sys.sockets action).map sys.withSockets

/-- A statement that refers to a row of `agents` needs it to be there. -/
def findsRow : DeploymentAction → Bool
  | .proceed position _ =>
    (sys.deployments.parties[position]?.bind fun party =>
      party.call.refersTo?).all sys.hasRow
  | _ => true

def deploymentStep?
    (context : DeploymentContext)
    (action : DeploymentAction) : Option DeletionSystem :=
  if sys.findsRow action then
    (routed? action).bind fun routed =>
      (sys.deployments.step? context routed).map fun deployments =>
        { sys with deployments }
  else
    none

/-- A request to change an agent goes on. -/
def setPatch
    (position : Nat)
    (patch : AgentPatch)
    (stage : PatchStage) : DeletionSystem :=
  { sys with patches := sys.patches.set position { patch with stage } }

/-- A request to delete an agent goes on. -/
def setDelete
    (position : Nat)
    (agentId : String)
    (point : DeletePoint) : DeletionSystem :=
  { sys with deletes := sys.deletes.set position { agentId, point } }

/-- `remove_agent`, up to the statement of `delete_agent`. -/
def removeAgent (position : Nat) (agentId : String) : DeletionSystem :=
  (sys.withRuntime
    (sys.monitoring.runtime.removeAgent agentId)).setDelete position agentId
      .deleting

/-- An await of a deletion ends. -/
def advanceDelete?
    (position : Nat)
    (agentId : String)
    (now : Int) : DeletePoint → Option DeletionSystem
  | .looking =>
    if sys.hasRow agentId then
      let runtime := sys.monitoring.runtime
      if (runtime.activeAgents.lookup agentId).isSome then
        some ((sys.withRuntime
            { runtime with
              activeAgents :=
                Dictionary.erase agentId
                  runtime.activeAgents }).setDelete position agentId
              .closing)
      else
        some (sys.removeAgent position agentId)
    else
      some (sys.setDelete position agentId .ended)
  | .closing =>
    let reset := sys.monitoring.runtime.resetAgentRuntimeState agentId now
    let after := sys.withRuntime reset.changed
    if reset.raised then
      some (after.setDelete position agentId .ended)
    else
      some (after.removeAgent position agentId)
  | .deleting =>
    some
      ((sys.withRegistry (sys.registry.deleteAgent agentId)).setDelete
        position agentId .committing)
  | .committing =>
    some (sys.setDelete position agentId .deleted)
  | .deleted =>
    none
  | .ended =>
    none

/-- Take a step, if it can be taken. -/
def step?
    (library : TextLibrary)
    (context : DeploymentContext)
    (sys : DeletionSystem) : DeletionAction → Option DeletionSystem
  | .session action =>
    sys.sessionStep? library action
  | .deployment action =>
    sys.deploymentStep? context action
  | .requestPatch patch =>
    some
      { sys with
        patches := sys.patches ++ [{ patch with stage := .looking }] }
  | .advancePatch position now =>
    sys.patches[position]?.bind fun patch =>
      (patch.advance? library sys.registry now).map fun stepped =>
        (sys.withRegistry stepped.1).setPatch position patch stepped.2
  | .provisionPatch position provisioned now =>
    sys.patches[position]?.bind fun patch =>
      (patch.provision? library provisioned now).map
        (sys.setPatch position patch)
  | .failPatch position =>
    sys.patches[position]?.bind fun patch =>
      patch.fail?.map (sys.setPatch position patch)
  | .requestDelete agentId =>
    some { sys with deletes := sys.deletes ++ [{ agentId }] }
  | .advanceDelete position now =>
    sys.deletes[position]?.bind fun request =>
      sys.advanceDelete? position request.agentId now request.point
  | .failDelete position =>
    sys.deletes[position]?.bind fun request =>
      match request.point with
      | .deleted => none
      | .ended => none
      | _ => some (sys.setDelete position request.agentId .ended)
  | .changeTables registry =>
    some (sys.withRegistry { registry with agents := sys.registry.agents })

/-- A server that has been started, on databases that it finds. -/
def started
    (server : DeploymentServer)
    (issued : List String) : DeletionSystem where
  deployments := { server, issued, phase := .serving }

end DeletionSystem

/-! ### Deletions that stand -/

/--
A step of a session that has presented the agent since, or of a deployment
that has been requested since.
-/
def IsNew
    (agentId : String)
    (deleted : DeletionSystem)
    (later : List DeletionAction) : DeletionAction → Prop
  | .session action =>
    ∃ socket ∈ action.socket,
      .session (.receiveHandshake socket agentId) ∈ later
  | .deployment action =>
    ∃ position ∈ action.party?, deleted.deployments.parties.length ≤ position
  | _ => False

/--
When the deletion of an agent is complete there is no row of it, and one only
appears in a step that is new.
-/
def DeletionsStand
    (step : DeletionSystem → DeletionAction → DeletionSystem → Prop) :
    Prop :=
  ∀ {server : DeploymentServer} {issued : List String}
    {earlier : List DeletionAction} {before deleted : DeletionSystem}
    {agentId : String} {position : Nat} {now : Int},
    Run step (.started server issued) earlier before →
    before.deletes[position]? = some { agentId, point := .committing } →
    step before (.advanceDelete position now) deleted →
    deleted.hasRow agentId = false ∧
      ∀ {later : List DeletionAction} {action : DeletionAction}
        {middle final : DeletionSystem},
        Run step deleted later middle →
        step middle action final →
        middle.hasRow agentId = false →
        final.hasRow agentId = true →
        IsNew agentId deleted later action

namespace DeletionSystem

variable (sys : DeletionSystem)

/-- A deletion of an agent has been made, and is not complete yet. -/
def Deletes (agentId : String) : Prop :=
  { agentId, point := .committing } ∈ sys.deletes

instance (agentId : String) : Decidable (sys.Deletes agentId) :=
  inferInstanceAs (Decidable (_ ∈ sys.deletes))

/-- Nothing that may store an agent is under way for it. -/
structure Unattended (agentId : String) : Prop where
  sessions : ∀ session ∈ sys.sessions, ¬ session.Presents agentId
  patches :
    ∀ patch ∈ sys.patches,
      patch.agentId = agentId → mayStore patch.stage = false
  parties :
    ∀ party ∈ sys.deployments.parties,
      party.request.agentId = agentId →
      (party.hasEnded && party.isQuiet) = true

instance (agentId : String) : Decidable (sys.Unattended agentId) :=
  decidable_of_iff
    ((∀ session ∈ sys.sessions, ¬ session.Presents agentId) ∧
      (∀ patch ∈ sys.patches,
        patch.agentId = agentId → mayStore patch.stage = false) ∧
      ∀ party ∈ sys.deployments.parties,
        party.request.agentId = agentId →
        (party.hasEnded && party.isQuiet) = true)
    ⟨fun ⟨sessions, patches, parties⟩ => ⟨sessions, patches, parties⟩,
      fun ⟨sessions, patches, parties⟩ => ⟨sessions, patches, parties⟩⟩

end DeletionSystem

/-- The agent whose row is deleted next. -/
def DeletionSystem.deletesRow?
    (sys : DeletionSystem) : DeletionAction → Option String
  | .advanceDelete position _ =>
    (sys.deletes[position]?.filter (·.point = .deleting)).map (·.agentId)
  | _ => none

/-- The agent that a handshake presents, or a deployment is requested for. -/
def DeletionAction.begins? : DeletionAction → Option String
  | session (.receiveHandshake _ agentId) => some agentId
  | deployment (.request request) => some (strip request.agentId)
  | _ => none

/--
A row is deleted only while nothing is under way for its agent, and nothing
begins for it before the deletion is complete.
-/
def DeletesUnattended
    (sys : DeletionSystem)
    (action : DeletionAction) : Prop :=
  (∀ agentId ∈ sys.deletesRow? action, sys.Unattended agentId) ∧
    ∀ agentId ∈ action.begins?, ¬ sys.Deletes agentId

instance (sys : DeletionSystem) (action : DeletionAction) :
    Decidable (DeletesUnattended sys action) :=
  inferInstanceAs (Decidable (_ ∧ _))

end RpaPlatform.Deploy
