import RpaPlatform.DeploymentSystem

namespace RpaPlatform.Deploy

open Agents (AgentChange DeploymentRecord DeploymentStatus)
open Tasks (TaskSpec TaskStatus)
open Transition

/-!
# What the databases say of a deployment

A preparation is the only one that writes to its deployment and its task.
Each point of it therefore expects a certain standing of the two, and each of
its steps leads to the standing that the next point expects, leaving that of
every other deployment as it is.
-/

/-- What the two databases say of a deployment and its task. -/
@[ext]
structure Standing where
  /-- The status and the task of the deployment's row. -/
  deployment : Option (DeploymentStatus × Option String)
  /-- The status of the task. -/
  task : Option TaskStatus
deriving DecidableEq

/-- A deployment that is under the id of its own task. -/
def Draft.standing
    (draft : Draft)
    (deployment : Option DeploymentStatus)
    (task : Option TaskStatus) : Standing where
  deployment := deployment.map fun status => (status, some draft.taskId)
  task := task

namespace DeploymentServer

variable (server : DeploymentServer)

/-- The status and the task of a deployment. -/
def deployment? (deploymentId : String) :
    Option (DeploymentStatus × Option String) :=
  (server.registry.deployments.find? deploymentId).map fun row =>
    (row.status, row.taskId)

def taskStatus? (taskId : String) : Option TaskStatus :=
  (server.tasks.tasks.find? taskId).map fun row => row.status

def standing (draft : Draft) : Standing where
  deployment := server.deployment? draft.deploymentId
  task := server.taskStatus? draft.taskId

end DeploymentServer

/-! ### Statements -/

namespace DeploymentServer

variable {server : DeploymentServer}

theorem deployment?_insert
    {row : DeploymentRecord}
    {registry : Registry}
    (inserted : server.registry.insertDeployment? row = some registry)
    (id : String) :
    { server with registry }.deployment? id =
      if row.id = id then some (row.status, row.taskId)
      else server.deployment? id := by
  obtain ⟨deployments, isInserted, rfl⟩ := Option.map_eq_some_iff.mp inserted
  unfold deployment?
  rw [KeyedTable.find?_insert? isInserted]
  exact apply_ite _ _ _ _

theorem deployment?_update
    (deploymentId : String)
    (change : DeploymentUpdate)
    (id : String) :
    (server.onRegistry
        (·.updateDeployment deploymentId change)).deployment? id =
      if deploymentId = id then
        (server.deployment? id).map fun stored =>
          (change.status.getD stored.1, change.taskId.or stored.2)
      else
        server.deployment? id := by
  have found :=
    server.registry.deployments.find?_modify deploymentId (updated change)
      (fun _ => rfl) id
  refine (congrArg (Option.map _) found).trans ?_
  unfold deployment?
  split
  · rw [Option.map_map, Option.map_map]
    rfl
  · rfl

theorem taskStatus?_insert
    {task : TaskSpec}
    {now : Int}
    {after : DeploymentServer}
    (inserted : server.insertTask? task now = some after)
    (id : String) :
    after.taskStatus? id =
      if task.id = id then some .queued else server.taskStatus? id := by
  obtain ⟨tasks, isInserted, rfl⟩ := Option.map_eq_some_iff.mp inserted
  unfold taskStatus?
  rw [KeyedTable.find?_insert? isInserted]
  exact apply_ite _ _ _ _

theorem taskStatus?_set
    (taskId : String)
    (status : TaskStatus)
    (error : Option String)
    (now : Int)
    (id : String) :
    (server.setTaskStatus taskId status error now).taskStatus? id =
      if taskId = id then (server.taskStatus? id).map fun _ => status
      else server.taskStatus? id := by
  have found :=
    server.tasks.tasks.find?_modify taskId
      (Tasks.TaskDB.withStatus now status { error }) (fun _ => rfl) id
  refine (congrArg (Option.map _) found).trans ?_
  unfold taskStatus?
  split
  · rw [Option.map_map, Option.map_map]
    rfl
  · rfl

end DeploymentServer

/-- Nothing but the deployment and the task of a draft has changed. -/
structure Elsewhere
    (draft : Draft)
    (before after : DeploymentServer) : Prop where
  deployments :
    ∀ id, id ≠ draft.deploymentId → after.deployment? id = before.deployment? id
  tasks : ∀ id, id ≠ draft.taskId → after.taskStatus? id = before.taskStatus? id

/-- A statement leaves a draft with a standing, and nothing else changed. -/
structure Writes
    (draft : Draft)
    (before after : DeploymentServer)
    (standing : Standing) : Prop where
  elsewhere : Elsewhere draft before after
  standing : after.standing draft = standing

section Statements

variable
    {draft : Draft}
    {server : DeploymentServer}

theorem writes_none
    {after : DeploymentServer}
    (sameDeployments : after.registry.deployments = server.registry.deployments)
    (sameTasks : after.tasks.tasks = server.tasks.tasks) :
    Writes draft server after (server.standing draft) := by
  have deployments : ∀ id, after.deployment? id = server.deployment? id := by
    intro id
    unfold DeploymentServer.deployment?
    rw [sameDeployments]
  have tasks : ∀ id, after.taskStatus? id = server.taskStatus? id := by
    intro id
    unfold DeploymentServer.taskStatus?
    rw [sameTasks]
  exact
    ⟨⟨fun id _ => deployments id, fun id _ => tasks id⟩,
      Standing.ext (deployments _) (tasks _)⟩

theorem writes_upsertStep
    (agentId : String)
    (change : AgentChange)
    (now : Int)
    (progress : UpsertProgress) :
    Writes draft server
      (server.upsertStep agentId change now progress).1
      (server.standing draft) := by
  cases progress with
  | none | some =>
    exact writes_none rfl rfl

theorem writes_insertDeployment
    {preparation : Preparation}
    {now : Int}
    {registry : Registry}
    (expected :
      server.standing preparation.draft = preparation.draft.standing none none)
    (inserted :
      server.registry.insertDeployment? (preparation.deploymentRow now) =
        some registry) :
    Writes preparation.draft server { server with registry }
      (preparation.draft.standing (some .queued) none) := by
  have shows := DeploymentServer.deployment?_insert inserted
  have noTask : server.taskStatus? preparation.draft.taskId = none :=
    congrArg Standing.task expected
  refine ⟨⟨?_, fun _ _ => rfl⟩, Standing.ext ?_ noTask⟩
  · intro id other
    exact (shows id).trans (if_neg (Ne.symm other))
  · exact (shows _).trans (if_pos rfl)

theorem writes_updateDeployment
    {deploymentId : String}
    (names : deploymentId = draft.deploymentId)
    {old status : DeploymentStatus}
    {task : Option TaskStatus}
    (expected : server.standing draft = draft.standing (some old) task)
    {change : DeploymentUpdate}
    (setsStatus : change.status = some status)
    (keepsTask : change.taskId = none ∨ change.taskId = some draft.taskId) :
    Writes draft server
      (server.onRegistry (·.updateDeployment deploymentId change))
      (draft.standing (some status) task) := by
  subst names
  have shows :=
    server.deployment?_update draft.deploymentId change
  have stored :
      server.deployment? draft.deploymentId = some (old, some draft.taskId) :=
    congrArg Standing.deployment expected
  have isLinked : change.taskId.or (some draft.taskId) = some draft.taskId := by
    rcases keepsTask with keeps | sets
    · rw [keeps, Option.none_or]
    · rw [sets, Option.some_or]
  refine
    ⟨⟨?_, fun _ _ => rfl⟩, Standing.ext ?_ (congrArg Standing.task expected :)⟩
  · intro id other
    exact (shows id).trans (if_neg (Ne.symm other))
  · refine (shows _).trans ?_
    rw [if_pos rfl, stored, Option.map_some, setsStatus, isLinked]
    rfl

theorem writes_insertTask
    {task : TaskSpec}
    (names : task.id = draft.taskId)
    {deployment : Option DeploymentStatus}
    (expected : server.standing draft = draft.standing deployment none)
    {now : Int}
    {after : DeploymentServer}
    (inserted : server.insertTask? task now = some after) :
    Writes draft server after (draft.standing deployment (some .queued)) := by
  have shows := DeploymentServer.taskStatus?_insert inserted
  have sameDeployments :
      ∀ id, after.deployment? id = server.deployment? id := by
    obtain ⟨tasks, _, rfl⟩ := Option.map_eq_some_iff.mp inserted
    exact fun _ => rfl
  refine ⟨⟨fun id _ => sameDeployments id, ?_⟩, Standing.ext ?_ ?_⟩
  · intro id other
    exact (shows id).trans (if_neg fun same => other (same.symm.trans names))
  · exact (sameDeployments _).trans (congrArg Standing.deployment expected)
  · exact (shows _).trans (if_pos names)

theorem writes_setTaskStatus
    {taskId : String}
    (names : taskId = draft.taskId)
    {deployment : Option DeploymentStatus}
    {old : TaskStatus}
    (expected : server.standing draft = draft.standing deployment (some old))
    (status : TaskStatus)
    (error : Option String)
    (now : Int) :
    Writes draft server (server.setTaskStatus taskId status error now)
      (draft.standing deployment (some status)) := by
  subst names
  have shows := server.taskStatus?_set draft.taskId status error now
  have stored : server.taskStatus? draft.taskId = some old :=
    congrArg Standing.task expected
  refine
    ⟨⟨fun _ _ => rfl, ?_⟩,
      Standing.ext (congrArg Standing.deployment expected :) ?_⟩
  · intro id other
    exact (shows id).trans (if_neg (Ne.symm other))
  · refine (shows _).trans ?_
    rw [if_pos rfl, stored]
    rfl

end Statements

/-! ### What a point expects -/

def isActiveStatus (status : DeploymentStatus) : Bool :=
  status = .queued || status = .building || status = .preparing

namespace Standing

variable (standing : Standing)

def isActive : Bool :=
  standing.deployment.any fun stored => isActiveStatus stored.1

end Standing

def IsOpen (task : TaskStatus) : Prop :=
  task = .queued ∨ task = .running

/-- The standing that a call expects before its preparation has begun. -/
def CallPoint.Expects (draft : Draft) (standing : Standing) :
    CallPoint → Prop
  | .waiting | .checking | .refused _ | .auditingMark _ =>
    False
  | .resolving own =>
    own = draft ∧ standing = draft.standing none none
  | .registering preparation _
  | .settingToken preparation
  | .inserting preparation =>
    preparation.draft = draft ∧ standing = draft.standing none none
  | .linking preparation _
  | .submitting preparation =>
    preparation.draft = draft ∧ standing = draft.standing (some .queued) none
  | .auditingTask preparation
  | .rejecting preparation _ =>
    preparation.draft = draft ∧
      standing = draft.standing (some .queued) (some .queued)
  | .dispatching preparation run =>
    preparation.draft = draft ∧ run.Names draft ∧
      standing = draft.standing (some .queued) (some .queued)
  | .marking preparation run =>
    preparation.draft = draft ∧ run.Names draft ∧
      standing = draft.standing (some .preparing) (some .queued)
  | .auditingRejection preparation _
  | .failing preparation _ =>
    preparation.draft = draft ∧
      standing = draft.standing (some .queued) (some .failed)
  | .unregistering preparation _
  | .reading preparation =>
    preparation.draft = draft ∧
      standing = draft.standing (some .failed) (some .failed)
  | .returned | .raised =>
    True

/-- The standing that a preparation in the background expects. -/
def RunPoint.Expects (draft : Draft) (standing : Standing) :
    RunPoint → Prop
  | .starting run
  | .preparing run
  | .storing run _ =>
    run.Names draft ∧
      ∃ task, IsOpen task ∧
        standing = draft.standing (some .preparing) (some task)
  | .completing run _ =>
    run.Names draft ∧
      ∃ task, IsOpen task ∧ standing = draft.standing (some .ready) (some task)
  | .auditingCompletion run _
  | .readying run _ _ =>
    run.Names draft ∧ standing = draft.standing (some .ready) (some .completed)
  | .failing run _ _ =>
    run.Names draft ∧
      ∃ status task,
        (status = .preparing ∧ IsOpen task ∨
          status = .ready ∧ (IsOpen task ∨ task = .completed)) ∧
        standing = draft.standing (some status) (some task)
  | .failingTask run _ =>
    run.Names draft ∧
      ∃ task, standing = draft.standing (some .failed) (some task)
  | .auditingFailure run _
  | .markingAgent run _ =>
    run.Names draft ∧ standing = draft.standing (some .failed) (some .failed)
  | .ended =>
    True

namespace CallPoint

/-- Whether no ids have been made. -/
def isUnnamed : CallPoint → Bool
  | .waiting => true
  | .checking => true
  | .refused _ => true
  | .raised => true
  | _ => false

/-- Whether the call may go on while its preparation runs. -/
def isAside : CallPoint → Bool
  | .auditingMark _ => true
  | .reading _ => true
  | .returned => true
  | .raised => true
  | _ => false

end CallPoint

namespace Party

variable (party : Party)

/-- The standing that a party with a draft expects. -/
def Expects (draft : Draft) (standing : Standing) : Prop :=
  match party.run with
  | none => party.call.Expects draft standing
  | some point =>
    party.call.isAside = true ∧ point.Expects draft standing

/-- Whether the party writes no more. -/
def isFinished : Bool :=
  match party.run with
  | none => party.hasEnded
  | some .ended => true
  | some _ => false

end Party

/-! ### Steps -/

/-- A party that has a draft has gone on. -/
structure Advances
    (draft : Draft)
    (server : DeploymentServer)
    (party : Party)
    (after : DeploymentServer)
    (next : Party) : Prop where
  ownDraft : next.draft = some draft
  elsewhere : Elsewhere draft server after
  written :
    after.standing draft = server.standing draft ∨
      ∃ deployment task, after.standing draft = draft.standing deployment task
  expects : next.Expects draft (after.standing draft)
  gap : next.inGap = true → party.inGap = true
  activates :
    (after.standing draft).isActive = true →
      (server.standing draft).isActive = true ∨
        party.inGap = true ∧ next.inGap = false
  finishes :
    next.isFinished = true → after.standing draft = server.standing draft

section Steps

variable
    {context : DeploymentContext}
    {draft : Draft}
    {server after : DeploymentServer}
    {party next : Party}

theorem Writes.advances
    {deployment : Option DeploymentStatus}
    {task : Option TaskStatus}
    (writes : Writes draft server after (draft.standing deployment task))
    (ownDraft : next.draft = some draft)
    (expects : next.Expects draft (draft.standing deployment task))
    (gap : next.inGap = true → party.inGap = true)
    (activates :
      (draft.standing deployment task).isActive = true →
        (server.standing draft).isActive = true ∨
          party.inGap = true ∧ next.inGap = false)
    (unfinished : next.isFinished = false) :
    Advances draft server party after next where
  ownDraft := ownDraft
  elsewhere := writes.elsewhere
  written := .inr ⟨_, _, writes.standing⟩
  expects := writes.standing ▸ expects
  gap := gap
  activates := writes.standing ▸ activates
  finishes := fun finished => by
    rw [unfinished] at finished
    cases finished

theorem Writes.idles
    (writes : Writes draft server after (server.standing draft))
    (ownDraft : next.draft = some draft)
    (expects : next.Expects draft (server.standing draft))
    (gap : next.inGap = true → party.inGap = true) :
    Advances draft server party after next where
  ownDraft := ownDraft
  elsewhere := writes.elsewhere
  written := .inl writes.standing
  expects := writes.standing ▸ expects
  gap := gap
  activates := writes.standing ▸ .inl
  finishes := fun _ => writes.standing

theorem advances_of_same
    (sameDeployments : after.registry.deployments = server.registry.deployments)
    (sameTasks : after.tasks.tasks = server.tasks.tasks)
    (ownDraft : next.draft = some draft)
    (expects : next.Expects draft (server.standing draft))
    (gap : next.inGap = true → party.inGap = true) :
    Advances draft server party after next :=
  (writes_none sameDeployments sameTasks).idles ownDraft expects gap

theorem dispatchPoint_cases
    (context : DeploymentContext)
    (preparation : Preparation) :
    (∃ error,
        dispatchPoint context preparation = .rejecting preparation error) ∨
      ∃ run,
        dispatchPoint context preparation =
            .dispatching preparation run ∧
          run.Names preparation.draft := by
  unfold dispatchPoint
  split
  · split
    · exact .inl ⟨_, rfl⟩
    · rename_i accepts
      exact .inr ⟨_, rfl, names_of_readTask accepts⟩
  · exact .inl ⟨_, rfl⟩

variable {now : Int}

theorem upsert_cases
    {Point : Type}
    {agentId : String}
    {change : AgentChange}
    {progress : UpsertProgress}
    {continued : UpsertProgress → Point}
    {ended point : Point}
    (stepped :
      (match server.upsertStep agentId change now progress with
        | (server, some later) => some (server, continued later)
        | (server, none) => some (server, ended)) = some (after, point)) :
    Writes draft server after (server.standing draft) ∧
      ((∃ later, point = continued later) ∨ point = ended) := by
  obtain ⟨rfl, goesOn⟩ := upsertStep_cases stepped
  exact ⟨writes_upsertStep agentId change now progress, goesOn⟩

section Advancing

variable
    (isDraft : party.draft = some draft)
include isDraft

/-- A call goes on to what the next point expects. -/
theorem advances_callStep
    (noRun : party.run = none)
    (expects : party.call.Expects draft (server.standing draft))
    (stepped : callStep? context now server party = some (after, next)) :
    Advances draft server party after next := by
  obtain ⟨request, _, call, _⟩ := party
  dsimp only at isDraft noRun expects
  subst isDraft noRun
  unfold callStep? at stepped
  cases call with
  | waiting | checking | refused | resolving | returned | raised =>
    cases stepped
  | auditingMark =>
    exact expects.elim
  | registering preparation progress =>
    obtain ⟨writes, ⟨later, rfl⟩ | rfl⟩ := upsert_cases stepped
    · exact writes.idles rfl expects fun _ => rfl
    · exact writes.idles rfl expects fun _ => rfl
  | settingToken preparation =>
    obtain ⟨rfl, rfl⟩ := Prod.mk.inj (Option.some.inj stepped)
    exact advances_of_same rfl rfl rfl expects fun _ => rfl
  | inserting preparation =>
    obtain ⟨rfl, expected⟩ := expects
    dsimp only at stepped
    split at stepped
    · obtain ⟨rfl, rfl⟩ := Prod.mk.inj (Option.some.inj stepped)
      exact advances_of_same rfl rfl rfl trivial nofun
    · rename_i inserted
      obtain ⟨rfl, rfl⟩ := Prod.mk.inj (Option.some.inj stepped)
      exact
        (writes_insertDeployment expected inserted).advances rfl
          ⟨rfl, rfl⟩ nofun (fun _ => .inr ⟨rfl, rfl⟩) rfl
  | linking preparation progress | unregistering preparation progress =>
    obtain ⟨writes, ⟨later, rfl⟩ | rfl⟩ := upsert_cases stepped
    · exact writes.idles rfl expects nofun
    · exact writes.idles rfl expects nofun
  | submitting preparation =>
    obtain ⟨rfl, expected⟩ := expects
    dsimp only at stepped
    split at stepped
    · obtain ⟨rfl, rfl⟩ := Prod.mk.inj (Option.some.inj stepped)
      exact advances_of_same rfl rfl rfl trivial nofun
    · rename_i inserted
      obtain ⟨rfl, rfl⟩ := Prod.mk.inj (Option.some.inj stepped)
      exact
        (writes_insertTask (id_taskSpec _ _) expected inserted).advances
          rfl ⟨rfl, rfl⟩ nofun (fun _ => .inl (expected ▸ rfl)) rfl
  | auditingTask preparation =>
    obtain ⟨rfl, expected⟩ := expects
    obtain ⟨rfl, rfl⟩ := Prod.mk.inj (Option.some.inj stepped)
    rcases dispatchPoint_cases context preparation with
      ⟨error, isPoint⟩ | ⟨run, isPoint, names⟩
    · rw [isPoint]
      exact advances_of_same rfl rfl rfl ⟨rfl, expected⟩ nofun
    · rw [isPoint]
      exact advances_of_same rfl rfl rfl ⟨rfl, names, expected⟩ nofun
  | dispatching preparation run =>
    obtain ⟨rfl, names, expected⟩ := expects
    obtain ⟨rfl, rfl⟩ := Prod.mk.inj (Option.some.inj stepped)
    exact
      (writes_updateDeployment names.1 expected rfl
          (.inr (congrArg some names.2))).advances
        rfl ⟨rfl, names, rfl⟩ nofun (fun _ => .inl (expected ▸ rfl)) rfl
  | marking preparation run =>
    obtain ⟨rfl, names, expected⟩ := expects
    obtain ⟨rfl, rfl⟩ := Prod.mk.inj (Option.some.inj stepped)
    exact
      (writes_setTaskStatus rfl expected .running none now).advances
        rfl ⟨rfl, names, _, .inr rfl, rfl⟩ nofun
        (fun _ => .inl (expected ▸ rfl)) rfl
  | rejecting preparation error =>
    obtain ⟨rfl, expected⟩ := expects
    obtain ⟨rfl, rfl⟩ := Prod.mk.inj (Option.some.inj stepped)
    exact
      (writes_setTaskStatus rfl expected .failed (some error)
          now).advances
        rfl ⟨rfl, rfl⟩ nofun (fun _ => .inl (expected ▸ rfl)) rfl
  | auditingRejection preparation error =>
    obtain ⟨rfl, rfl⟩ := Prod.mk.inj (Option.some.inj stepped)
    exact advances_of_same rfl rfl rfl expects nofun
  | failing preparation error =>
    obtain ⟨rfl, expected⟩ := expects
    obtain ⟨rfl, rfl⟩ := Prod.mk.inj (Option.some.inj stepped)
    exact
      (writes_updateDeployment rfl expected rfl (.inr rfl)).advances
        rfl ⟨rfl, rfl⟩ nofun nofun rfl
  | reading preparation =>
    obtain ⟨rfl, rfl⟩ := Prod.mk.inj (Option.some.inj stepped)
    exact advances_of_same rfl rfl rfl trivial nofun

theorem advances_callStep_aside
    (hasRun : party.run.isSome = true)
    (isAside : party.call.isAside = true)
    (expects : party.Expects draft (server.standing draft))
    (stepped : callStep? context now server party = some (after, next)) :
    Advances draft server party after next := by
  obtain ⟨request, _, call, _ | point⟩ := party
  · cases hasRun
  · unfold callStep? at stepped
    cases call with
    | auditingMark preparation | reading preparation =>
      obtain ⟨rfl, rfl⟩ := Prod.mk.inj (Option.some.inj stepped)
      exact advances_of_same rfl rfl isDraft ⟨rfl, expects.2⟩ nofun
    | returned | raised =>
      cases stepped
    | _ =>
      cases isAside

theorem advances_callFail
    (expects : party.Expects draft (server.standing draft))
    (failed : callFail? party = some next) :
    Advances draft server party server next := by
  obtain ⟨request, _, call, _ | point⟩ := party
  · unfold callFail? at failed
    cases call with
    | marking preparation run =>
      obtain ⟨rfl, names, expected⟩ := expects
      cases failed
      exact
        advances_of_same rfl rfl isDraft
          ⟨rfl, names, _, .inl rfl, expected⟩ nofun
    | waiting | refused | returned | raised =>
      cases failed
    | _ =>
      cases failed
      exact advances_of_same rfl rfl isDraft trivial nofun
  · obtain ⟨isAside, atPoint⟩ := expects
    unfold callFail? at failed
    cases call with
    | auditingMark | reading =>
      cases failed
      exact advances_of_same rfl rfl isDraft ⟨rfl, atPoint⟩ nofun
    | returned | raised =>
      cases failed
    | _ =>
      cases isAside

/-- A preparation goes on to what the next point expects. -/
theorem advances_runStep
    {point later : RunPoint}
    (isAside : party.call.isAside = true)
    (expects : point.Expects draft (server.standing draft))
    (stepped : runStep? context now server point = some (after, later)) :
    Advances draft server party after { party with run := some later } := by
  unfold runStep? at stepped
  cases point with
  | starting run | auditingCompletion run log | auditingFailure run error =>
    obtain ⟨rfl, rfl⟩ := Prod.mk.inj (Option.some.inj stepped)
    exact advances_of_same rfl rfl isDraft ⟨isAside, expects⟩ id
  | storing run log =>
    obtain ⟨names, task, isOpen, expected⟩ := expects
    obtain ⟨rfl, rfl⟩ := Prod.mk.inj (Option.some.inj stepped)
    exact
      (writes_updateDeployment names.1 expected rfl (.inl rfl)).advances
        isDraft ⟨isAside, names, task, isOpen, rfl⟩ id nofun rfl
  | completing run log =>
    obtain ⟨names, task, _, expected⟩ := expects
    obtain ⟨rfl, rfl⟩ := Prod.mk.inj (Option.some.inj stepped)
    exact
      (writes_setTaskStatus names.2 expected .completed none
          now).advances
        isDraft ⟨isAside, names, rfl⟩ id nofun rfl
  | readying run log progress | markingAgent run progress =>
    obtain ⟨writes, ⟨later, rfl⟩ | rfl⟩ := upsert_cases stepped
    · exact writes.idles isDraft ⟨isAside, expects⟩ id
    · exact writes.idles isDraft ⟨isAside, trivial⟩ id
  | failing run log error =>
    obtain ⟨names, status, task, _, expected⟩ := expects
    obtain ⟨rfl, rfl⟩ := Prod.mk.inj (Option.some.inj stepped)
    exact
      (writes_updateDeployment names.1 expected rfl (.inl rfl)).advances
        isDraft ⟨isAside, names, task, rfl⟩ id nofun rfl
  | failingTask run error =>
    obtain ⟨names, task, expected⟩ := expects
    obtain ⟨rfl, rfl⟩ := Prod.mk.inj (Option.some.inj stepped)
    exact
      (writes_setTaskStatus names.2 expected .failed (some error)
          now).advances
        isDraft ⟨isAside, names, rfl⟩ id nofun rfl
  | preparing | ended =>
    cases stepped

theorem advances_runFail
    {error : String}
    {log : List String}
    {point later : RunPoint}
    (isAside : party.call.isAside = true)
    (expects : point.Expects draft (server.standing draft))
    (failed : runFail? error log point = some later) :
    Advances draft server party server { party with run := some later } := by
  suffices handled : later.Expects draft (server.standing draft) from
    advances_of_same rfl rfl isDraft ⟨isAside, handled⟩ id
  unfold runFail? at failed
  cases point with
  | preparing | storing =>
    obtain ⟨names, task, isOpen, expected⟩ := expects
    cases failed
    exact ⟨names, _, task, .inl ⟨rfl, isOpen⟩, expected⟩
  | completing =>
    obtain ⟨names, task, isOpen, expected⟩ := expects
    cases failed
    exact ⟨names, _, task, .inr ⟨rfl, .inl isOpen⟩, expected⟩
  | auditingCompletion | readying =>
    obtain ⟨names, expected⟩ := expects
    cases failed
    exact ⟨names, _, _, .inr ⟨rfl, .inr rfl⟩, expected⟩
  | starting | failing | failingTask | auditingFailure | markingAgent =>
    cases failed
    trivial
  | ended =>
    cases failed

theorem advances_downloaded
    {run : PrepareRun}
    (isAside : party.call.isAside = true)
    (expects : (RunPoint.preparing run).Expects draft (server.standing draft))
    (digest : String) :
    Advances draft server party server
      { party with run := some (downloaded run digest) } := by
  suffices goesOn :
      (downloaded run digest).Expects draft (server.standing draft) from
    advances_of_same rfl rfl isDraft ⟨isAside, goesOn⟩ id
  obtain ⟨names, task, isOpen, expected⟩ := expects
  unfold downloaded
  split
  · exact ⟨names, _, task, .inl ⟨rfl, isOpen⟩, expected⟩
  · exact ⟨names, task, isOpen, expected⟩

end Advancing

end Steps

end RpaPlatform.Deploy
