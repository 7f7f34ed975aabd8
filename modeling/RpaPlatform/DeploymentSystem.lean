import RpaPlatform.DeploymentPreparation

namespace RpaPlatform.Deploy

open Agents (AgentChange AgentRecord DeploymentRecord DeploymentStatus
  JsonObject TextLibrary mergeAgent orText strip)
open Tasks (TaskDB TaskSpec TaskStatus)
open Transition

/-!
# Deployments that are prepared at the same time

`prepare_deployment` and the background `_run_prepare` that it starts, each
of their awaits a step: the check for an active deployment under the lock, the
statements on the two databases, the download.  An await may raise, the server
may crash, and a restart recovers the deployments that were interrupted.  The
statements are those on a registry to which `_ensure_column` has added
`last_deployment_id`, which then refers to no other table.
-/

/-- The two databases. -/
structure DeploymentServer where
  registry : Registry := {}
  tasks : TaskDB := .empty

/-- What `DeploymentService` and its `TaskService` are made with. -/
structure DeploymentContext where
  library : TextLibrary
  repoRoot : String := ""
  hashToken : String → String
  /-- Whether a handler is registered for deployments. -/
  handled : Bool := true
  /-- The path of a file of a deployment, as a text. -/
  artifactPath : String → String → String := fun id name => id ++ "/" ++ name

/-- How far `upsert_agent` is: the row that it has read, and its time. -/
abbrev UpsertProgress :=
  Option (Option AgentRecord × Int)

/-- Where `prepare_deployment` is: what it awaits next. -/
inductive CallPoint where
  /-- `self._active_lock`. -/
  | waiting
  /-- `get_active_deployment`, under the lock. -/
  | checking
  /-- It has found an active deployment. -/
  | refused (active : DeploymentRecord)
  /-- `_resolve_prepare_release` and the provisioning. -/
  | resolving (draft : Draft)
  | registering (preparation : Preparation) (progress : UpsertProgress)
  | settingToken (preparation : Preparation)
  | inserting (preparation : Preparation)
  | linking (preparation : Preparation) (progress : UpsertProgress)
  /-- `create_task`, and its audit. -/
  | submitting (preparation : Preparation)
  | auditingTask (preparation : Preparation)
  /-- `update_deployment` of `dispatch_task`. -/
  | dispatching (preparation : Preparation) (run : PrepareRun)
  /-- `update_task_status` after a dispatch that is accepted. -/
  | marking (preparation : Preparation) (run : PrepareRun)
  | auditingMark (preparation : Preparation)
  /-- `update_task_status` after a dispatch that is refused. -/
  | rejecting (preparation : Preparation) (error : String)
  | auditingRejection (preparation : Preparation) (error : String)
  | failing (preparation : Preparation) (error : String)
  | unregistering (preparation : Preparation) (progress : UpsertProgress)
  | reading (preparation : Preparation)
  | returned
  | raised

/-- Where `_run_prepare` is: what it awaits next. -/
inductive RunPoint where
  /-- It has not been run yet. -/
  | starting (run : PrepareRun)
  /-- The download, and the files that are written after it. -/
  | preparing (run : PrepareRun)
  | storing (run : PrepareRun) (log : List String)
  | completing (run : PrepareRun) (log : List String)
  | auditingCompletion (run : PrepareRun) (log : List String)
  | readying
      (run : PrepareRun)
      (log : List String)
      (progress : UpsertProgress)
  /-- The handler of exceptions. -/
  | failing (run : PrepareRun) (log : List String) (error : String)
  | failingTask (run : PrepareRun) (error : String)
  | auditingFailure (run : PrepareRun) (error : String)
  | markingAgent (run : PrepareRun) (progress : UpsertProgress)
  | ended

/-- A request, and all that is under way for it. -/
structure Party where
  request : PrepareRequest
  /-- The ids, once they have been made. -/
  draft : Option Draft := none
  call : CallPoint := .waiting
  run : Option RunPoint := none

/-- What the server as a whole is doing. -/
inductive Phase where
  | down
  /-- `recover_interrupted_deployments`, at the first of these rows. -/
  | recovering
      (rest : List DeploymentRecord)
      (linking : Option UpsertProgress)
  | serving

/-- The server, and the deployments that are under way. -/
structure DeploymentSystem where
  server : DeploymentServer
  /-- The ids that `uuid4` has given so far. -/
  issued : List String
  phase : Phase := .down
  /-- Who holds the lock. -/
  lock : Option Nat := none
  parties : List Party := []

/-- What can happen next. -/
inductive DeploymentAction where
  | restart
  | recover (now : Int)
  | request (request : PrepareRequest)
  | acquire (party : Nat)
  | check (party : Nat) (draft : Draft)
  | resolve
      (party : Nat)
      (release : SelectedRelease)
      (mapping provisioning : JsonObject)
  /-- What the call awaits is done. -/
  | proceed (party : Nat) (now : Int)
  /-- What the call awaits raises. -/
  | fail (party : Nat)
  /-- The artifact is there, and so are the files. -/
  | download (party : Nat) (digest : String)
  | proceedRun (party : Nat) (now : Int)
  | failRun (party : Nat) (error : String) (log : List String)
  | crash

/-! ### Statements -/

namespace DeploymentServer

variable (server : DeploymentServer)

def onRegistry (change : Registry → Registry) : DeploymentServer :=
  { server with registry := change server.registry }

/-- The statement of `create_task`. -/
def insertTask? (task : TaskSpec) (now : Int) : Option DeploymentServer :=
  (server.tasks.tasks.insert? (TaskDB.newTaskRow now task)).map fun tasks =>
    { server with tasks := { server.tasks with tasks } }

/-- The statement of `update_task_status`. -/
def setTaskStatus
    (taskId : String)
    (status : TaskStatus)
    (error : Option String)
    (now : Int) : DeploymentServer :=
  { server with
    tasks :=
      { server.tasks with
        tasks :=
          server.tasks.tasks.modify taskId
            (TaskDB.withStatus now status { error }) fun _ => rfl } }

/-- The statement of `_audit`. -/
def auditTask
    (taskId action actor detail requestedFrom : String)
    (now : Int) : DeploymentServer :=
  { server with
    tasks :=
      server.tasks.audit now "task" taskId action actor detail
        requestedFrom }

/-- The audit of `update_task_status`, by the server. -/
def auditStatus
    (taskId : String)
    (status : TaskStatus)
    (error : Option String)
    (now : Int) : DeploymentServer :=
  server.auditTask taskId status.text "server"
    (TaskDB.statusAuditText { error }) "" now

/-- What `upsert_agent` awaits next; it ends with `none`. -/
def upsertStep
    (agentId : String)
    (change : AgentChange)
    (now : Int) :
    UpsertProgress → DeploymentServer × Option UpsertProgress
  | none =>
    (server, some (some (server.registry.agents.find? agentId, now)))
  | some (existing, time) =>
    (server.onRegistry
      (·.writeAgent (mergeAgent agentId existing change time)), none)

end DeploymentServer

theorem upsertStep_cases
    {Point : Type}
    {server after : DeploymentServer}
    {agentId : String}
    {change : AgentChange}
    {now : Int}
    {progress : UpsertProgress}
    {continued : UpsertProgress → Point}
    {ended point : Point}
    (stepped :
      (match server.upsertStep agentId change now progress with
        | (server, some later) => some (server, continued later)
        | (server, none) => some (server, ended)) = some (after, point)) :
    after = (server.upsertStep agentId change now progress).1 ∧
      ((∃ later, point = continued later) ∨ point = ended) := by
  split at stepped
  · rename_i isStep
    obtain ⟨rfl, rfl⟩ := Prod.mk.inj (Option.some.inj stepped)
    rw [isStep]
    exact ⟨rfl, .inl ⟨_, rfl⟩⟩
  · rename_i isStep
    obtain ⟨rfl, rfl⟩ := Prod.mk.inj (Option.some.inj stepped)
    rw [isStep]
    exact ⟨rfl, .inr rfl⟩

/-! ### The call -/

/-- Where the call goes on from `dispatch_task`, or is refused. -/
def dispatchPoint
    (context : DeploymentContext)
    (preparation : Preparation) : CallPoint :=
  if context.handled then
    match readTask context.library
        (preparation.taskSpec context.repoRoot) with
    | .error error => .rejecting preparation error
    | .ok run => .dispatching preparation run
  else
    .rejecting preparation "No handler registered for task kind 'deployment'"

/-- What `prepare_deployment` writes of a dispatch that is refused. -/
def Preparation.failure
    (preparation : Preparation)
    (error : String)
    (completedAt : Int) : DeploymentUpdate where
  status := some .failed
  releaseId := some preparation.release.releaseId
  error := some error
  completedAt := some completedAt
  taskId := some preparation.taskId

/-- The call goes on when what it awaits is done. -/
def callStep?
    (context : DeploymentContext)
    (now : Int)
    (server : DeploymentServer)
    (party : Party) : Option (DeploymentServer × Party) :=
  match party.call with
  | .registering preparation progress =>
    match server.upsertStep preparation.agentId preparation.registration
        now progress with
    | (server, some later) =>
      some (server, { party with call := .registering preparation later })
    | (server, none) =>
      some (server, { party with call := .settingToken preparation })
  | .settingToken preparation =>
    some (server.onRegistry
        (·.setBootstrapToken preparation.agentId
          (context.hashToken preparation.draft.bootstrapToken)
          preparation.draft.bootstrapExpiresAt now),
        { party with call := .inserting preparation })
  | .inserting preparation =>
    match server.registry.insertDeployment?
        (preparation.deploymentRow now) with
    | none => some (server, { party with call := .raised })
    | some registry =>
      some
        ({ server with registry },
          { party with call := .linking preparation none })
  | .linking preparation progress =>
    match server.upsertStep preparation.agentId preparation.link now
        progress with
    | (server, some later) =>
      some (server, { party with call := .linking preparation later })
    | (server, none) =>
      some (server, { party with call := .submitting preparation })
  | .submitting preparation =>
    match server.insertTask? (preparation.taskSpec context.repoRoot)
        now with
    | none => some (server, { party with call := .raised })
    | some server =>
      some (server, { party with call := .auditingTask preparation })
  | .auditingTask preparation =>
    let task := preparation.taskSpec context.repoRoot
    some
      (server.auditTask task.id "created" task.requestedBy
        ("kind=" ++ task.kind.text ++
          ", script_len=" ++ toString task.script.length ++
          ", agent=" ++ task.agentId)
        task.requestedFrom now,
        { party with call := dispatchPoint context preparation })
  | .dispatching preparation run =>
    some (server.onRegistry
        (·.updateDeployment run.deploymentId (run.started now)),
        { party with call := .marking preparation run })
  | .marking preparation run =>
    -- The preparation has been created, and starts now at the earliest:
    -- the status is on its way to the database before it can run.
    some
      (server.setTaskStatus preparation.taskId .running none now,
        { party with
          call := .auditingMark preparation
          run := some (.starting run) })
  | .auditingMark preparation =>
    some
      (server.auditStatus preparation.taskId .running none now,
        { party with call := .reading preparation })
  | .rejecting preparation error =>
    some
      (server.setTaskStatus preparation.taskId .failed (some error) now,
        { party with call := .auditingRejection preparation error })
  | .auditingRejection preparation error =>
    some
      (server.auditStatus preparation.taskId .failed (some error) now,
        { party with call := .failing preparation error })
  | .failing preparation error =>
    some (server.onRegistry
        (·.updateDeployment preparation.deploymentId
          (preparation.failure
            (orText error "Deployment dispatch failed") now)),
        { party with call := .unregistering preparation none })
  | .unregistering preparation progress =>
    match server.upsertStep preparation.agentId preparation.refusal now
        progress with
    | (server, some later) =>
      some (server, { party with call := .unregistering preparation later })
    | (server, none) =>
      some (server, { party with call := .reading preparation })
  | .reading _ =>
    some (server, { party with call := .returned })
  | _ =>
    none

/-- The call ends when what it awaits raises. -/
def callFail? (party : Party) : Option Party :=
  match party.call with
  | .waiting | .refused _ | .returned | .raised =>
    none
  | .marking _ run =>
    some { party with call := .raised, run := some (.starting run) }
  | _ =>
    some { party with call := .raised }

/-! ### The background -/

/-- `release_label`. -/
def PrepareRun.label (run : PrepareRun) : String :=
  orText run.releaseTagName (orText run.releaseVersion run.releaseId)

/-- What the log says of a download. -/
def PrepareRun.downloadLog (run : PrepareRun) (digest : String) :
    List String :=
  ("Downloaded release artifact: " ++ run.artifactUrl) ::
    if run.artifactSha256 ≠ "" then
      ["Expected SHA256: " ++ run.artifactSha256,
        "Downloaded SHA256: " ++ digest]
    else if digest ≠ "" then
      ["Downloaded SHA256: " ++ digest]
    else
      []

/-- What `_run_prepare` stores of a deployment that is ready. -/
def readyUpdate
    (context : DeploymentContext)
    (run : PrepareRun)
    (log : List String)
    (completedAt : Int) : DeploymentUpdate :=
  let path := context.artifactPath run.deploymentId
  { releaseId := some run.releaseId
    status := some .ready
    commitSha := some run.commitSha
    tagName := some run.releaseTagName
    artifactDir := some (path "package")
    artifactExePath := some (path "package/agent_service.exe")
    packageZipPath := some (path "package.zip")
    bootstrapPath := some (path "package/agent.bootstrap.json")
    installScriptPath := some (path "package/install.ps1")
    installerCopyPath :=
      some (path ("latest/install-" ++ run.deploymentId ++ ".ps1"))
    buildLog := some (String.intercalate "\n\n" log)
    completedAt := some completedAt }

/-- What the handler of exceptions stores of a deployment. -/
def failedUpdate
    (run : PrepareRun)
    (log : List String)
    (error : String)
    (completedAt : Int) : DeploymentUpdate where
  releaseId := some run.releaseId
  status := some .failed
  error := some error
  buildLog :=
    some (String.intercalate "\n\n" (log ++ ["ERROR: " ++ error]))
  completedAt := some completedAt

/-- What the last `upsert_agent` of a preparation is given. -/
def PrepareRun.readiness (run : PrepareRun) : AgentChange where
  hostname := run.hostname
  displayName := run.displayName
  status := some .readyForInstall
  lastDeploymentId := some run.deploymentId
  currentVersion :=
    orText run.releaseVersion
      (orText run.releaseTagName (String.ofList (run.commitSha.toList.take 12)))

/-- What the handler of exceptions gives to `upsert_agent`. -/
def PrepareRun.failure (run : PrepareRun) : AgentChange where
  hostname := run.hostname
  displayName := run.displayName
  status := some .deployFailed

/-- The download ends; its digest may not be the expected one. -/
def downloaded (run : PrepareRun) (digest : String) : RunPoint :=
  let log := run.downloadLog digest
  if run.artifactSha256 ≠ "" ∧ digest ≠ run.artifactSha256 then
    .failing run log
      ("Downloaded artifact checksum mismatch for release " ++ run.label ++
        ": " ++ digest ++ " != " ++ run.artifactSha256)
  else
    .storing run log

/-- The preparation goes on when what it awaits is done. -/
def runStep?
    (context : DeploymentContext)
    (now : Int)
    (server : DeploymentServer) :
    RunPoint → Option (DeploymentServer × RunPoint)
  | .starting run =>
    some (server, .preparing run)
  | .storing run log =>
    some (server.onRegistry
        (·.updateDeployment run.deploymentId (readyUpdate context run log now)),
        .completing run log)
  | .completing run log =>
    some
      (server.setTaskStatus run.taskId .completed none now,
        .auditingCompletion run log)
  | .auditingCompletion run log =>
    some
      (server.auditStatus run.taskId .completed none now,
        .readying run log none)
  | .readying run log progress =>
    match server.upsertStep run.agentId run.readiness now progress with
    | (server, some later) => some (server, .readying run log later)
    | (server, none) => some (server, .ended)
  | .failing run log error =>
    some (server.onRegistry
        (·.updateDeployment run.deploymentId (failedUpdate run log error now)),
        .failingTask run error)
  | .failingTask run error =>
    some
      (server.setTaskStatus run.taskId .failed (some error) now,
        .auditingFailure run error)
  | .auditingFailure run error =>
    some
      (server.auditStatus run.taskId .failed (some error) now,
        .markingAgent run none)
  | .markingAgent run progress =>
    match server.upsertStep run.agentId run.failure now progress with
    | (server, some later) => some (server, .markingAgent run later)
    | (server, none) => some (server, .ended)
  | .preparing _ =>
    none
  | .ended =>
    none

/-- What it does raises: from the first log entry on it is handled once. -/
def runFail?
    (error : String)
    (written : List String) : RunPoint → Option RunPoint
  | .starting _ => some .ended
  | .preparing run => some (.failing run written error)
  | .storing run log => some (.failing run log error)
  | .completing run log => some (.failing run log error)
  | .auditingCompletion run log => some (.failing run log error)
  | .readying run log _ => some (.failing run log error)
  | .failing _ _ _ => some .ended
  | .failingTask _ _ => some .ended
  | .auditingFailure _ _ => some .ended
  | .markingAgent _ _ => some .ended
  | .ended => none

/-! ### The system -/

namespace Party

/-- Whether the call has found no active deployment, but stored no row. -/
def inGap (party : Party) : Bool :=
  match party.call with
  | .resolving _ => true
  | .registering _ _ => true
  | .settingToken _ => true
  | .inserting _ => true
  | _ => false

/-- Whether the call has ended. -/
def hasEnded (party : Party) : Bool :=
  match party.call with
  | .refused _ => true
  | .returned => true
  | .raised => true
  | _ => false

/-- Whether the preparation in the background has ended, or not begun. -/
def isQuiet (party : Party) : Bool :=
  match party.run with
  | none => true
  | some .ended => true
  | _ => false

/-- What a crash leaves of a party. -/
def crashed (party : Party) : Party :=
  { party with
    call := if party.hasEnded then party.call else .raised
    run := none }

end Party

namespace DeploymentSystem

variable (sys : DeploymentSystem)

/-- A party goes on. -/
def settle
    (position : Nat)
    (server : DeploymentServer)
    (party : Party) : DeploymentSystem :=
  { sys with server, parties := sys.parties.set position party }

/-- The deployments that are active, the oldest first. -/
def activeDeployments : List DeploymentRecord :=
  (sys.server.registry.deployments.rows.filter
      DeploymentRecord.isActive).insertionSort
    fun first second => first.createdAt ≤ second.createdAt

/-- An id that `uuid4` has not given yet, as all that it gives. -/
def Unissued (draft : Draft) : Prop :=
  draft.deploymentId ∉ sys.issued ∧ draft.taskId ∉ sys.issued ∧
    draft.deploymentId ≠ draft.taskId

instance (draft : Draft) : Decidable (sys.Unissued draft) :=
  inferInstanceAs
    (Decidable
      (draft.deploymentId ∉ sys.issued ∧ draft.taskId ∉ sys.issued ∧
        draft.deploymentId ≠ draft.taskId))

/-- Why a deployment is given up by a restart. -/
def interruptionError (status : DeploymentStatus) : String :=
  "Deployment prepare was interrupted while in '" ++
    (match status with
      | .queued => "queued"
      | .building => "building"
      | .preparing => "preparing"
      | .ready => "ready"
      | .failed => "failed"
      | .expiredBootstrap => "expired_bootstrap") ++
    "'. The server was restarted before the release package was prepared."

/-- `recover_interrupted_deployments` goes on with its first row. -/
def recoverStep (now : Int) : DeploymentSystem :=
  match sys.phase with
  | .recovering (row :: rest) none =>
    if strip row.id = "" then
      { sys with phase := .recovering rest none }
    else
      { sys with
        server :=
          sys.server.onRegistry
            (·.updateDeployment (strip row.id)
              { status := some .failed
                error := some (interruptionError row.status)
                completedAt := some now })
        phase :=
          if strip row.agentId = "" then .recovering rest none
          else .recovering (row :: rest) (some none) }
  | .recovering (row :: rest) (some progress) =>
    let stepped :=
      sys.server.upsertStep (strip row.agentId)
        { hostname := strip row.hostname
          status := some .deployFailed
          connectionStatus := some .offline
          lastDeploymentId := some (strip row.id) }
        now progress
    { sys with
      server := stepped.1
      phase :=
        match stepped.2 with
        | some later => .recovering (row :: rest) (some later)
        | none => .recovering rest none }
  | .recovering [] _ =>
    { sys with phase := .serving }
  | _ =>
    sys

/-- The check under the lock: refused, or let in with new ids. -/
def checkStep?
    (position : Nat)
    (party : Party)
    (draft : Draft) : Option DeploymentSystem :=
  match party.call with
  | .checking =>
    match sys.server.registry.deployments.getActiveDeployment with
    | some active =>
      some
        { sys.settle position sys.server
            { party with call := .refused active } with
          lock := none }
    | none =>
      if sys.Unissued draft then
        some
          { sys.settle position sys.server
              { party with
                draft := some draft, call := .resolving draft } with
            lock := none
            issued := draft.deploymentId :: draft.taskId :: sys.issued }
      else
        none
  | _ => none

/-- A party goes on, if it can. -/
def partyStep?
    (context : DeploymentContext)
    (position : Nat)
    (party : Party) : DeploymentAction → Option DeploymentSystem
  | .acquire _ =>
    match party.call, sys.lock with
    | .waiting, none =>
      some
        { sys.settle position sys.server { party with call := .checking } with
          lock := some position }
    | _, _ => none
  | .check _ draft =>
    sys.checkStep? position party draft
  | .resolve _ release mapping provisioning =>
    match party.call with
    | .resolving draft =>
      some (sys.settle position sys.server
          { party with
            call :=
              .registering
                { request := party.request, draft, release, mapping,
                  provisioning }
                none })
    | _ => none
  | .proceed _ now =>
    (callStep? context now sys.server party).map fun stepped =>
      sys.settle position stepped.1 stepped.2
  | .fail _ =>
    (callFail? party).map fun failed =>
      { sys.settle position sys.server failed with
        lock :=
          if sys.lock = some position then none else sys.lock }
  | .download _ digest =>
    match party.run with
    | some (.preparing run) =>
      some
        (sys.settle position sys.server
          { party with run := some (downloaded run digest) })
    | _ => none
  | .proceedRun _ now =>
    party.run.bind fun point =>
      (runStep? context now sys.server point).map fun stepped =>
        sys.settle position stepped.1 { party with run := some stepped.2 }
  | .failRun _ error log =>
    party.run.bind fun point =>
      (runFail? error log point).map fun failed =>
        sys.settle position sys.server { party with run := some failed }
  | _ => none

end DeploymentSystem

theorem not_partyStep_of_quiet
    {context : DeploymentContext}
    {sys : DeploymentSystem}
    {position : Nat}
    {party : Party}
    {action : DeploymentAction}
    (isQuiet : (party.hasEnded && party.isQuiet) = true) :
    sys.partyStep? context position party action = none := by
  obtain ⟨request, draft, call, run⟩ := party
  obtain ⟨hasEnded, runEnded⟩ := Bool.and_eq_true_iff.mp isQuiet
  cases run with
  | none =>
    cases call with
    | refused | returned | raised =>
      cases action <;> rfl
    | _ =>
      cases hasEnded
  | some point =>
    cases point with
    | ended =>
      cases call with
      | refused | returned | raised =>
        cases action <;> rfl
      | _ =>
        cases hasEnded
    | _ =>
      cases runEnded

/-- The party that goes on. -/
def DeploymentAction.party? : DeploymentAction → Option Nat
  | acquire party => some party
  | check party _ => some party
  | resolve party _ _ _ => some party
  | proceed party _ => some party
  | fail party => some party
  | download party _ => some party
  | proceedRun party _ => some party
  | failRun party _ _ => some party
  | restart => none
  | recover _ => none
  | request _ => none
  | crash => none

namespace DeploymentSystem

/-- Take a step, if it can be taken. -/
def step?
    (context : DeploymentContext)
    (sys : DeploymentSystem)
    (action : DeploymentAction) : Option DeploymentSystem :=
  match action.party? with
  | some position =>
    sys.parties[position]?.bind fun party =>
      sys.partyStep? context position party action
  | none =>
    match action, sys.phase with
    | .restart, .down =>
      some { sys with phase := .recovering sys.activeDeployments none }
    | .recover now, .recovering _ _ =>
      some (sys.recoverStep now)
    | .request request, .serving =>
      some { sys with parties := sys.parties ++ [{ request }] }
    | .crash, _ =>
      some
        { sys with
          phase := .down
          lock := none
          parties := sys.parties.map Party.crashed }
    | _, _ => none

/-- The ids that the databases hold have been issued. -/
structure IdsIssued
    (server : DeploymentServer)
    (issued : List String) : Prop where
  deployments : ∀ row ∈ server.registry.deployments.rows, row.id ∈ issued
  deploymentTasks :
    ∀ row ∈ server.registry.deployments.rows,
      ∀ taskId ∈ row.taskId, taskId ∈ issued
  tasks : ∀ row ∈ server.tasks.tasks.rows, row.id ∈ issued

/-- A server that has not been started, on databases that it finds. -/
def stopped
    (server : DeploymentServer)
    (issued : List String) : DeploymentSystem where
  server := server
  issued := issued

end DeploymentSystem

/-! ### Deployments of one release -/

def asciiContext : DeploymentContext where
  library := Agents.asciiTextLibrary
  hashToken token := "sha256:" ++ token

/-- The ids of a deployment whose own id is given. -/
def namedDraft
    (deploymentId : String)
    (isHex : deploymentId ≠ "" ∧ strip deploymentId = deploymentId) :
    Draft where
  deploymentId
  taskId := "task-of-" ++ deploymentId
  bootstrapToken := "token"
  bootstrapExpiresAt := 4600
  isHex

theorem isHex_first : "dep-1" ≠ "" ∧ strip "dep-1" = "dep-1" := by
  decide

/-- A request for an agent of its own. -/
def requestFor (agentId : String) : PrepareRequest where
  agentId
  hostname := agentId
  displayName := agentId
  serverWsUrl := "ws://server"

/-- A release whose checksum is not recorded. -/
def firstRelease : SelectedRelease where
  releaseId := "release-1"
  version := "1.0"
  tagName := "v1.0"
  commitSha := "c0ffee"
  artifactUrl := "https://example/agent_service.exe"
  artifactSha256 := ""

/-- A registry with that release. -/
def oneRelease : Registry where
  releases :=
    { rows :=
        [{ id := "release-1"
           version := "1.0"
           tagName := "v1.0"
           commitSha := "c0ffee"
           artifactUrl := "https://example/agent_service.exe"
           artifactSha256 := ""
           createdAt := 800 }]
      distinct := by decide }

theorem idsIssued_oneRelease :
    DeploymentSystem.IdsIssued { registry := oneRelease } [] where
  deployments := fun _ member => (List.not_mem_nil member).elim
  deploymentTasks := fun _ member => (List.not_mem_nil member).elim
  tasks := fun _ member => (List.not_mem_nil member).elim

end RpaPlatform.Deploy
