import RpaPlatform.DeploymentOwnership

namespace RpaPlatform.Deploy

open Agents (DeploymentRecord DeploymentStatus strip)
open Tasks (TaskStatus)
open Transition

/-!
# Deployments and their tasks

The status of a deployment and the status of its task are written to two
databases, one after the other.  In between they are divided, and they stay so
when the coroutine that would write the second one ends there.
-/

def Agree (status : DeploymentStatus) (task : Option TaskStatus) : Prop :=
  (status = .failed ↔ task = some .failed) ∧
    (status = .ready ↔ task = some .completed)

instance (status : DeploymentStatus) (task : Option TaskStatus) :
    Decidable (Agree status task) :=
  inferInstanceAs (Decidable (_ ∧ _))

def DeploymentsAgree (server : DeploymentServer) : Prop :=
  ∀ row ∈ server.registry.deployments.rows,
    Agree row.status (row.taskId.bind server.taskStatus?)

instance (server : DeploymentServer) :
    Decidable (DeploymentsAgree server) :=
  inferInstanceAs (Decidable (∀ row ∈ _, Agree _ _))

/-- Whether no coroutine of a deployment is in progress. -/
def DeploymentSystem.isQuiet (sys : DeploymentSystem) : Bool :=
  (match sys.phase with
    | .recovering _ _ => false
    | _ => true) &&
  sys.parties.all fun party => party.hasEnded && party.isQuiet

/-! ### Between the two statuses -/

/-- Whether a refused call has written the status of the task only. -/
def CallPoint.isDivided : CallPoint → Bool
  | .auditingRejection _ _ => true
  | .failing _ _ => true
  | _ => false

namespace RunPoint

variable (server : DeploymentServer)

/-- Whether the handler of exceptions has found or left one status only. -/
def isDividedInHandler : RunPoint → Bool
  | .failing run _ _ =>
    (server.deployment? run.deploymentId).any
        (fun stored => stored.1 = .ready) &&
      server.taskStatus? run.taskId ≠ some .completed
  | .failingTask _ _ => true
  | _ => false

/-- Whether a preparation has written one of the two statuses only. -/
def isDivided : RunPoint → Bool
  | .completing _ _ => true
  | point => point.isDividedInHandler server

end RunPoint

/-- Whether a party has written one of the two statuses only. -/
def Party.isDivided (server : DeploymentServer) (party : Party) : Bool :=
  match party.run with
  | none => party.call.isDivided
  | some point => point.isDivided server

/-- The deployment that a recovery gives up next has a task that failed. -/
def RecoversFailed (server : DeploymentServer) : Phase → Prop
  | .recovering (row :: _) none =>
    strip row.id ≠ "" →
    ∀ stored ∈ server.deployment? (strip row.id),
      stored.2.bind server.taskStatus? = some .failed
  | _ => True

instance (server : DeploymentServer) (phase : Phase) :
    Decidable (RecoversFailed server phase) :=
  match phase with
  | .recovering (row :: _) none =>
    inferInstanceAs
      (Decidable
        (strip row.id ≠ "" →
          ∀ stored ∈ server.deployment? (strip row.id),
            stored.2.bind server.taskStatus? = some .failed))
  | .recovering (_ :: _) (some _) => isTrue trivial
  | .recovering [] _ => isTrue trivial
  | .down => isTrue trivial
  | .serving => isTrue trivial

/--
A coroutine ends by an exception or a crash only when it has not written one
of the two statuses without the other, and a restart gives up no deployment
but those whose task has failed.
-/
def KeepsTogether (sys : DeploymentSystem) : DeploymentAction → Prop
  | .fail position =>
    ∀ party ∈ sys.parties[position]?, party.call.isDivided = false
  | .failRun position _ _ =>
    ∀ party ∈ sys.parties[position]?, ∀ point ∈ party.run,
      point.isDividedInHandler sys.server = false
  | .crash =>
    ∀ party ∈ sys.parties, party.isDivided sys.server = false
  | .recover _ => RecoversFailed sys.server sys.phase
  | _ => True

instance (sys : DeploymentSystem) (action : DeploymentAction) :
    Decidable (KeepsTogether sys action) :=
  match action with
  | .fail position =>
    inferInstanceAs
      (Decidable
        (∀ party ∈ sys.parties[position]?, party.call.isDivided = false))
  | .failRun position _ _ =>
    inferInstanceAs
      (Decidable
        (∀ party ∈ sys.parties[position]?, ∀ point ∈ party.run,
          point.isDividedInHandler sys.server = false))
  | .crash =>
    inferInstanceAs
      (Decidable (∀ party ∈ sys.parties, party.isDivided sys.server = false))
  | .recover _ =>
    inferInstanceAs (Decidable (RecoversFailed sys.server sys.phase))
  | .restart => isTrue trivial
  | .request _ => isTrue trivial
  | .acquire _ => isTrue trivial
  | .check _ _ => isTrue trivial
  | .resolve _ _ _ _ => isTrue trivial
  | .proceed _ _ => isTrue trivial
  | .download _ _ => isTrue trivial
  | .proceedRun _ _ => isTrue trivial

/-! ### A party that is divided goes on -/

section Divided

variable
    {context : DeploymentContext}
    {sys next : DeploymentSystem}
    {position : Nat}
    {party : Party}
    {action : DeploymentAction}

variable {moved : Party}

theorem run_of_callStep
    {now : Int}
    {server after : DeploymentServer}
    (isAside : party.call.isAside = true)
    (stepped : callStep? context now server party = some (after, moved)) :
    moved.run = party.run := by
  obtain ⟨request, draft, call, run⟩ := party
  unfold callStep? at stepped
  cases call with
  | auditingMark | reading =>
    obtain ⟨_, rfl⟩ := Prod.mk.inj (Option.some.inj stepped)
    rfl
  | returned | raised =>
    cases stepped
  | _ =>
    cases isAside

theorem run_of_callFail
    (isAside : party.call.isAside = true)
    (failed : callFail? party = some moved) :
    moved.run = party.run := by
  obtain ⟨request, draft, call, run⟩ := party
  unfold callFail? at failed
  cases call with
  | auditingMark | reading =>
    cases failed
    rfl
  | returned | raised =>
    cases failed
  | _ =>
    cases isAside

theorem forall_mem_set
    {parties : List Party}
    {property : Party → Prop}
    (holds : property moved) :
    ∀ found ∈ (parties.set position moved)[position]?, property found := by
  intro found isFound
  rcases getElem?_set_cases isFound with ⟨_, rfl⟩ | ⟨different, _⟩
  · exact holds
  · exact (different rfl).elim

variable
    (isParty : sys.parties[position]? = some party)
    (isPosition : action.party? = some position)
    (stepped : sys.partyStep? context position party action = some next)
    (together : KeepsTogether sys action)
include isParty isPosition stepped together

theorem unfinished_of_dividedCall
    (noRun : party.run = none)
    (divided : party.call.isDivided = true) :
    ∀ moved ∈ next.parties[position]?, moved.isFinished = false := by
  obtain ⟨request, draft, call, _⟩ := party
  dsimp only at noRun divided
  subst noRun
  cases action with
  | proceed wanted now =>
    cases call with
    | auditingRejection | failing =>
      cases stepped
      exact forall_mem_set rfl
    | _ =>
      cases divided
  | fail wanted =>
    cases isPosition
    rw [together _ isParty] at divided
    cases divided
  | proceedRun | failRun | download =>
    cases stepped
  | restart | recover | request | crash =>
    cases isPosition
  | acquire | check | resolve =>
    cases call with
    | auditingRejection | failing =>
      cases stepped
    | _ =>
      cases divided

/-- A preparation that has written one status goes on to the other. -/
theorem unfinished_of_dividedRun
    {point : RunPoint}
    (isPoint : party.run = some point)
    (isAside : party.call.isAside = true)
    (divided : point.isDivided sys.server = true) :
    ∀ moved ∈ next.parties[position]?, moved.isFinished = false := by
  have stillRuns :
      ∀ moved : Party, moved.run = party.run → moved.isFinished = false := by
    intro moved sameRun
    unfold Party.isFinished
    rw [sameRun, isPoint]
    cases point with
    | ended =>
      cases divided
    | _ =>
      rfl
  cases action with
  | proceed wanted now =>
    obtain ⟨⟨after, moved⟩, isStep, rfl⟩ :=
      Option.map_eq_some_iff.mp stepped
    exact forall_mem_set (stillRuns _ (run_of_callStep isAside isStep))
  | fail wanted =>
    obtain ⟨moved, failed, rfl⟩ := Option.map_eq_some_iff.mp stepped
    exact forall_mem_set (stillRuns _ (run_of_callFail isAside failed))
  | proceedRun wanted now =>
    obtain ⟨_, same, goesOn⟩ := Option.bind_eq_some_iff.mp stepped
    obtain rfl := Option.some.inj (isPoint.symm.trans same)
    obtain ⟨⟨after, later⟩, isStep, rfl⟩ :=
      Option.map_eq_some_iff.mp goesOn
    cases point with
    | completing | failing | failingTask =>
      obtain ⟨_, rfl⟩ := Prod.mk.inj (Option.some.inj isStep)
      exact forall_mem_set rfl
    | _ =>
      cases divided
  | failRun wanted error log =>
    cases isPosition
    obtain ⟨_, same, goesOn⟩ := Option.bind_eq_some_iff.mp stepped
    obtain rfl := Option.some.inj (isPoint.symm.trans same)
    obtain ⟨later, failed, rfl⟩ := Option.map_eq_some_iff.mp goesOn
    have handled := together _ isParty point isPoint
    cases point with
    | completing =>
      cases failed
      exact forall_mem_set rfl
    | failing | failingTask =>
      cases divided.symm.trans handled
    | _ =>
      cases divided
  | download wanted digest =>
    obtain ⟨request, draft, call, run⟩ := party
    dsimp only at isPoint
    subst isPoint
    cases point with
    | completing | failing | failingTask =>
      cases stepped
    | _ =>
      cases divided
  | restart | recover | request | crash =>
    cases isPosition
  | acquire | check | resolve =>
    obtain ⟨request, draft, call, run⟩ := party
    cases call with
    | auditingMark | reading | returned | raised =>
      cases stepped
    | _ =>
      cases isAside

theorem unfinished_of_divided
    (fits : party.Fits sys.server)
    (divided : party.isDivided sys.server = true) :
    ∀ moved ∈ next.parties[position]?, moved.isFinished = false := by
  unfold Party.isDivided at divided
  split at divided
  · rename_i noRun
    exact
      unfinished_of_dividedCall isParty isPosition stepped together noRun
        divided
  · rename_i point isPoint
    obtain ⟨_, _, isAside, _⟩ := fits.aside isPoint
    exact
      unfinished_of_dividedRun isParty isPosition stepped together isPoint
        isAside divided

end Divided

/-! ### The invariant -/

/-- The deployment with an id agrees with its task. -/
def AgreesAt (server : DeploymentServer) (id : String) : Prop :=
  ∀ status taskId,
    server.deployment? id = some (status, taskId) →
    Agree status (taskId.bind server.taskStatus?)

theorem deploymentsAgree_iff {server : DeploymentServer} :
    DeploymentsAgree server ↔ ∀ id, AgreesAt server id := by
  constructor
  · intro agree id status taskId stored
    obtain ⟨row, found, isRow⟩ := Option.map_eq_some_iff.mp stored
    obtain ⟨rfl, rfl⟩ := Prod.mk.inj isRow
    exact agree row ((KeyedTable.find?_eq_some_iff _).mp found).1
  · intro agree row member
    have found : server.registry.deployments.find? row.key = some row :=
      (KeyedTable.find?_eq_some_iff _).mpr ⟨member, rfl⟩
    exact
      agree row.key row.status row.taskId
        (Option.map_eq_some_iff.mpr ⟨row, found, rfl⟩)

/-- A deployment agrees with its task, or a party is between the two. -/
def Together (sys : DeploymentSystem) : Prop :=
  ∀ id, AgreesAt sys.server id ∨
    ∃ (position : Nat) (party : Party) (draft : Draft),
      sys.parties[position]? = some party ∧ party.draft = some draft ∧
        draft.deploymentId = id ∧ party.isDivided sys.server = true

section Steps

variable
    {context : DeploymentContext}
    {sys next : DeploymentSystem}
    {position : Nat}
    {party moved : Party}
    {action : DeploymentAction}
    {draft : Draft}

variable {server : DeploymentServer}

theorem agreesAt_of_standing
    {deployment : Option DeploymentStatus}
    {task : Option TaskStatus}
    (expected : server.standing draft = draft.standing deployment task)
    (agree : ∀ status ∈ deployment, Agree status task) :
    AgreesAt server draft.deploymentId := by
  intro status taskId stored
  have isRow :
      (deployment.map fun status => (status, some draft.taskId)) =
        some (status, taskId) :=
    (congrArg Standing.deployment expected).symm.trans stored
  have isTask : server.taskStatus? draft.taskId = task :=
    congrArg Standing.task expected
  obtain ⟨own, isStatus, same⟩ := Option.map_eq_some_iff.mp isRow
  obtain ⟨rfl, rfl⟩ := Prod.mk.inj same
  rw [Option.bind_some, isTask]
  exact agree own isStatus

theorem agreesAt_of_agree
    {deployment : DeploymentStatus}
    {task : Option TaskStatus}
    (expected : server.standing draft = draft.standing (some deployment) task)
    (agree : Agree deployment task) :
    AgreesAt server draft.deploymentId :=
  agreesAt_of_standing expected fun _ same => Option.some.inj same ▸ agree

theorem agree_of_isOpen
    {status : DeploymentStatus}
    {task : TaskStatus}
    (isOpen : IsOpen task)
    (notDone : status ≠ .failed ∧ status ≠ .ready) :
    Agree status (some task) := by
  obtain ⟨notFailed, notReady⟩ := notDone
  rcases isOpen with rfl | rfl
  · exact ⟨iff_of_false notFailed nofun, iff_of_false notReady nofun⟩
  · exact ⟨iff_of_false notFailed nofun, iff_of_false notReady nofun⟩

theorem agreesAt_of_call
    {call : CallPoint}
    (expects : call.Expects draft (server.standing draft))
    (undivided : call.isDivided = false)
    (unfinished : call ≠ .returned ∧ call ≠ .raised) :
    AgreesAt server draft.deploymentId := by
  cases call with
  | waiting | checking | refused | auditingMark =>
    exact expects.elim
  | resolving | registering | settingToken | inserting =>
    exact agreesAt_of_standing expects.2 nofun
  | linking | submitting =>
    exact agreesAt_of_agree expects.2 (by decide)
  | auditingTask | rejecting =>
    exact agreesAt_of_agree expects.2 (by decide)
  | dispatching | marking =>
    exact agreesAt_of_agree expects.2.2 (by decide)
  | auditingRejection | failing =>
    cases undivided
  | unregistering | reading =>
    exact agreesAt_of_agree expects.2 (by decide)
  | returned =>
    exact (unfinished.1 rfl).elim
  | raised =>
    exact (unfinished.2 rfl).elim

theorem agreesAt_of_run
    {point : RunPoint}
    (expects : point.Expects draft (server.standing draft))
    (undivided : point.isDivided server = false)
    (unfinished : point ≠ .ended) :
    AgreesAt server draft.deploymentId := by
  cases point with
  | starting | preparing | storing =>
    obtain ⟨_, task, isOpen, expected⟩ := expects
    exact agreesAt_of_agree expected (agree_of_isOpen isOpen (by decide))
  | auditingCompletion | readying =>
    exact agreesAt_of_agree expects.2 (by decide)
  | failing run log error =>
    obtain ⟨names, status, task, isReached, expected⟩ := expects
    have isRow :
        server.deployment? run.deploymentId =
          some (status, some draft.taskId) := by
      rw [names.1]
      exact congrArg Standing.deployment expected
    have isTask : server.taskStatus? run.taskId = some task := by
      rw [names.2]
      exact congrArg Standing.task expected
    rcases isReached with ⟨rfl, isOpen⟩ | ⟨rfl, isOpen | rfl⟩
    · exact agreesAt_of_agree expected (agree_of_isOpen isOpen (by decide))
    · -- The deployment is ready and its task is not completed.
      rw [RunPoint.isDivided, RunPoint.isDividedInHandler, isRow, isTask]
        at undivided
      · rcases isOpen with rfl | rfl
        · cases undivided
        · cases undivided
      · exact nofun
    · exact agreesAt_of_agree expected (by decide)
  | completing | failingTask =>
    cases undivided
  | auditingFailure | markingAgent =>
    exact agreesAt_of_agree expects.2 (by decide)
  | ended =>
    exact (unfinished rfl).elim

theorem agreesAt_of_expects
    (expects : party.Expects draft (server.standing draft))
    (undivided : party.isDivided server = false)
    (unfinished : party.isFinished = false) :
    AgreesAt server draft.deploymentId := by
  obtain ⟨request, own, call, _ | point⟩ := party
  · refine agreesAt_of_call expects undivided ?_
    constructor
    · rintro rfl
      cases unfinished
    · rintro rfl
      cases unfinished
  · refine agreesAt_of_run expects.2 undivided ?_
    rintro rfl
    cases unfinished

theorem isDivided_of_standing
    {before after : DeploymentServer}
    (expects : party.Expects draft (before.standing draft))
    (same : after.standing draft = before.standing draft) :
    party.isDivided after = party.isDivided before := by
  obtain ⟨request, own, call, _ | point⟩ := party
  · rfl
  · cases point with
    | failing run log error =>
      obtain ⟨_, names, _⟩ := expects
      have sameRow :
          after.deployment? run.deploymentId =
            before.deployment? run.deploymentId := by
        rw [names.1]
        exact congrArg Standing.deployment same
      have sameTask :
          after.taskStatus? run.taskId = before.taskStatus? run.taskId := by
        rw [names.2]
        exact congrArg Standing.task same
      change
        RunPoint.isDividedInHandler after (.failing run log error) =
          RunPoint.isDividedInHandler before (.failing run log error)
      simp only [RunPoint.isDividedInHandler, sameRow, sameTask]
    | _ =>
      rfl

theorem AgreesAt.of_same
    {before after : DeploymentServer}
    {id : String}
    (agrees : AgreesAt before id)
    (sameRow : after.deployment? id = before.deployment? id)
    (sameTask :
      ∀ status taskId,
        before.deployment? id = some (status, some taskId) →
        after.taskStatus? taskId = before.taskStatus? taskId) :
    AgreesAt after id := by
  intro status taskId stored
  rw [sameRow] at stored
  have agree := agrees status taskId stored
  cases taskId with
  | none =>
    exact agree
  | some task =>
    rw [Option.bind_some] at agree ⊢
    rw [sameTask status task stored]
    exact agree

theorem Together.of_elsewhere
    (owned : Owned sys)
    (together : Together sys)
    (isParty : sys.parties[position]? = some party)
    (sameParties : next.parties = sys.parties.set position moved)
    (isDraft : party.draft = some draft)
    (elsewhere : Elsewhere draft sys.server next.server)
    {id : String}
    (other : id ≠ draft.deploymentId) :
    AgreesAt next.server id ∨
      ∃ (position : Nat) (party : Party) (draft : Draft),
        next.parties[position]? = some party ∧ party.draft = some draft ∧
          draft.deploymentId = id ∧
          party.isDivided next.server = true := by
  have atPosition : sys.draft? position = some draft :=
    Option.bind_eq_some_iff.mpr ⟨party, isParty, isDraft⟩
  rcases together id with
    agrees | ⟨wanted, rival, taken, isRival, isTaken, named, divided⟩
  · refine .inl (agrees.of_same (elsewhere.deployments id other) ?_)
    intro status taskId stored
    refine elsewhere.tasks taskId ?_
    rintro rfl
    exact other (owned.ownTask atPosition stored)
  · have different : wanted ≠ position := by
      rintro rfl
      obtain rfl := Option.some.inj (isRival.symm.trans isParty)
      obtain rfl := Option.some.inj (isTaken.symm.trans isDraft)
      exact other named.symm
    refine .inr ⟨wanted, rival, taken, ?_, isTaken, named, ?_⟩
    · rw [sameParties, List.getElem?_set_ne (Ne.symm different)]
      exact isRival
    · have atWanted : sys.draft? wanted = some taken :=
        Option.bind_eq_some_iff.mpr ⟨rival, isRival, isTaken⟩
      rw [isDivided_of_standing ((owned.fits isRival).expects isTaken)
        (elsewhere.standing (owned.apart atWanted atPosition different))]
      exact divided

theorem AgreesAt.of_finished
    (agrees : AgreesAt sys.server draft.deploymentId)
    (advances : Advances draft sys.server party next.server moved)
    (finished : moved.isFinished = true) :
    AgreesAt next.server draft.deploymentId := by
  have same := advances.finishes finished
  refine agrees.of_same (congrArg Standing.deployment same) ?_
  intro status taskId _
  by_cases own : taskId = draft.taskId
  · subst own
    exact congrArg Standing.task same
  · exact advances.elsewhere.tasks taskId own

/-- A party that goes on keeps its own deployment together. -/
theorem Together.of_advances
    (owned : Owned sys)
    (together : Together sys)
    (isPosition : action.party? = some position)
    (isParty : sys.parties[position]? = some party)
    (stepped : sys.partyStep? context position party action = some next)
    (sameParties : next.parties = sys.parties.set position moved)
    (isDraft : party.draft = some draft)
    (advances : Advances draft sys.server party next.server moved)
    (keeps : KeepsTogether sys action) :
    Together next := by
  intro id
  by_cases other : id ≠ draft.deploymentId
  · exact
      together.of_elsewhere owned isParty sameParties isDraft
        advances.elsewhere other
  obtain rfl := not_not.mp other
  have isMoved : next.parties[position]? = some moved := by
    rw [sameParties]
    exact List.getElem?_set_self (List.getElem?_eq_some_iff.mp isParty).1
  cases isDivided : moved.isDivided next.server with
  | true =>
    exact
      .inr ⟨position, moved, draft, isMoved, advances.ownDraft, rfl, isDivided⟩
  | false =>
    left
    cases isFinished : moved.isFinished with
    | false =>
      exact agreesAt_of_expects advances.expects isDivided isFinished
    | true =>
      -- It ends, so it was not divided, and it has written nothing.
      refine AgreesAt.of_finished ?_ advances isFinished
      rcases together draft.deploymentId with
        agrees | ⟨wanted, rival, taken, isRival, isTaken, named, divided⟩
      · exact agrees
      · have same : wanted = position := by
          by_contra different
          exact
            (owned.apart
                (Option.bind_eq_some_iff.mpr ⟨rival, isRival, isTaken⟩)
                (Option.bind_eq_some_iff.mpr ⟨party, isParty, isDraft⟩)
                different).1
              named
        subst same
        obtain rfl := Option.some.inj (isRival.symm.trans isParty)
        have unfinished :=
          unfinished_of_divided isParty isPosition stepped keeps
            (owned.fits isParty) divided moved isMoved
        rw [isFinished] at unfinished
        cases unfinished

theorem Together.agreesAt_of_undivided
    (together : Together sys)
    (undivided : ∀ party ∈ sys.parties, party.isDivided sys.server = false)
    (id : String) :
    AgreesAt sys.server id := by
  rcases together id with
    agrees | ⟨position, party, draft, isParty, _, _, divided⟩
  · exact agrees
  · rw [undivided party (List.mem_of_getElem? isParty)] at divided
    cases divided

theorem undivided_of_quiet
    (isQuiet : (party.hasEnded && party.isQuiet) = true) :
    party.isDivided server = false := by
  obtain ⟨request, own, call, run⟩ := party
  obtain ⟨hasEnded, runEnded⟩ := Bool.and_eq_true_iff.mp isQuiet
  cases run with
  | none =>
    cases call with
    | refused | returned | raised =>
      rfl
    | _ =>
      cases hasEnded
  | some point =>
    cases point with
    | ended =>
      rfl
    | _ =>
      cases runEnded

theorem undivided_of_stopped
    (isStopped : party.isStopped = true) :
    party.isDivided server = false := by
  obtain ⟨request, own, call, run⟩ := party
  obtain ⟨hasEnded, noRun⟩ := Bool.and_eq_true_iff.mp isStopped
  obtain rfl := Option.isNone_iff_eq_none.mp noRun
  exact undivided_of_quiet (Bool.and_eq_true_iff.mpr ⟨hasEnded, rfl⟩)

theorem agreesAt_recoverStep
    (agrees : ∀ id, AgreesAt sys.server id)
    (recoversFailed : RecoversFailed sys.server sys.phase)
    (now : Int)
    (id : String) :
    AgreesAt (sys.recoverStep now).server id := by
  unfold DeploymentSystem.recoverStep
  split
  · rename_i row rest isPhase
    rw [isPhase] at recoversFailed
    split
    · exact agrees id
    · rename_i named
      intro status taskId stored
      rw [DeploymentServer.deployment?_update] at stored
      split at stored
      · rename_i isId
        subst isId
        obtain ⟨before, isBefore, same⟩ :=
          Option.map_eq_some_iff.mp stored
        obtain ⟨rfl, rfl⟩ := Prod.mk.inj same
        have isFailed := recoversFailed named before isBefore
        have agree : Agree .failed (some .failed) := by decide
        exact isFailed ▸ agree
      · exact agrees id status taskId stored
  · rename_i progress _
    cases progress with
    | none | some =>
      exact agrees id
  · exact agrees id
  · exact agrees id

/-- Every step that meets the condition keeps the deployments together. -/
theorem Together.step
    (owned : Owned sys)
    (together : Together sys)
    (stepped : sys.step? context action = some next)
    (keeps : KeepsTogether sys action) :
    Together next := by
  cases systemStep_of_step owned stepped with
  | moves position party moved isPosition isParty isStep sameParties _ _
      moves =>
      have sameServer_together :
          party.draft = none → next.server = sys.server →
          Together next := by
        intro unnamed sameServer id
        rw [sameServer]
        rcases together id with
          agrees | ⟨wanted, rival, draft, isRival, isDraft, named, divided⟩
        · exact .inl agrees
        · have different : position ≠ wanted := by
            rintro rfl
            obtain rfl := Option.some.inj (isRival.symm.trans isParty)
            rw [unnamed] at isDraft
            cases isDraft
          refine .inr ⟨wanted, rival, draft, ?_, isDraft, named, divided⟩
          rw [sameParties, List.getElem?_set_ne different]
          exact isRival
      cases moves with
      | waits unnamed _ _ sameServer =>
        exact sameServer_together unnamed sameServer
      | enters _ _ unnamed _ _ _ _ sameServer =>
        exact sameServer_together unnamed sameServer
      | advances draft isDraft advances =>
        exact
          together.of_advances owned isPosition isParty isStep sameParties
            isDraft advances keeps
  | recovers now isRecover notServing recovers =>
    subst isRecover recovers
    have agrees :=
      together.agreesAt_of_undivided fun party member =>
        undivided_of_stopped (owned.stopped notServing party member)
    exact fun id => .inl (agreesAt_recoverStep agrees keeps now id)
  | restarts _ _ restarts =>
    subst restarts
    exact together
  | requests request _ requests =>
    subst requests
    intro id
    rcases together id with
      agrees | ⟨position, party, draft, isParty, rest⟩
    · exact .inl agrees
    · obtain ⟨inRange, _⟩ := List.getElem?_eq_some_iff.mp isParty
      refine .inr ⟨position, party, draft, ?_, rest⟩
      rw [List.getElem?_append_left inRange]
      exact isParty
  | crashes isCrash crashes =>
    subst isCrash crashes
    exact fun id => .inl (together.agreesAt_of_undivided keeps id)

end Steps

/-- The agreement that a deployment and its task are meant to have. -/
def DeploymentsSettle (context : DeploymentContext) : Prop :=
  ∀ server issued actions final,
    DeploymentSystem.IdsIssued server issued →
    DeploymentsAgree server →
    Run (Fires (DeploymentSystem.step? context))
      (DeploymentSystem.stopped server issued) actions final →
    final.isQuiet = true →
    DeploymentsAgree final.server

/--
In every run in which nothing ends between the two statuses, and no restart
gives up a deployment whose task has not failed, every deployment agrees with
its task whenever no coroutine is in progress.
-/
theorem deploymentsAgree_of_keepsTogether
    (context : DeploymentContext)
    {server : DeploymentServer}
    {issued : List String}
    (idsIssued : DeploymentSystem.IdsIssued server issued)
    (agree : DeploymentsAgree server)
    {actions : List DeploymentAction}
    {final : DeploymentSystem}
    (run :
      Run
        (Guarded (Fires (DeploymentSystem.step? context)) KeepsTogether)
        (DeploymentSystem.stopped server issued) actions final)
    (quiet : final.isQuiet = true) :
    DeploymentsAgree final.server := by
  have stepPreserves :
      ∀ sys action next,
        Guarded (Fires (DeploymentSystem.step? context)) KeepsTogether sys
          action next →
        Owned sys ∧ Together sys →
        Owned next ∧ Together next :=
    fun _ _ _ ⟨stepped, keeps⟩ ⟨owned, together⟩ =>
      ⟨owned.step stepped, together.step owned stepped keeps⟩
  have start : Together (DeploymentSystem.stopped server issued) :=
    fun id => .inl (deploymentsAgree_iff.mp agree id)
  obtain ⟨_, together⟩ :=
    run.preserves stepPreserves ⟨owned_stopped idsIssued, start⟩
  obtain ⟨_, allQuiet⟩ := Bool.and_eq_true_iff.mp quiet
  refine deploymentsAgree_iff.mpr (together.agreesAt_of_undivided ?_)
  intro party member
  exact undivided_of_quiet (List.all_eq_true.mp allQuiet party member)

/-! ### One deployment -/

/-- What a deployment for `vm-01` is prepared from. -/
def firstPreparation : Preparation where
  request := requestFor "vm-01"
  draft := namedDraft "dep-1" isHex_first
  release := firstRelease
  mapping := []
  provisioning := []

/-- A deployment that becomes ready. -/
def preparedToTheEnd : List DeploymentAction :=
  [.restart, .recover 1000, .request (requestFor "vm-01"), .acquire 0,
    .check 0 firstPreparation.draft, .resolve 0 firstRelease [] []] ++
    List.replicate 12 (.proceed 0 1000) ++
    [.proceedRun 0 1000, .download 0 "digest"] ++
    List.replicate 5 (.proceedRun 0 2000)

/-- What a crash leaves of a deployment whose release is downloaded. -/
def interruptedServer : DeploymentServer where
  registry :=
    { oneRelease with
      agents :=
        { rows :=
            [{ id := "vm-01"
               hostname := "vm-01"
               status := .provisioning
               lastDeploymentId := some "dep-1"
               createdAt := 1000
               updatedAt := 1000 }]
          distinct := by decide }
      deployments :=
        { rows :=
            [{ firstPreparation.deploymentRow 1000 with
                status := .preparing
                startedAt := some 1000 }]
          distinct := List.nodup_singleton _ } }
  tasks :=
    { Tasks.TaskDB.empty with
      tasks :=
        { rows :=
            [Tasks.TaskDB.withStatus 1000 .running {}
              (Tasks.TaskDB.newTaskRow 1000 (firstPreparation.taskSpec ""))]
          distinct := List.nodup_singleton _ } }

def restarted : List DeploymentAction :=
  [.restart, .recover 3000, .recover 3000, .recover 3000, .recover 3000]

theorem idsIssued_interruptedServer :
    DeploymentSystem.IdsIssued interruptedServer
      ["dep-1", "task-of-dep-1"] where
  deployments := by
    intro row member
    obtain rfl := List.mem_singleton.mp member
    exact .head _
  deploymentTasks := by
    intro row member taskId isTask
    obtain rfl := List.mem_singleton.mp member
    cases isTask
    exact .tail _ (.head _)
  tasks := by
    intro row member
    obtain rfl := List.mem_singleton.mp member
    have isIssued :
        (firstPreparation.taskSpec "").id ∈ ["dep-1", "task-of-dep-1"] := by
      rw [id_taskSpec]
      exact .tail _ (.head _)
    exact isIssued

/-- A deployment that becomes ready has a task that is completed. -/
theorem preparedToTheEnd_agrees :
    ∃ final : DeploymentSystem,
      DeploymentsAgree final.server ∧
        final.server.deployment? "dep-1" =
          some (.ready, some "task-of-dep-1") := by
  obtain ⟨final, run, reached⟩ :=
    exists_run_of_execute
      (show
        (Transition.execute
            (checked (DeploymentSystem.step? asciiContext) KeepsTogether)
            (DeploymentSystem.stopped { registry := oneRelease } [])
            preparedToTheEnd).any
          (fun final =>
            final.isQuiet &&
              decide
                (final.server.deployment? "dep-1" =
                  some (.ready, some "task-of-dep-1"))) =
          true by decide)
  obtain ⟨quiet, isReady⟩ := Bool.and_eq_true_iff.mp reached
  exact
    ⟨final,
      deploymentsAgree_of_keepsTogether asciiContext idsIssued_oneRelease
        (by decide) (Run.guarded_of_checked run) quiet,
      of_decide_eq_true isReady⟩

/-- A restart fails the deployment, and leaves its task running. -/
theorem not_deploymentsSettle : ¬ DeploymentsSettle asciiContext := by
  intro claimed
  obtain ⟨final, run, reached⟩ :=
    exists_run_of_execute
      (show
        (Transition.execute (DeploymentSystem.step? asciiContext)
            (DeploymentSystem.stopped interruptedServer
              ["dep-1", "task-of-dep-1"])
            restarted).any
          (fun final =>
            final.isQuiet && decide (¬ DeploymentsAgree final.server)) =
          true by decide)
  obtain ⟨quiet, disagree⟩ := Bool.and_eq_true_iff.mp reached
  exact
    of_decide_eq_true disagree
      (claimed _ _ _ final idsIssued_interruptedServer (by decide)
        run quiet)

end RpaPlatform.Deploy
