import RpaPlatform.DeploymentStandings

namespace RpaPlatform.Deploy

open Agents (AgentChange DeploymentRecord DeploymentStatus strip)
open Tasks (TaskSpec TaskStatus)
open Transition

/-!
# Who writes to a deployment

In every run each preparation has ids of its own, which no row that is there
already and no other preparation uses, and finds the standing that it expects.
The recovery of a restart writes only when no preparation is under way.
-/

def Draft.Apart (first second : Draft) : Prop :=
  first.deploymentId ≠ second.deploymentId ∧ first.taskId ≠ second.taskId

namespace Party

variable (party : Party)

/-- What a party expects of the server. -/
def Fits (server : DeploymentServer) : Prop :=
  match party.draft with
  | none => party.call.isUnnamed = true ∧ party.run = none
  | some draft => party.Expects draft (server.standing draft)

def isStopped : Bool :=
  party.hasEnded && party.run.isNone

end Party

/-! ### A party goes on -/

/-- What a party's step does to the system. -/
inductive Moves
    (sys : DeploymentSystem)
    (party : Party)
    (action : DeploymentAction)
    (next : DeploymentSystem)
    (moved : Party) : Prop where
  /-- It has no ids, and still has none. -/
  | waits
      (unnamed : party.draft = none)
      (stillUnnamed : moved.draft = none)
      (fits : moved.call.isUnnamed = true ∧ moved.run = none)
      (sameServer : next.server = sys.server)
      (sameIssued : next.issued = sys.issued)
  /-- It has found no active deployment, and has new ids. -/
  | enters
      (draft : Draft)
      (isCheck : ∃ position, action = .check position draft)
      (unnamed : party.draft = none)
      (named : moved =
        { party with draft := some draft, call := .resolving draft })
      (noRun : party.run = none)
      (free : sys.server.registry.deployments.getActiveDeployment = none)
      (unissued : sys.Unissued draft)
      (sameServer : next.server = sys.server)
      (issued : next.issued = draft.deploymentId :: draft.taskId :: sys.issued)
  /-- It goes on with its own deployment. -/
  | advances
      (draft : Draft)
      (isDraft : party.draft = some draft)
      (advances : Advances draft sys.server party next.server moved)
      (sameIssued : next.issued = sys.issued)

section PartySteps

variable
    {context : DeploymentContext}
    {sys next : DeploymentSystem}
    {position : Nat}
    {party : Party}
    {action : DeploymentAction}

variable
    {server : DeploymentServer}
    {draft : Draft}

theorem Party.Fits.expects
    (fits : party.Fits server)
    (isDraft : party.draft = some draft) :
    party.Expects draft (server.standing draft) := by
  unfold Party.Fits at fits
  rwa [isDraft] at fits

theorem Party.Fits.unnamed
    (fits : party.Fits server)
    (noDraft : party.draft = none) :
    party.call.isUnnamed = true ∧ party.run = none := by
  unfold Party.Fits at fits
  rwa [noDraft] at fits

theorem Party.Fits.aside
    (fits : party.Fits server)
    {point : RunPoint}
    (isPoint : party.run = some point) :
    ∃ draft,
      party.draft = some draft ∧ party.call.isAside = true ∧
        point.Expects draft (server.standing draft) := by
  cases isDraft : party.draft with
  | none =>
    have noRun := (fits.unnamed isDraft).2
    rw [isPoint] at noRun
    cases noRun
  | some draft =>
    have expects := fits.expects isDraft
    unfold Party.Expects at expects
    rw [isPoint] at expects
    exact ⟨draft, rfl, expects⟩

theorem Party.Fits.noDraft
    (fits : party.Fits server)
    (isEarly :
      party.call = .waiting ∨ party.call = .checking ∨
        ∃ active, party.call = .refused active) :
    party.draft = none ∧ party.run = none := by
  cases isDraft : party.draft with
  | none =>
    exact ⟨rfl, (fits.unnamed isDraft).2⟩
  | some draft =>
    have expects := fits.expects isDraft
    unfold Party.Expects at expects
    split at expects
    · rcases isEarly with isCall | isCall | ⟨active, isCall⟩
      all_goals
        rw [isCall] at expects
        exact expects.elim
    · rcases isEarly with isCall | isCall | ⟨active, isCall⟩
      all_goals
        rw [isCall] at expects
        cases expects.1

theorem callStep?_unnamed
    {now : Int}
    (isUnnamed : party.call.isUnnamed = true) :
    callStep? context now server party = none := by
  obtain ⟨request, draft, call, run⟩ := party
  cases call with
  | waiting | checking | refused | raised =>
    rfl
  | _ =>
    cases isUnnamed

theorem moves_checkStep
    {named : Nat}
    (fits : party.Fits sys.server)
    (stepped : sys.checkStep? position party draft = some next) :
    ∃ moved,
      next.parties = sys.parties.set position moved ∧
        next.phase = sys.phase ∧
          Moves sys party (.check named draft) next moved := by
  unfold DeploymentSystem.checkStep? at stepped
  split at stepped
  · rename_i isCall
    obtain ⟨noDraft, noRun⟩ := fits.noDraft (.inr (.inl isCall))
    split at stepped
    · cases stepped
      exact ⟨_, rfl, rfl, .waits noDraft noDraft ⟨rfl, noRun⟩ rfl rfl⟩
    · rename_i free
      split at stepped
      · rename_i unissued
        cases stepped
        exact
          ⟨_, rfl, rfl,
            .enters draft ⟨_, rfl⟩ noDraft rfl noRun free unissued rfl rfl⟩
      · cases stepped
  · cases stepped

theorem moves_callStep
    {now : Int}
    {after : DeploymentServer}
    {moved : Party}
    (fits : party.Fits sys.server)
    (stepped : callStep? context now sys.server party = some (after, moved))
    (server : next.server = after)
    (sameIssued : next.issued = sys.issued) :
    Moves sys party action next moved := by
  subst server
  cases isDraft : party.draft with
  | none =>
    rw [callStep?_unnamed (fits.unnamed isDraft).1] at stepped
    cases stepped
  | some draft =>
    refine .advances draft isDraft ?_ sameIssued
    have expects := fits.expects isDraft
    cases isRun : party.run with
    | none =>
      have atCall := expects
      unfold Party.Expects at atCall
      rw [isRun] at atCall
      exact advances_callStep isDraft isRun atCall stepped
    | some point =>
      obtain ⟨_, _, isAside, _⟩ := fits.aside isRun
      exact
        advances_callStep_aside isDraft (by rw [isRun]; rfl) isAside
          expects stepped

theorem moves_callFail
    {moved : Party}
    (fits : party.Fits sys.server)
    (failed : callFail? party = some moved)
    (sameServer : next.server = sys.server)
    (sameIssued : next.issued = sys.issued) :
    Moves sys party action next moved := by
  cases isDraft : party.draft with
  | none =>
    obtain ⟨isUnnamed, noRun⟩ := fits.unnamed isDraft
    unfold callFail? at failed
    cases isCall : party.call with
    | waiting | refused | raised =>
      rw [isCall] at failed
      cases failed
    | checking =>
      rw [isCall] at failed
      cases failed
      exact .waits isDraft isDraft ⟨rfl, noRun⟩ sameServer sameIssued
    | _ =>
      rw [isCall] at isUnnamed
      cases isUnnamed
  | some draft =>
    refine .advances draft isDraft ?_ sameIssued
    rw [sameServer]
    exact advances_callFail isDraft (fits.expects isDraft) failed

theorem moves_resolve
    {release : SelectedRelease}
    {mapping provisioning : Agents.JsonObject}
    (fits : party.Fits sys.server)
    (isCall : party.call = .resolving draft) :
    Moves sys party action (sys.settle position sys.server
        { party with
          call :=
            .registering
              { request := party.request, draft, release, mapping,
                provisioning }
              none })
      { party with
        call :=
          .registering
            { request := party.request, draft, release, mapping,
              provisioning }
            none } := by
  cases isDraft : party.draft with
  | none =>
    have isUnnamed := (fits.unnamed isDraft).1
    rw [isCall] at isUnnamed
    cases isUnnamed
  | some own =>
    have expects := fits.expects isDraft
    refine
      .advances own isDraft
        (advances_of_same rfl rfl rfl ?_
          (fun _ => by unfold Party.inGap; rw [isCall]))
        rfl
    unfold Party.Expects at expects ⊢
    rw [isCall] at expects
    split at expects
    · rename_i noRun
      rw [noRun]
      exact expects
    · cases expects.1

/-- A party that goes on leaves the others, and the phase, as they are. -/
theorem moves_of_partyStep
    (fits : party.Fits sys.server)
    (stepped : sys.partyStep? context position party action = some next) :
    ∃ moved,
      next.parties = sys.parties.set position moved ∧
        next.phase = sys.phase ∧ Moves sys party action next moved := by
  cases action with
  | acquire =>
    dsimp only [DeploymentSystem.partyStep?] at stepped
    split at stepped
    · rename_i isCall _
      obtain ⟨noDraft, noRun⟩ := fits.noDraft (.inl isCall)
      cases stepped
      exact ⟨_, rfl, rfl, .waits noDraft noDraft ⟨rfl, noRun⟩ rfl rfl⟩
    · cases stepped
  | check position draft =>
    exact moves_checkStep fits stepped
  | resolve position release mapping provisioning =>
    dsimp only [DeploymentSystem.partyStep?] at stepped
    split at stepped
    · rename_i draft isCall
      cases stepped
      exact ⟨_, rfl, rfl, moves_resolve fits isCall⟩
    · cases stepped
  | proceed position now =>
    obtain ⟨⟨after, moved⟩, isStep, rfl⟩ :=
      Option.map_eq_some_iff.mp stepped
    exact ⟨moved, rfl, rfl, moves_callStep fits isStep rfl rfl⟩
  | fail position =>
    obtain ⟨moved, failed, rfl⟩ := Option.map_eq_some_iff.mp stepped
    exact ⟨moved, rfl, rfl, moves_callFail fits failed rfl rfl⟩
  | download position digest =>
    dsimp only [DeploymentSystem.partyStep?] at stepped
    split at stepped
    · rename_i run isPoint
      cases stepped
      obtain ⟨draft, isDraft, isAside, expects⟩ := fits.aside isPoint
      exact
        ⟨_, rfl, rfl,
          .advances draft isDraft
            (advances_downloaded isDraft isAside expects digest) rfl⟩
    · cases stepped
  | proceedRun position now =>
    obtain ⟨point, isPoint, goesOn⟩ := Option.bind_eq_some_iff.mp stepped
    obtain ⟨⟨after, later⟩, isStep, rfl⟩ :=
      Option.map_eq_some_iff.mp goesOn
    obtain ⟨draft, isDraft, isAside, expects⟩ := fits.aside isPoint
    exact
      ⟨_, rfl, rfl,
        .advances draft isDraft
          (advances_runStep isDraft isAside expects isStep) rfl⟩
  | failRun position error log =>
    obtain ⟨point, isPoint, goesOn⟩ := Option.bind_eq_some_iff.mp stepped
    obtain ⟨later, failed, rfl⟩ := Option.map_eq_some_iff.mp goesOn
    obtain ⟨draft, isDraft, isAside, expects⟩ := fits.aside isPoint
    exact
      ⟨_, rfl, rfl,
        .advances draft isDraft
          (advances_runFail isDraft isAside expects failed) rfl⟩
  | restart | recover | request | crash =>
    cases stepped

end PartySteps

/-! ### A restart recovers -/

/-- Some deployments have failed, and nothing else has changed. -/
structure GivesUp (before after : DeploymentServer) : Prop where
  deployments :
    ∀ id, after.deployment? id = before.deployment? id ∨
      ∃ old taskId,
        before.deployment? id = some (old, taskId) ∧
          after.deployment? id = some (.failed, taskId)
  tasks : ∀ id, after.taskStatus? id = before.taskStatus? id

theorem givesUp_of_same
    {before after : DeploymentServer}
    (sameDeployments : after.registry.deployments = before.registry.deployments)
    (sameTasks : after.tasks = before.tasks) :
    GivesUp before after := by
  constructor
  · intro id
    unfold DeploymentServer.deployment?
    rw [sameDeployments]
    exact .inl rfl
  · intro id
    unfold DeploymentServer.taskStatus?
    rw [sameTasks]

theorem givesUp_update
    (server : DeploymentServer)
    (deploymentId : String)
    {change : DeploymentUpdate}
    (fails : change.status = some .failed)
    (keepsTask : change.taskId = none) :
    GivesUp server
      (server.onRegistry (·.updateDeployment deploymentId change)) := by
  refine ⟨fun id => ?_, fun _ => rfl⟩
  rw [DeploymentServer.deployment?_update]
  split
  · cases found : server.deployment? id with
    | none =>
      exact .inl rfl
    | some stored =>
      obtain ⟨old, taskId⟩ := stored
      refine .inr ⟨old, taskId, rfl, ?_⟩
      rw [Option.map_some, fails, keepsTask]
      rfl
  · exact .inl rfl

theorem givesUp_recoverStep (sys : DeploymentSystem) (now : Int) :
    GivesUp sys.server (sys.recoverStep now).server ∧
      (sys.recoverStep now).issued = sys.issued ∧
      (sys.recoverStep now).parties = sys.parties := by
  unfold DeploymentSystem.recoverStep
  split
  · split
    · exact ⟨givesUp_of_same rfl rfl, rfl, rfl⟩
    · exact ⟨givesUp_update _ _ rfl rfl, rfl, rfl⟩
  · rename_i progress _
    cases progress with
    | none | some =>
      exact ⟨givesUp_of_same rfl rfl, rfl, rfl⟩
  · exact ⟨givesUp_of_same rfl rfl, rfl, rfl⟩
  · exact ⟨givesUp_of_same rfl rfl, rfl, rfl⟩

/-! ### The invariant -/

/-- The ids of a party. -/
def DeploymentSystem.draft?
    (sys : DeploymentSystem)
    (position : Nat) : Option Draft :=
  sys.parties[position]?.bind Party.draft

/-- The ids that are in use have been issued, each to one preparation. -/
structure Owned (sys : DeploymentSystem) : Prop where
  rowsIssued :
    ∀ {id status taskId},
      sys.server.deployment? id = some (status, taskId) →
      id ∈ sys.issued ∧ ∀ task ∈ taskId, task ∈ sys.issued
  tasksIssued :
    ∀ {id}, (sys.server.taskStatus? id).isSome = true → id ∈ sys.issued
  draftsIssued :
    ∀ {position : Nat} {draft : Draft},
      sys.draft? position = some draft →
      draft.deploymentId ∈ sys.issued ∧ draft.taskId ∈ sys.issued
  apart :
    ∀ {position other : Nat} {draft taken : Draft},
      sys.draft? position = some draft →
      sys.draft? other = some taken →
      position ≠ other →
      draft.Apart taken
  ownTask :
    ∀ {position : Nat} {draft : Draft} {id status},
      sys.draft? position = some draft →
      sys.server.deployment? id = some (status, some draft.taskId) →
      id = draft.deploymentId
  fits :
    ∀ {position : Nat} {party : Party},
      sys.parties[position]? = some party → party.Fits sys.server
  stopped : sys.phase ≠ .serving → ∀ party ∈ sys.parties, party.isStopped = true

section Invariant

variable
    {context : DeploymentContext}
    {sys next : DeploymentSystem}
    {action : DeploymentAction}

variable
    {before after : DeploymentServer}
    {party : Party}
    {draft : Draft}
    {position : Nat}
    {moved : Party}
    {server : DeploymentServer}

theorem Elsewhere.standing
    {draft other : Draft}
    (elsewhere : Elsewhere draft before after)
    (apart : other.Apart draft) :
    after.standing other = before.standing other :=
  Standing.ext (elsewhere.deployments _ apart.1) (elsewhere.tasks _ apart.2)

theorem Party.Fits.of_standing
    (fits : party.Fits before)
    (same :
      ∀ draft ∈ party.draft, after.standing draft = before.standing draft) :
    party.Fits after := by
  cases isDraft : party.draft with
  | none =>
    have unnamed := fits.unnamed isDraft
    unfold Party.Fits
    rw [isDraft]
    exact unnamed
  | some draft =>
    have expects := fits.expects isDraft
    rw [← same draft isDraft] at expects
    unfold Party.Fits
    rw [isDraft]
    exact expects

theorem Party.Fits.of_stopped
    (fits : party.Fits before)
    (isStopped : party.isStopped = true) :
    party.Fits after := by
  obtain ⟨request, draft, call, run⟩ := party
  obtain ⟨hasEnded, noRun⟩ := Bool.and_eq_true_iff.mp isStopped
  obtain rfl := Option.isNone_iff_eq_none.mp noRun
  cases draft with
  | none =>
    exact fits
  | some own =>
    cases call with
    | returned | raised =>
      trivial
    | refused =>
      exact fits.elim
    | _ =>
      cases hasEnded

theorem Owned.standing_of_unissued
    (owned : Owned sys)
    (unissued : sys.Unissued draft) :
    sys.server.standing draft = draft.standing none none := by
  obtain ⟨newDeployment, newTask, _⟩ := unissued
  apply Standing.ext
  · change sys.server.deployment? draft.deploymentId = none
    by_contra stored
    obtain ⟨⟨status, taskId⟩, found⟩ := Option.ne_none_iff_exists'.mp stored
    exact newDeployment (owned.rowsIssued found).1
  · change sys.server.taskStatus? draft.taskId = none
    by_contra stored
    exact newTask (owned.tasksIssued (Option.isSome_iff_ne_none.mpr stored))

theorem not_partyStep_of_stopped
    (isStopped : party.isStopped = true) :
    sys.partyStep? context position party action = none := by
  obtain ⟨request, draft, call, run⟩ := party
  obtain ⟨hasEnded, noRun⟩ := Bool.and_eq_true_iff.mp isStopped
  obtain rfl := Option.isNone_iff_eq_none.mp noRun
  exact not_partyStep_of_quiet (Bool.and_eq_true_iff.mpr ⟨hasEnded, rfl⟩)

theorem draft?_of_set
    (isParty : sys.parties[position]? = some party)
    (sameParties : next.parties = sys.parties.set position moved)
    (sameDraft : moved.draft = party.draft) :
    next.draft? = sys.draft? := by
  funext wanted
  unfold DeploymentSystem.draft?
  rw [sameParties]
  by_cases same : wanted = position
  · subst same
    rw [List.getElem?_set_self (List.getElem?_eq_some_iff.mp isParty).1,
      isParty]
    exact sameDraft
  · rw [List.getElem?_set_ne (Ne.symm same)]

theorem Owned.of_drafts
    (owned : Owned sys)
    (sameServer : next.server = sys.server)
    (sameIssued : next.issued = sys.issued)
    (draft_before :
      ∀ {position draft},
        next.draft? position = some draft →
        sys.draft? position = some draft)
    (fits :
      ∀ {position : Nat} {party : Party},
        next.parties[position]? = some party → party.Fits next.server)
    (stopped :
      next.phase ≠ .serving →
      ∀ party ∈ next.parties, party.isStopped = true) :
    Owned next := by
  refine ⟨?_, ?_, ?_, ?_, ?_, fits, stopped⟩
  · rw [sameServer, sameIssued]
    exact owned.rowsIssued
  · rw [sameServer, sameIssued]
    exact owned.tasksIssued
  · rw [sameIssued]
    exact fun isDraft => owned.draftsIssued (draft_before isDraft)
  · exact fun isOne isOther =>
      owned.apart (draft_before isOne) (draft_before isOther)
  · rw [sameServer]
    exact fun isDraft => owned.ownTask (draft_before isDraft)

theorem Owned.of_waits
    (owned : Owned sys)
    (isParty : sys.parties[position]? = some party)
    (sameParties : next.parties = sys.parties.set position moved)
    (serving : next.phase = .serving)
    (unnamed : party.draft = none)
    (stillUnnamed : moved.draft = none)
    (fits : moved.call.isUnnamed = true ∧ moved.run = none)
    (sameServer : next.server = sys.server)
    (sameIssued : next.issued = sys.issued) :
    Owned next := by
  refine owned.of_drafts sameServer sameIssued ?_ ?_ ?_
  · rw [draft?_of_set isParty sameParties (stillUnnamed.trans unnamed.symm)]
    exact id
  · intro wanted found isFound
    rw [sameServer]
    rw [sameParties] at isFound
    rcases getElem?_set_cases isFound with ⟨_, rfl⟩ | ⟨_, isOther⟩
    · unfold Party.Fits
      rw [stillUnnamed]
      exact fits
    · exact owned.fits isOther
  · exact fun notServing => (notServing serving).elim

/-- A party that gets new ids is the only one that has them. -/
theorem Owned.of_enters
    (owned : Owned sys)
    (sameParties : next.parties = sys.parties.set position moved)
    (serving : next.phase = .serving)
    (named :
      moved = { party with draft := some draft, call := .resolving draft })
    (noRun : party.run = none)
    (unissued : sys.Unissued draft)
    (sameServer : next.server = sys.server)
    (issued : next.issued = draft.deploymentId :: draft.taskId :: sys.issued) :
    Owned next := by
  have isFresh := owned.standing_of_unissued unissued
  obtain ⟨newDeployment, newTask, _⟩ := unissued
  have draft_cases :
      ∀ {wanted found},
        next.draft? wanted = some found →
        wanted = position ∧ found = draft ∨
          wanted ≠ position ∧ sys.draft? wanted = some found := by
    intro wanted found isDraft
    obtain ⟨other, isOther, ownDraft⟩ := Option.bind_eq_some_iff.mp isDraft
    rw [sameParties] at isOther
    rcases getElem?_set_cases isOther with ⟨same, rfl⟩ | ⟨different, stays⟩
    · rw [named] at ownDraft
      exact .inl ⟨same, (Option.some.inj ownDraft).symm⟩
    · exact
        .inr ⟨different, Option.bind_eq_some_iff.mpr ⟨other, stays, ownDraft⟩⟩
  have stillIssued : ∀ {id}, id ∈ sys.issued → id ∈ next.issued := by
    intro id isIssued
    rw [issued]
    exact .tail _ (.tail _ isIssued)
  have newApart :
      ∀ {wanted taken}, sys.draft? wanted = some taken → draft.Apart taken := by
    intro wanted taken isDraft
    obtain ⟨deploymentIssued, taskIssued⟩ := owned.draftsIssued isDraft
    exact
      ⟨fun same => newDeployment (same ▸ deploymentIssued),
        fun same => newTask (same ▸ taskIssued)⟩
  constructor
  · intro id status taskId stored
    rw [sameServer] at stored
    obtain ⟨isIssued, taskIssued⟩ := owned.rowsIssued stored
    exact
      ⟨stillIssued isIssued,
        fun task isTask => stillIssued (taskIssued task isTask)⟩
  · intro id stored
    rw [sameServer] at stored
    exact stillIssued (owned.tasksIssued stored)
  · intro wanted found isDraft
    rcases draft_cases isDraft with ⟨_, rfl⟩ | ⟨_, stays⟩
    · rw [issued]
      exact ⟨.head _, .tail _ (.head _)⟩
    · obtain ⟨deploymentIssued, taskIssued⟩ := owned.draftsIssued stays
      exact ⟨stillIssued deploymentIssued, stillIssued taskIssued⟩
  · intro first second one other isOne isOther different
    rcases draft_cases isOne with ⟨isFirst, rfl⟩ | ⟨_, oneStays⟩
    · rcases draft_cases isOther with ⟨isSecond, _⟩ | ⟨_, otherStays⟩
      · exact (different (isFirst.trans isSecond.symm)).elim
      · exact newApart otherStays
    · rcases draft_cases isOther with ⟨_, rfl⟩ | ⟨_, otherStays⟩
      · obtain ⟨deployments, tasks⟩ := newApart oneStays
        exact ⟨deployments.symm, tasks.symm⟩
      · exact owned.apart oneStays otherStays different
  · intro wanted found id status isDraft stored
    rw [sameServer] at stored
    rcases draft_cases isDraft with ⟨_, rfl⟩ | ⟨_, stays⟩
    · exact (newTask ((owned.rowsIssued stored).2 _ rfl)).elim
    · exact owned.ownTask stays stored
  · intro wanted found isFound
    rw [sameServer]
    rw [sameParties] at isFound
    rcases getElem?_set_cases isFound with ⟨_, rfl⟩ | ⟨_, isOther⟩
    · subst named
      unfold Party.Fits Party.Expects
      rw [noRun]
      exact ⟨rfl, isFresh⟩
    · exact owned.fits isOther
  · exact fun notServing => (notServing serving).elim

/-- A party that goes on with its own deployment keeps what is owned. -/
theorem Owned.of_advances
    (owned : Owned sys)
    (isParty : sys.parties[position]? = some party)
    (sameParties : next.parties = sys.parties.set position moved)
    (serving : next.phase = .serving)
    (isDraft : party.draft = some draft)
    (advances : Advances draft sys.server party next.server moved)
    (sameIssued : next.issued = sys.issued) :
    Owned next := by
  have sameDrafts : next.draft? = sys.draft? :=
    draft?_of_set isParty sameParties (advances.ownDraft.trans isDraft.symm)
  have atPosition : sys.draft? position = some draft :=
    Option.bind_eq_some_iff.mpr ⟨party, isParty, isDraft⟩
  obtain ⟨deploymentIssued, taskIssued⟩ := owned.draftsIssued atPosition
  -- A row is as it was, or it is the draft's own, under the draft's task.
  have row_cases :
      ∀ {id status taskId},
        next.server.deployment? id = some (status, taskId) →
        sys.server.deployment? id = some (status, taskId) ∨
          id = draft.deploymentId ∧ taskId = some draft.taskId := by
    intro id status taskId stored
    by_cases own : id = draft.deploymentId
    · subst own
      rcases advances.written with same | ⟨deployment, task, isStanding⟩
      · have sameRow := congrArg Standing.deployment same
        exact .inl (sameRow.symm.trans stored)
      · have row := congrArg Standing.deployment isStanding
        have isRow :
            (deployment.map fun status => (status, some draft.taskId)) =
              some (status, taskId) :=
          row.symm.trans stored
        obtain ⟨_, _, isPair⟩ := Option.map_eq_some_iff.mp isRow
        exact .inr ⟨rfl, (congrArg Prod.snd isPair).symm⟩
    · rw [advances.elsewhere.deployments id own] at stored
      exact .inl stored
  constructor
  · intro id status taskId stored
    rw [sameIssued]
    rcases row_cases stored with before | ⟨rfl, rfl⟩
    · exact owned.rowsIssued before
    · exact
        ⟨deploymentIssued, fun task isTask =>
          Option.some.inj isTask ▸ taskIssued⟩
  · intro id stored
    rw [sameIssued]
    by_cases own : id = draft.taskId
    · exact own ▸ taskIssued
    · rw [advances.elsewhere.tasks id own] at stored
      exact owned.tasksIssued stored
  · rw [sameDrafts, sameIssued]
    exact owned.draftsIssued
  · rw [sameDrafts]
    exact owned.apart
  · rw [sameDrafts]
    intro wanted found id status isFound stored
    rcases row_cases stored with before | ⟨rfl, sameTask⟩
    · exact owned.ownTask isFound before
    · by_cases same : wanted = position
      · subst same
        rw [atPosition] at isFound
        exact congrArg Draft.deploymentId (Option.some.inj isFound)
      · exact
          ((owned.apart isFound atPosition same).2
            (Option.some.inj sameTask)).elim
  · intro wanted found isFound
    rw [sameParties] at isFound
    rcases getElem?_set_cases isFound with ⟨_, rfl⟩ | ⟨different, isOther⟩
    · unfold Party.Fits
      rw [advances.ownDraft]
      exact advances.expects
    · refine (owned.fits isOther).of_standing ?_
      intro other isOwn
      have atWanted : sys.draft? wanted = some other :=
        Option.bind_eq_some_iff.mpr ⟨found, isOther, isOwn⟩
      exact
        advances.elsewhere.standing (owned.apart atWanted atPosition different)
  · exact fun notServing => (notServing serving).elim

theorem Owned.of_moves
    (owned : Owned sys)
    (isParty : sys.parties[position]? = some party)
    (sameParties : next.parties = sys.parties.set position moved)
    (serving : next.phase = .serving)
    (moves : Moves sys party action next moved) :
    Owned next := by
  cases moves with
  | waits unnamed stillUnnamed fits sameServer sameIssued =>
    exact
      owned.of_waits isParty sameParties serving unnamed stillUnnamed fits
        sameServer sameIssued
  | enters draft _ _ named noRun _ unissued sameServer issued =>
    exact
      owned.of_enters sameParties serving named noRun unissued sameServer issued
  | advances draft isDraft advances sameIssued =>
    exact
      owned.of_advances isParty sameParties serving isDraft advances sameIssued

theorem Owned.of_givesUp
    (owned : Owned sys)
    (allStopped : ∀ party ∈ sys.parties, party.isStopped = true)
    (givesUp : GivesUp sys.server next.server)
    (sameIssued : next.issued = sys.issued)
    (sameParties : next.parties = sys.parties) :
    Owned next := by
  have sameDrafts : next.draft? = sys.draft? := by
    unfold DeploymentSystem.draft?
    rw [sameParties]
  have row_before :
      ∀ {id status taskId},
        next.server.deployment? id = some (status, taskId) →
        ∃ old, sys.server.deployment? id = some (old, taskId) := by
    intro id status taskId stored
    rcases givesUp.deployments id with same | ⟨old, ownTask, before, after⟩
    · exact ⟨status, same.symm.trans stored⟩
    · obtain ⟨_, rfl⟩ := Prod.mk.inj (Option.some.inj (after.symm.trans stored))
      exact ⟨old, before⟩
  constructor
  · intro id status taskId stored
    rw [sameIssued]
    obtain ⟨_, before⟩ := row_before stored
    exact owned.rowsIssued before
  · intro id stored
    rw [sameIssued]
    rw [givesUp.tasks] at stored
    exact owned.tasksIssued stored
  · rw [sameDrafts, sameIssued]
    exact owned.draftsIssued
  · rw [sameDrafts]
    exact owned.apart
  · rw [sameDrafts]
    intro position draft id status isDraft stored
    obtain ⟨_, before⟩ := row_before stored
    exact owned.ownTask isDraft before
  · rw [sameParties]
    intro position party isParty
    exact
      (owned.fits isParty).of_stopped
        (allStopped party (List.mem_of_getElem? isParty))
  · rw [sameParties]
    exact fun _ => allStopped

theorem Party.Fits.crashed
    (fits : party.Fits server) :
    party.crashed.Fits server := by
  obtain ⟨request, draft, call, run⟩ := party
  unfold Party.crashed Party.Fits
  cases draft with
  | none =>
    obtain ⟨isUnnamed, _⟩ := fits.unnamed rfl
    dsimp only
    split
    · exact ⟨isUnnamed, rfl⟩
    · exact ⟨rfl, rfl⟩
  | some own =>
    dsimp only [Party.Expects]
    cases call with
    | returned | raised =>
      trivial
    | refused active =>
      have noDraft := (fits.noDraft (.inr (.inr ⟨active, rfl⟩))).1
      cases noDraft
    | _ =>
      trivial

theorem isStopped_crashed (party : Party) :
    party.crashed.isStopped = true := by
  obtain ⟨request, draft, call, run⟩ := party
  cases call <;> rfl

theorem draft?_of_crash
    (crashed : next.parties = sys.parties.map Party.crashed) :
    next.draft? = sys.draft? := by
  funext position
  unfold DeploymentSystem.draft?
  rw [crashed, List.getElem?_map]
  cases sys.parties[position]? <;> rfl

theorem Owned.of_crash
    (owned : Owned sys)
    (sameServer : next.server = sys.server)
    (sameIssued : next.issued = sys.issued)
    (crashed : next.parties = sys.parties.map Party.crashed) :
    Owned next := by
  refine owned.of_drafts sameServer sameIssued ?_ ?_ ?_
  · rw [draft?_of_crash crashed]
    exact id
  · intro position found isFound
    rw [crashed, List.getElem?_map] at isFound
    obtain ⟨party, isParty, rfl⟩ := Option.map_eq_some_iff.mp isFound
    rw [sameServer]
    exact (owned.fits isParty).crashed
  · intro _ found member
    rw [crashed] at member
    obtain ⟨party, _, rfl⟩ := List.mem_map.mp member
    exact isStopped_crashed party

theorem Owned.of_request
    {request : PrepareRequest}
    (owned : Owned sys)
    (serving : next.phase = .serving)
    (sameServer : next.server = sys.server)
    (sameIssued : next.issued = sys.issued)
    (added : next.parties = sys.parties ++ [({ request } : Party)]) :
    Owned next := by
  refine owned.of_drafts sameServer sameIssued ?_ ?_ ?_
  · intro position draft isDraft
    obtain ⟨party, isParty, ownDraft⟩ := Option.bind_eq_some_iff.mp isDraft
    rw [added] at isParty
    rcases getElem?_append_cases isParty with rfl | before
    · cases ownDraft
    · exact Option.bind_eq_some_iff.mpr ⟨party, before, ownDraft⟩
  · intro position found isFound
    rw [sameServer]
    rw [added] at isFound
    rcases getElem?_append_cases isFound with rfl | before
    · exact ⟨rfl, rfl⟩
    · exact owned.fits before
  · exact fun notServing => (notServing serving).elim

/-- What a step of the system is. -/
inductive SystemStep
    (context : DeploymentContext)
    (sys : DeploymentSystem)
    (action : DeploymentAction)
    (next : DeploymentSystem) : Prop where
  | moves
      (position : Nat)
      (party moved : Party)
      (isPosition : action.party? = some position)
      (isParty : sys.parties[position]? = some party)
      (stepped : sys.partyStep? context position party action = some next)
      (sameParties : next.parties = sys.parties.set position moved)
      (serving : sys.phase = .serving)
      (stillServing : next.phase = .serving)
      (moves : Moves sys party action next moved)
  | recovers
      (now : Int)
      (isRecover : action = .recover now)
      (notServing : sys.phase ≠ .serving)
      (recovers : next = sys.recoverStep now)
  | restarts
      (isRestart : action = .restart)
      (isDown : sys.phase = .down)
      (restarts :
        next = { sys with phase := .recovering sys.activeDeployments none })
  | requests
      (request : PrepareRequest)
      (serving : sys.phase = .serving)
      (requests : next = { sys with parties := sys.parties ++ [{ request }] })
  | crashes
      (isCrash : action = .crash)
      (crashes : next =
          { sys with
            phase := .down
            lock := none
            parties := sys.parties.map Party.crashed })

theorem systemStep_of_step
    (owned : Owned sys)
    (stepped : sys.step? context action = some next) :
    SystemStep context sys action next := by
  unfold DeploymentSystem.step? at stepped
  split at stepped
  · rename_i position isPosition
    obtain ⟨party, isParty, isStep⟩ := Option.bind_eq_some_iff.mp stepped
    obtain ⟨moved, sameParties, samePhase, moves⟩ :=
      moves_of_partyStep (owned.fits isParty) isStep
    have serving : sys.phase = .serving := by
      by_contra notServing
      have isStopped :=
        owned.stopped notServing party (List.mem_of_getElem? isParty)
      rw [not_partyStep_of_stopped isStopped] at isStep
      cases isStep
    exact
      .moves position party moved isPosition isParty isStep sameParties
        serving (samePhase.trans serving) moves
  · split at stepped
    · rename_i isDown _
      cases stepped
      exact .restarts rfl isDown rfl
    · rename_i now rest linking isRecovering _
      cases stepped
      refine .recovers now rfl ?_ rfl
      rw [isRecovering]
      exact nofun
    · rename_i request isServing _
      cases stepped
      exact .requests request isServing rfl
    · cases stepped
      exact .crashes rfl rfl
    · cases stepped

theorem Owned.step
    (owned : Owned sys)
    (stepped : sys.step? context action = some next) :
    Owned next := by
  cases systemStep_of_step owned stepped with
  | moves position party moved _ isParty _ sameParties _ serving moves =>
    exact owned.of_moves isParty sameParties serving moves
  | recovers now _ notServing recovers =>
    obtain ⟨givesUp, sameIssued, sameParties⟩ :=
      givesUp_recoverStep sys now
    subst recovers
    exact
      owned.of_givesUp (owned.stopped notServing) givesUp sameIssued sameParties
  | restarts _ isDown restarts =>
    subst restarts
    have allStopped := owned.stopped (by rw [isDown]; exact nofun)
    exact owned.of_givesUp allStopped (givesUp_of_same rfl rfl) rfl rfl
  | requests request serving requests =>
    subst requests
    exact owned.of_request serving rfl rfl rfl
  | crashes _ crashes =>
    subst crashes
    exact owned.of_crash rfl rfl rfl

theorem not_draft?_stopped
    {issued : List String}
    {draft : Draft} :
    (DeploymentSystem.stopped server issued).draft? position ≠ some draft :=
  (Option.some_ne_none draft).symm

theorem owned_stopped
    {issued : List String}
    (idsIssued : DeploymentSystem.IdsIssued server issued) :
    Owned (DeploymentSystem.stopped server issued) where
  rowsIssued := fun stored => by
    obtain ⟨row, found, isRow⟩ := Option.map_eq_some_iff.mp stored
    obtain ⟨member, rfl⟩ := (KeyedTable.find?_eq_some_iff _).mp found
    obtain ⟨_, rfl⟩ := Prod.mk.inj isRow
    exact
      ⟨idsIssued.deployments row member, idsIssued.deploymentTasks row member⟩
  tasksIssued := fun stored => by
    obtain ⟨status, found⟩ := Option.isSome_iff_exists.mp stored
    obtain ⟨row, isRow, _⟩ := Option.map_eq_some_iff.mp found
    obtain ⟨member, rfl⟩ := (KeyedTable.find?_eq_some_iff _).mp isRow
    exact idsIssued.tasks row member
  draftsIssued := fun isDraft => (not_draft?_stopped isDraft).elim
  apart := fun isDraft => (not_draft?_stopped isDraft).elim
  ownTask := fun isDraft => (not_draft?_stopped isDraft).elim
  fits := fun isParty => (Option.some_ne_none _ isParty.symm).elim
  stopped := fun _ _ member => (List.not_mem_nil member).elim

end Invariant

end RpaPlatform.Deploy
