import RpaPlatform.DeploymentOwnership

namespace RpaPlatform.Deploy

open Agents (DeploymentRecord DeploymentStatus asciiTextLibrary)
open Transition

/-!
# A single active deployment

`prepare_deployment` looks for an active deployment under a lock, and inserts
its own row only after the release has been selected and the connection has
been provisioned.  Between the two a call holds the right to be active without
a row that shows it.
-/

def SingleActive (server : DeploymentServer) : Prop :=
  (server.registry.deployments.rows.filter DeploymentRecord.isActive).length ≤ 1

instance (server : DeploymentServer) : Decidable (SingleActive server) :=
  inferInstanceAs (Decidable (_ ≤ _))

/-- A step by a call that is refused in the end. -/
def IsRefused
    (final : DeploymentSystem)
    (action : DeploymentAction) : Prop :=
  ∃ position party active,
    action.party? = some position ∧
      final.parties[position]? = some party ∧
      party.call = .refused active

/-- A call that is refused changes no row of the two databases. -/
def RefusalsKeepRows
    (context : DeploymentContext)
    (initial final : DeploymentSystem)
    (actions : List DeploymentAction) : Prop :=
  ∀ earlier action later before after,
    actions = earlier ++ action :: later →
    Run (Fires (DeploymentSystem.step? context)) initial earlier before →
    before.step? context action = some after →
    Run (Fires (DeploymentSystem.step? context)) after later final →
    IsRefused final action →
    after.server = before.server

/-- A call finds no active deployment only if no other one is in the gap. -/
def EntersAlone (sys : DeploymentSystem) : DeploymentAction → Prop
  | .check _ _ =>
    sys.server.registry.deployments.getActiveDeployment = none →
    ∀ party ∈ sys.parties, party.inGap = false
  | _ => True

instance (sys : DeploymentSystem) (action : DeploymentAction) :
    Decidable (EntersAlone sys action) :=
  match action with
  | .check _ _ =>
    inferInstanceAs
      (Decidable
        (sys.server.registry.deployments.getActiveDeployment = none →
          ∀ party ∈ sys.parties, party.inGap = false))
  | .restart => isTrue trivial
  | .recover _ => isTrue trivial
  | .request _ => isTrue trivial
  | .acquire _ => isTrue trivial
  | .resolve _ _ _ _ => isTrue trivial
  | .proceed _ _ => isTrue trivial
  | .fail _ => isTrue trivial
  | .download _ _ => isTrue trivial
  | .proceedRun _ _ => isTrue trivial
  | .failRun _ _ _ => isTrue trivial
  | .crash => isTrue trivial

/-! ### Refused calls -/

section Refusals

variable
    {context : DeploymentContext}
    {sys next : DeploymentSystem}
    {action : DeploymentAction}

theorem draft?_kept
    (owned : Owned sys)
    (stepped : sys.step? context action = some next)
    {position : Nat}
    {draft : Draft}
    (isDraft : sys.draft? position = some draft) :
    next.draft? position = some draft := by
  cases systemStep_of_step owned stepped with
  | moves wanted party moved _ isParty _ sameParties _ _ moves =>
    cases moves with
    | waits unnamed stillUnnamed =>
      rw [draft?_of_set isParty sameParties (stillUnnamed.trans unnamed.symm)]
      exact isDraft
    | enters _ _ unnamed =>
      obtain ⟨found, isFound, ownDraft⟩ :=
        Option.bind_eq_some_iff.mp isDraft
      have different : wanted ≠ position := by
        rintro rfl
        rw [isParty] at isFound
        cases isFound
        rw [unnamed] at ownDraft
        cases ownDraft
      unfold DeploymentSystem.draft?
      rw [sameParties, List.getElem?_set_ne different]
      exact isDraft
    | advances _ ownDraft advances =>
      rw [draft?_of_set isParty sameParties
        (advances.ownDraft.trans ownDraft.symm)]
      exact isDraft
  | recovers now _ _ recovers =>
    subst recovers
    unfold DeploymentSystem.draft?
    rw [(givesUp_recoverStep sys now).2.2]
    exact isDraft
  | restarts _ _ restarts =>
    subst restarts
    exact isDraft
  | requests request _ requests =>
    subst requests
    obtain ⟨found, isFound, ownDraft⟩ :=
      Option.bind_eq_some_iff.mp isDraft
    obtain ⟨inRange, _⟩ := List.getElem?_eq_some_iff.mp isFound
    unfold DeploymentSystem.draft?
    rw [List.getElem?_append_left inRange]
    exact isDraft
  | crashes _ crashes =>
    subst crashes
    rw [draft?_of_crash rfl]
    exact isDraft

theorem sameServer_of_unnamed
    (owned : Owned sys)
    (stepped : sys.step? context action = some next)
    {position : Nat}
    (isPosition : action.party? = some position)
    (unnamed : next.draft? position = none) :
    next.server = sys.server := by
  cases systemStep_of_step owned stepped with
  | moves wanted party moved isWanted isParty _ sameParties _ _ moves =>
    cases moves with
    | waits _ _ _ sameServer =>
      exact sameServer
    | enters _ _ _ _ _ _ _ sameServer =>
      exact sameServer
    | advances draft ownDraft advances =>
      obtain rfl := Option.some.inj (isPosition.symm.trans isWanted)
      rw [draft?_of_set isParty sameParties
        (advances.ownDraft.trans ownDraft.symm)] at unnamed
      have isDraft : sys.draft? position = some draft :=
        Option.bind_eq_some_iff.mpr ⟨party, isParty, ownDraft⟩
      rw [isDraft] at unnamed
      cases unnamed
  | recovers now isRecover | restarts isRestart | crashes isCrash =>
    subst action
    cases isPosition
  | requests request serving requests =>
    subst requests
    rfl

theorem refusalsKeepRows_of_owned
    {initial final : DeploymentSystem}
    (start : Owned initial)
    (actions : List DeploymentAction) :
    RefusalsKeepRows context initial final actions := by
  intro earlier action later before after _ leading stepped trailing
    ⟨position, party, active, isPosition, isParty, isRefused⟩
  have ownedBefore : Owned before :=
    leading.preserves (fun _ _ _ stepped owned => owned.step stepped) start
  have ownedAfter : Owned after := ownedBefore.step stepped
  have stepPreserves :
      ∀ sys action next,
        Fires (DeploymentSystem.step? context) sys action next →
        (Owned sys ∧
          ∀ draft, after.draft? position = some draft →
            sys.draft? position = some draft) →
        Owned next ∧
          ∀ draft, after.draft? position = some draft →
            next.draft? position = some draft :=
    fun _ _ _ stepped ⟨owned, kept⟩ =>
      ⟨owned.step stepped, fun draft isDraft =>
        draft?_kept owned stepped (kept draft isDraft)⟩
  obtain ⟨ownedFinal, kept⟩ :=
    trailing.preserves stepPreserves ⟨ownedAfter, fun _ isDraft => isDraft⟩
  have unnamed : after.draft? position = none := by
    by_contra named
    obtain ⟨draft, isDraft⟩ := Option.ne_none_iff_exists'.mp named
    obtain ⟨found, isFound, ownDraft⟩ :=
      Option.bind_eq_some_iff.mp (kept draft isDraft)
    rw [isParty] at isFound
    cases isFound
    have noDraft :=
      ((ownedFinal.fits isParty).noDraft (.inr (.inr ⟨active, isRefused⟩))).1
    rw [noDraft] at ownDraft
    cases ownDraft
  exact sameServer_of_unnamed ownedBefore stepped isPosition unnamed

end Refusals

/-! ### The right to be active -/

/-- Whether the deployment with an id is under way. -/
def DeploymentServer.isActiveAt
    (server : DeploymentServer)
    (id : String) : Bool :=
  (server.deployment? id).any fun stored => isActiveStatus stored.1

theorem isActiveAt_iff {server : DeploymentServer} {id : String} :
    server.isActiveAt id = true ↔
      ∃ row ∈ server.registry.deployments.rows,
        row.isActive = true ∧ row.id = id := by
  unfold DeploymentServer.isActiveAt DeploymentServer.deployment?
  rw [Option.any_map, Option.any_eq_true]
  constructor
  · rintro ⟨row, found, isActive⟩
    obtain ⟨member, named⟩ := (KeyedTable.find?_eq_some_iff _).mp found
    exact ⟨row, member, isActive, named⟩
  · rintro ⟨row, member, isActive, named⟩
    exact ⟨row, (KeyedTable.find?_eq_some_iff _).mpr ⟨member, named⟩, isActive⟩

theorem length_le_one_iff
    {Row : Type}
    {rows : List Row}
    (nodup : rows.Nodup) :
    rows.length ≤ 1 ↔ ∀ first ∈ rows, ∀ second ∈ rows, first = second := by
  match rows, nodup with
  | [], _ =>
    simp
  | [row], _ =>
    simp
  | first :: second :: rest, nodup =>
    have different : first ≠ second := by
      rintro rfl
      exact (List.nodup_cons.mp nodup).1 List.mem_cons_self
    constructor
    · intro short
      simp at short
    · intro same
      exact (different (same _ (.head _) _ (.tail _ (.head _)))).elim

theorem singleActive_iff {server : DeploymentServer} :
    SingleActive server ↔
      ∀ id other, server.isActiveAt id = true →
        server.isActiveAt other = true → id = other := by
  have distinct := server.registry.deployments.distinct
  have nodup := distinct.of_map.filter DeploymentRecord.isActive
  refine (length_le_one_iff nodup).trans ?_
  constructor
  · intro same id other isActive otherActive
    obtain ⟨first, firstMember, firstActive, rfl⟩ :=
      isActiveAt_iff.mp isActive
    obtain ⟨second, secondMember, secondActive, rfl⟩ :=
      isActiveAt_iff.mp otherActive
    exact
      congrArg DeploymentRecord.key
        (same first (List.mem_filter.mpr ⟨firstMember, firstActive⟩)
          second (List.mem_filter.mpr ⟨secondMember, secondActive⟩))
  · intro same first isFirst second isSecond
    obtain ⟨firstMember, firstActive⟩ := List.mem_filter.mp isFirst
    obtain ⟨secondMember, secondActive⟩ := List.mem_filter.mp isSecond
    exact
      server.registry.deployments.eq_of_key firstMember secondMember
        (same _ _ (isActiveAt_iff.mpr ⟨first, firstMember, firstActive, rfl⟩)
          (isActiveAt_iff.mpr ⟨second, secondMember, secondActive, rfl⟩))

theorem not_isActiveAt_of_free
    {server : DeploymentServer}
    (free : server.registry.deployments.getActiveDeployment = none)
    (id : String) :
    ¬ server.isActiveAt id = true := by
  intro isActive
  obtain ⟨row, member, rowActive, _⟩ := isActiveAt_iff.mp isActive
  have sorted :=
    (List.mem_insertionSort
      (fun first second : DeploymentRecord =>
        first.createdAt ≤ second.createdAt)).mpr
      (List.mem_filter.mpr ⟨member, rowActive⟩)
  rw [List.head?_eq_none_iff.mp free] at sorted
  cases sorted

/--
The right to be active is with one row at most, or with one call at most that
is on its way to its row.
-/
structure RightHeld (sys : DeploymentSystem) : Prop where
  active :
    ∀ {id other},
      sys.server.isActiveAt id = true →
      sys.server.isActiveAt other = true → id = other
  gap :
    ∀ {position other : Nat} {party rival : Party},
      sys.parties[position]? = some party → party.inGap = true →
      sys.parties[other]? = some rival → rival.inGap = true →
      position = other
  free :
    ∀ {position : Nat} {party : Party} {id},
      sys.parties[position]? = some party → party.inGap = true →
      ¬ sys.server.isActiveAt id = true

section Right

variable
    {context : DeploymentContext}
    {sys next : DeploymentSystem}
    {action : DeploymentAction}

theorem RightHeld.of_fewer
    (held : RightHeld sys)
    (fewerActive :
      ∀ id, next.server.isActiveAt id = true → sys.server.isActiveAt id = true)
    (fewerInGap :
      ∀ {position : Nat} {party : Party},
        next.parties[position]? = some party → party.inGap = true →
        ∃ before, sys.parties[position]? = some before ∧ before.inGap = true) :
    RightHeld next := by
  constructor
  · intro id other isActive otherActive
    exact held.active (fewerActive id isActive) (fewerActive other otherActive)
  · intro position other party rival isParty inGap isRival alsoInGap
    obtain ⟨before, isBefore, wasInGap⟩ := fewerInGap isParty inGap
    obtain ⟨earlier, isEarlier, wasAlso⟩ := fewerInGap isRival alsoInGap
    exact held.gap isBefore wasInGap isEarlier wasAlso
  · intro position party id isParty inGap isActive
    obtain ⟨before, isBefore, wasInGap⟩ := fewerInGap isParty inGap
    exact held.free isBefore wasInGap (fewerActive id isActive)

theorem RightHeld.of_enters
    {position : Nat}
    {moved : Party}
    (free : sys.server.registry.deployments.getActiveDeployment = none)
    (alone : ∀ party ∈ sys.parties, party.inGap = false)
    (sameServer : next.server = sys.server)
    (sameParties : next.parties = sys.parties.set position moved) :
    RightHeld next := by
  have onlyMoved :
      ∀ {wanted : Nat} {found : Party},
        next.parties[wanted]? = some found → found.inGap = true →
        wanted = position := by
    intro wanted found isFound inGap
    rw [sameParties] at isFound
    rcases getElem?_set_cases isFound with ⟨same, _⟩ | ⟨_, isOther⟩
    · exact same
    · rw [alone found (List.mem_of_getElem? isOther)] at inGap
      cases inGap
  have notActive : ∀ id, ¬ next.server.isActiveAt id = true := by
    rw [sameServer]
    exact not_isActiveAt_of_free free
  constructor
  · exact fun isActive => (notActive _ isActive).elim
  · intro first second one other isOne inGap isOther alsoInGap
    exact (onlyMoved isOne inGap).trans (onlyMoved isOther alsoInGap).symm
  · exact fun _ _ => notActive _

/-- A call keeps the right, gives it to its row, or gives it up. -/
theorem RightHeld.of_advances
    {position : Nat}
    {party moved : Party}
    {draft : Draft}
    (held : RightHeld sys)
    (isParty : sys.parties[position]? = some party)
    (sameParties : next.parties = sys.parties.set position moved)
    (advances : Advances draft sys.server party next.server moved) :
    RightHeld next := by
  have elsewhere :
      ∀ {id}, id ≠ draft.deploymentId →
        next.server.isActiveAt id = true →
        sys.server.isActiveAt id = true := by
    intro id other isActive
    unfold DeploymentServer.isActiveAt at isActive ⊢
    rwa [advances.elsewhere.deployments id other] at isActive
  by_cases inserts : party.inGap = true ∧ moved.inGap = false
  · -- Its row may be the active one now, for the call had the right.
    obtain ⟨wasInGap, notInGap⟩ := inserts
    have noneInGap :
        ∀ {wanted : Nat} {found : Party},
          next.parties[wanted]? = some found → ¬ found.inGap = true := by
      intro wanted found isFound inGap
      rw [sameParties] at isFound
      rcases getElem?_set_cases isFound with ⟨_, rfl⟩ | ⟨different, isOther⟩
      · rw [notInGap] at inGap
        cases inGap
      · exact different (held.gap isOther inGap isParty wasInGap)
    have onlyOwn :
        ∀ {id}, next.server.isActiveAt id = true → id = draft.deploymentId := by
      intro id isActive
      by_contra other
      exact held.free isParty wasInGap (elsewhere other isActive)
    constructor
    · exact fun isActive otherActive =>
        (onlyOwn isActive).trans (onlyOwn otherActive).symm
    · exact fun isFound inGap => (noneInGap isFound inGap).elim
    · exact fun isFound inGap => (noneInGap isFound inGap).elim
  · apply held.of_fewer
    · intro id isActive
      by_cases own : id = draft.deploymentId
      · subst own
        rcases advances.activates isActive with before | now
        · exact before
        · exact (inserts now).elim
      · exact elsewhere own isActive
    · intro wanted found isFound inGap
      rw [sameParties] at isFound
      rcases getElem?_set_cases isFound with ⟨rfl, rfl⟩ | ⟨_, isOther⟩
      · exact ⟨party, isParty, advances.gap inGap⟩
      · exact ⟨found, isOther, inGap⟩

theorem GivesUp.isActiveAt
    {before after : DeploymentServer}
    (givesUp : GivesUp before after)
    {id : String}
    (isActive : after.isActiveAt id = true) :
    before.isActiveAt id = true := by
  unfold DeploymentServer.isActiveAt at isActive ⊢
  rcases givesUp.deployments id with same | ⟨old, taskId, _, isFailed⟩
  · rwa [same] at isActive
  · rw [isFailed] at isActive
    cases isActive

theorem inGap_crashed (party : Party) : party.crashed.inGap = false := by
  obtain ⟨request, draft, call, run⟩ := party
  cases call <;> rfl

theorem not_inGap_of_unnamed
    {party : Party}
    (isUnnamed : party.call.isUnnamed = true) :
    party.inGap = false := by
  obtain ⟨request, draft, call, run⟩ := party
  cases call with
  | waiting | checking | refused | raised =>
    rfl
  | _ =>
    cases isUnnamed

/-- The right is held in every run whose calls enter the gap alone. -/
theorem RightHeld.step
    (owned : Owned sys)
    (held : RightHeld sys)
    (stepped : sys.step? context action = some next)
    (alone : EntersAlone sys action) :
    RightHeld next := by
  cases systemStep_of_step owned stepped with
  | moves position party moved _ isParty _ sameParties _ _ moves =>
    cases moves with
    | waits _ _ fits sameServer =>
      have notInGap := not_inGap_of_unnamed fits.1
      apply held.of_fewer
      · rw [sameServer]
        exact fun _ isActive => isActive
      · intro wanted found isFound inGap
        rw [sameParties] at isFound
        rcases getElem?_set_cases isFound with ⟨_, rfl⟩ | ⟨_, isOther⟩
        · rw [notInGap] at inGap
          cases inGap
        · exact ⟨found, isOther, inGap⟩
    | enters draft isCheck _ _ _ free _ sameServer =>
      obtain ⟨_, rfl⟩ := isCheck
      exact .of_enters free (alone free) sameServer sameParties
    | advances draft _ advances =>
      exact held.of_advances isParty sameParties advances
  | recovers now _ _ recovers =>
    subst recovers
    obtain ⟨givesUp, _, sameParties⟩ := givesUp_recoverStep sys now
    apply held.of_fewer
    · exact fun _ => givesUp.isActiveAt
    · rw [sameParties]
      exact fun isFound inGap => ⟨_, isFound, inGap⟩
  | restarts _ _ restarts =>
    subst restarts
    exact
      held.of_fewer (fun _ isActive => isActive) fun isFound inGap =>
        ⟨_, isFound, inGap⟩
  | requests request _ requests =>
    subst requests
    refine held.of_fewer (fun _ isActive => isActive) ?_
    intro wanted found isFound inGap
    rcases getElem?_append_cases isFound with rfl | isOther
    · cases inGap
    · exact ⟨found, isOther, inGap⟩
  | crashes _ crashes =>
    subst crashes
    refine held.of_fewer (fun _ isActive => isActive) ?_
    intro wanted found isFound inGap
    obtain ⟨party, _, rfl⟩ :=
      List.mem_map.mp (List.mem_of_getElem? isFound)
    rw [inGap_crashed] at inGap
    cases inGap

end Right

/-- The single deployment that the check under the lock is meant to give. -/
def SingleDeployment (context : DeploymentContext) : Prop :=
  ∀ server issued actions final,
    DeploymentSystem.IdsIssued server issued →
    SingleActive server →
    Run (Fires (DeploymentSystem.step? context))
      (DeploymentSystem.stopped server issued) actions final →
    SingleActive final.server ∧
      RefusalsKeepRows context
        (DeploymentSystem.stopped server issued) final actions

/--
In every run in which a call finds no active deployment only when no other
call is between its check and its row, at most one deployment is active at
any moment, and a call that is refused changes no row.
-/
theorem singleDeployment_of_entersAlone
    (context : DeploymentContext)
    {server : DeploymentServer}
    {issued : List String}
    (idsIssued : DeploymentSystem.IdsIssued server issued)
    (singleActive : SingleActive server)
    {actions : List DeploymentAction}
    {final : DeploymentSystem}
    (run :
      Run
        (Guarded (Fires (DeploymentSystem.step? context)) EntersAlone)
        (DeploymentSystem.stopped server issued) actions final) :
    SingleActive final.server ∧
      RefusalsKeepRows context
        (DeploymentSystem.stopped server issued) final actions := by
  have start := owned_stopped idsIssued
  have held : RightHeld (DeploymentSystem.stopped server issued) := by
    constructor
    · exact singleActive_iff.mp singleActive _ _
    · exact fun isParty => (Option.some_ne_none _ isParty.symm).elim
    · exact fun isParty => (Option.some_ne_none _ isParty.symm).elim
  have stepPreserves :
      ∀ sys action next,
        Guarded (Fires (DeploymentSystem.step? context)) EntersAlone sys
          action next →
        Owned sys ∧ RightHeld sys →
        Owned next ∧ RightHeld next :=
    fun _ _ _ ⟨stepped, alone⟩ ⟨owned, held⟩ =>
      ⟨owned.step stepped, held.step owned stepped alone⟩
  obtain ⟨_, heldInTheEnd⟩ := run.preserves stepPreserves ⟨start, held⟩
  exact
    ⟨singleActive_iff.mpr fun _ _ => heldInTheEnd.active,
      refusalsKeepRows_of_owned start actions⟩

/-! ### Two requests -/

/-- The statements of a call from the selected release to its row. -/
def storing (position : Nat) : List DeploymentAction :=
  [.resolve position firstRelease [] [], .proceed position 1000,
    .proceed position 1000, .proceed position 1000, .proceed position 1000]

def twoRequests : List DeploymentAction :=
  [.restart, .recover 1000, .request (requestFor "vm-01"),
    .request (requestFor "vm-02")]

/-- The second request is refused, as the first one has its row. -/
def oneAfterTheOther : List DeploymentAction :=
  twoRequests ++
    [.acquire 0, .check 0 (namedDraft "dep-1" isHex_first)] ++
    storing 0 ++
    [.acquire 1, .check 1 (namedDraft "dep-2" (by decide))]

/-- The second request passes the check before the first one has its row. -/
def oneBesideTheOther : List DeploymentAction :=
  twoRequests ++
    [.acquire 0, .check 0 (namedDraft "dep-1" isHex_first),
      .acquire 1, .check 1 (namedDraft "dep-2" (by decide))] ++
    storing 0 ++ storing 1

/-- A call that finds the row of another one is refused, and changes none. -/
theorem oneAfterTheOther_single :
    ∃ final,
      SingleActive final.server ∧
        RefusalsKeepRows asciiContext
          (DeploymentSystem.stopped { registry := oneRelease } []) final
          oneAfterTheOther ∧
        final.activeDeployments.map (·.id) = ["dep-1"] := by
  obtain ⟨final, run, reached⟩ :=
    exists_run_of_execute
      (show
        (Transition.execute
            (checked (DeploymentSystem.step? asciiContext) EntersAlone)
            (DeploymentSystem.stopped { registry := oneRelease } [])
            oneAfterTheOther).any
          (fun final =>
            decide (final.activeDeployments.map (·.id) = ["dep-1"])) =
          true by decide)
  obtain ⟨single, kept⟩ :=
    singleDeployment_of_entersAlone asciiContext idsIssued_oneRelease
      (by decide) (Run.guarded_of_checked run)
  exact ⟨final, single, kept, of_decide_eq_true reached⟩

/-- Two calls that pass the check before either has a row are both active. -/
theorem not_singleDeployment : ¬ SingleDeployment asciiContext := by
  intro claimed
  obtain ⟨final, run, reached⟩ :=
    exists_run_of_execute
      (show
        (Transition.execute (DeploymentSystem.step? asciiContext)
            (DeploymentSystem.stopped { registry := oneRelease } [])
            oneBesideTheOther).any
          (fun final => decide (¬ SingleActive final.server)) =
          true by decide)
  exact
    of_decide_eq_true reached
      (claimed _ _ _ final idsIssued_oneRelease (by decide) run).1

end RpaPlatform.Deploy
