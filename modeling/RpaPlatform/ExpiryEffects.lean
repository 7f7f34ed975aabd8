import RpaPlatform.SessionExpiry

namespace RpaPlatform.Agents

open Transition

/-!
# What a step of the expiry can do

What activities, delayed closes and sweeps do to the sessions and to what the
coroutines wait for.  Every step has one of five effects.
-/

/-! ### Activities and the sessions they are of -/

namespace Activity

variable
    {activity : Activity}
    {monitor : RdpMonitor}
    {now : Int}
    {authToken key : String}

theorem lastActivity_observe
    (isOf : activity.authToken? monitor = some authToken)
    (named : authToken ≠ "") :
    (activity.observe monitor now).lastActivity? key = if key = authToken then
        if activity.registers then some now
        else (monitor.lastActivity? key).map fun _ => now
      else
        monitor.lastActivity? key := by
  unfold observe registers
  cases activity with
  | mark token | touch token | openSocket token =>
    cases isOf
    simp only [RdpMonitor.lastActivity_touchAuthToken, eq_comm]
    rfl
  | touchTunnel tunnelUuid =>
    have isToken : monitor.tunnelToken? tunnelUuid = some authToken := isOf
    simp only [RdpMonitor.lastActivity_touchTunnel, isToken,
      Option.some.injEq, eq_comm]
    rfl
  | bindTunnel token tunnelUuid =>
    unfold authToken? at isOf
    dsimp only at isOf
    split at isOf
    · cases isOf
    · rename_i given
      cases isOf
      dsimp only
      rw [RdpMonitor.lastActivity_bindTunnel]
      by_cases same : key = strip token
      · subst same
        simp [named, given]
      · rw [if_neg same, if_neg fun all => same all.1.symm]
  | register registration =>
    cases isOf
    dsimp only
    rw [RdpMonitor.lastActivity_registerSession]
    by_cases same : key = strip registration.authToken
    · subst same
      simp [named]
    · rw [if_neg same, if_neg fun both => same both.1.symm]

theorem tracks_observe
    (isOf : activity.authToken? monitor = some authToken)
    (named : authToken ≠ "")
    (tracks : (activity.observe monitor now).Tracks key) :
    monitor.Tracks key ∨ activity.registers = true ∧ key = authToken := by
  rw [RdpMonitor.tracks_iff_lastActivity, lastActivity_observe isOf named]
    at tracks
  rw [RdpMonitor.tracks_iff_lastActivity]
  split at tracks
  · rename_i same
    split at tracks
    · rename_i isRegistered
      exact .inr ⟨isRegistered, same⟩
    · rw [Option.isSome_map] at tracks
      exact .inl tracks
  · exact .inl tracks

end Activity

/-! ### What delayed closes wait for, and which are undecided -/

namespace DelayedCloses

variable
    {closes : DelayedCloses}
    {position changed : Nat}
    {task found : CloseTask}

theorem length_cancel (authToken : String) :
    (closes.cancel authToken).tasks.length = closes.tasks.length := by
  unfold cancel
  split
  · rfl
  · split
    · rfl
    · exact List.length_modify _ _ _

theorem getElem?_cancel (authToken : String) (position : Nat) :
    (closes.cancel authToken).tasks[position]? = closes.tasks[position]? ∨
      (closes.cancel authToken).tasks[position]? =
        (closes.tasks[position]?).map CloseTask.cancel := by
  unfold cancel
  split
  · exact .inl rfl
  · split
    · exact .inl rfl
    · rename_i stored _
      dsimp only
      rw [List.getElem?_modify]
      by_cases same : stored = position
      · right
        simp [same]
      · left
        simp [same]

theorem awaits_cancel_task (task : CloseTask) :
    task.cancel.awaits? = task.awaits? := by
  unfold CloseTask.cancel
  split <;> rfl

theorem awaits_cancel (authToken : String) (position : Nat) :
    ((closes.cancel authToken).tasks[position]?).bind CloseTask.awaits? =
      (closes.tasks[position]?).bind CloseTask.awaits? := by
  rcases closes.getElem?_cancel authToken position with same | cancelled
  · rw [same]
  · rw [cancelled, Option.bind_map]
    exact congrArg _ (funext awaits_cancel_task)

theorem awaits_schedule
    (authToken : String)
    (now : Int)
    {waited : String × Nat}
    (awaited : (closes.tasks[position]?).bind CloseTask.awaits? = some waited) :
    ((closes.schedule authToken now).tasks[position]?).bind
        CloseTask.awaits? =
      some waited := by
  unfold schedule
  split
  · exact awaited
  · rw [← awaits_cancel authToken] at awaited
    obtain ⟨task, isTask, _⟩ := Option.bind_eq_some_iff.mp awaited
    obtain ⟨inside, _⟩ := List.getElem?_eq_some_iff.mp isTask
    dsimp only
    rw [List.getElem?_append_left inside]
    exact awaited

theorem awaits_moveTo_other
    {stage : CloseStage}
    (other : position ≠ changed) :
    ((closes.moveTo changed found stage).tasks[position]?).bind
        CloseTask.awaits? =
      (closes.tasks[position]?).bind CloseTask.awaits? := by
  unfold moveTo
  dsimp only
  rw [List.getElem?_set_ne other.symm]

theorem tasks_unwind :
    (closes.unwind changed found).tasks =
      (closes.moveTo changed found .finished).tasks := by
  unfold unwind
  split <;> rfl

/-- No close is undecided that was not undecided before. -/
structure Decides (before after : DelayedCloses) : Prop where
  length : after.tasks.length = before.tasks.length
  undecided :
    ∀ {position : Nat} {task : CloseTask},
      after.tasks[position]? = some task →
      task.isUndecided = true →
      ∃ earlier : CloseTask,
        before.tasks[position]? = some earlier ∧
          earlier.isUndecided = true ∧
          earlier.authToken = task.authToken ∧
          earlier.scheduledAt = task.scheduledAt

namespace Decides

theorem refl (closes : DelayedCloses) : Decides closes closes :=
  ⟨rfl, fun {_ task} isTask isUndecided =>
    ⟨task, isTask, isUndecided, rfl, rfl⟩⟩

theorem cancel (closes : DelayedCloses) (authToken : String) :
    Decides closes (closes.cancel authToken) where
  length := length_cancel authToken
  undecided := by
    intro position task isTask isUndecided
    rcases closes.getElem?_cancel authToken position with same | cancelled
    · rw [same] at isTask
      exact ⟨task, isTask, isUndecided, rfl, rfl⟩
    · rw [cancelled] at isTask
      obtain ⟨earlier, isEarlier, rfl⟩ := Option.map_eq_some_iff.mp isTask
      unfold CloseTask.cancel at isUndecided
      split at isUndecided
      · rename_i isFinished
        simp [CloseTask.isUndecided, isFinished] at isUndecided
      · simp [CloseTask.isUndecided] at isUndecided

theorem moveTo
    (isFound : closes.tasks[changed]? = some found)
    {stage : CloseStage}
    (decides :
      CloseTask.isUndecided { found with stage } = true →
      found.isUndecided = true) :
    Decides closes (closes.moveTo changed found stage) where
  length := by
    unfold DelayedCloses.moveTo
    exact List.length_set
  undecided := by
    intro position task isTask isUndecided
    rcases getElem?_set_cases isTask with ⟨rfl, rfl⟩ | ⟨_, isTask⟩
    · exact ⟨found, isFound, decides isUndecided, rfl, rfl⟩
    · exact ⟨task, isTask, isUndecided, rfl, rfl⟩

theorem moveTo_decided
    (isFound : closes.tasks[changed]? = some found)
    {stage : CloseStage}
    (isDecided : stage ≠ .created ∧ stage ≠ .sleeping) :
    Decides closes (closes.moveTo changed found stage) := by
  refine moveTo isFound fun isUndecided => ?_
  simp [CloseTask.isUndecided, isDecided] at isUndecided

theorem of_tasks
    {before after other : DelayedCloses}
    (decides : Decides before other)
    (tasks : after.tasks = other.tasks) : Decides before after where
  length := (congrArg List.length tasks).trans decides.length
  undecided isTask isUndecided := by
    rw [tasks] at isTask
    exact decides.undecided isTask isUndecided

theorem finished (isFound : closes.tasks[changed]? = some found) :
    Decides closes (closes.moveTo changed found .finished) :=
  moveTo_decided isFound (by simp)

theorem finish (isFound : closes.tasks[changed]? = some found) :
    Decides closes (closes.finish changed found) :=
  (finished isFound).of_tasks rfl

theorem unwind (isFound : closes.tasks[changed]? = some found) :
    Decides closes (closes.unwind changed found) :=
  (finished isFound).of_tasks tasks_unwind

end Decides

end DelayedCloses

namespace ExpiringService

/-- A close that is undecided will skip a session that was in use. -/
structure Skips (service : ExpiringService) : Prop where
  aligned : service.scheduledAfter.length = service.closes.tasks.length
  skips :
    ∀ {position : Nat} {task : CloseTask} {scheduledAfter : Nat},
      service.closes.tasks[position]? = some task →
      service.scheduledAfter[position]? = some scheduledAfter →
      task.isUndecided = true →
      task.authToken ∈ service.activities.drop scheduledAfter →
      ∀ time ∈ service.monitor.lastActivity? task.authToken,
        task.scheduledAt < time

variable
    {service before after : ExpiringService}
    {authToken : String}
    {now : Int}

/-! ### What a step can do -/

/-- The coroutine that is cancelled by a step. -/
def interrupts? : ExpiryAction → Option Decider
  | .unwind position => some (.close position)
  | .abort position => some (.sweep position)
  | _ => none

/-- What a step can do. -/
inductive Effect
    (before : ExpiringService)
    (action : ExpiryAction)
    (after : ExpiringService) : Prop where
  | observed {activity : Activity} {now : Int} :
      action = .observe activity now →
      after = before.observe activity now →
      Effect before action after
  | scheduled {authToken : String} {now : Int} :
      after = before.schedule authToken now →
      Effect before action after
  /-- At most a session is forgotten, and a coroutine goes on. -/
  | quiet :
      DelayedCloses.Decides before.closes after.closes →
      (after.monitor = before.monitor ∨
        ∃ authToken, after.monitor = before.monitor.removeSession authToken) →
      after.activities = before.activities →
      after.scheduledAfter = before.scheduledAfter →
      after.invalidations = before.invalidations →
      (∀ decider waited,
        before.awaits? decider = some waited →
        after.awaits? decider = some waited ∨
          ¬ after.monitor.Tracks waited.1 ∨
          interrupts? action = some decider) →
      Effect before action after
  /-- A call to Guacamole begins. -/
  | begun {authToken : String} {decider : Decider} {decidedAt : Nat} :
      DelayedCloses.Decides before.closes after.closes →
      after.monitor = before.monitor →
      after.activities = before.activities →
      after.scheduledAfter = before.scheduledAfter →
      after.invalidations =
        (before.beginCall authToken decider decidedAt).invalidations →
      (∀ decider waited,
        before.awaits? decider = some waited →
        after.awaits? decider = some waited) →
      (before.Skips →
        before.SweepsIdle action →
        authToken ∉ before.activities.drop decidedAt) →
      Effect before action after
  | ended
      {call : Nat}
      {succeeded : Bool}
      {invalidation : Invalidation} :
      action = .endCall call succeeded →
      before.invalidations[call]? = some invalidation →
      after =
        { before with
          invalidations :=
            before.invalidations.set call
              { invalidation with outcome := some succeeded } } →
      Effect before action after

variable
    {position : Nat}
    {task : CloseTask}
    {stage : CloseStage}
    {action : ExpiryAction}

theorem awaits_of_moveTo
    (isTask : before.closes.tasks[position]? = some task)
    (tasks :
      after.closes.tasks = (before.closes.moveTo position task stage).tasks)
    (sweeps : after.sweeps = before.sweeps)
    {decider : Decider}
    {waited : String × Nat}
    (awaited : before.awaits? decider = some waited) :
    after.awaits? decider = some waited ∨
      decider = .close position ∧ task.awaits? = some waited := by
  cases decider with
  | close other =>
    by_cases same : other = position
    · subst same
      right
      unfold awaits? at awaited
      dsimp only at awaited
      rw [isTask] at awaited
      exact ⟨rfl, awaited⟩
    · left
      unfold awaits? at awaited ⊢
      dsimp only at awaited ⊢
      rw [tasks, DelayedCloses.awaits_moveTo_other same]
      exact awaited
  | sweep other =>
    left
    unfold awaits? at awaited ⊢
    dsimp only at awaited ⊢
    rw [sweeps]
    exact awaited

theorem awaits_of_moveSweep
    {sweep moved : Sweep}
    (isSweep : before.sweeps[position]? = some sweep)
    (closes : after.closes = before.closes)
    (sweeps : after.sweeps = before.sweeps.set position moved)
    {decider : Decider}
    {waited : String × Nat}
    (awaited : before.awaits? decider = some waited) :
    after.awaits? decider = some waited ∨
      decider = .sweep position ∧ sweep.awaits? = some waited := by
  cases decider with
  | close other =>
    left
    unfold awaits? at awaited ⊢
    dsimp only at awaited ⊢
    rw [closes]
    exact awaited
  | sweep other =>
    by_cases same : other = position
    · subst same
      right
      unfold awaits? at awaited
      dsimp only at awaited
      rw [isSweep] at awaited
      exact ⟨rfl, awaited⟩
    · left
      unfold awaits? at awaited ⊢
      dsimp only at awaited ⊢
      rw [sweeps, List.getElem?_set_ne (fun equal => same equal.symm)]
      exact awaited

theorem keeps_of_moveTo
    (isTask : before.closes.tasks[position]? = some task)
    (waitsForNone : task.awaits? = none)
    (tasks :
      after.closes.tasks = (before.closes.moveTo position task stage).tasks)
    (sweeps : after.sweeps = before.sweeps)
    (decider : Decider)
    (waited : String × Nat)
    (awaited : before.awaits? decider = some waited) :
    after.awaits? decider = some waited := by
  have same :
      after.awaits? decider = some waited ∨
        decider = .close position ∧ task.awaits? = some waited :=
    awaits_of_moveTo isTask tasks sweeps awaited
  refine same.resolve_right fun own => ?_
  rw [waitsForNone] at own
  cases own.2

theorem leaves_of_moveTo
    (isTask : before.closes.tasks[position]? = some task)
    (leaves :
      ¬ after.monitor.Tracks task.authToken ∨
        interrupts? action = some (.close position))
    (tasks :
      after.closes.tasks = (before.closes.moveTo position task stage).tasks)
    (sweeps : after.sweeps = before.sweeps)
    (decider : Decider)
    (waited : String × Nat)
    (awaited : before.awaits? decider = some waited) :
    after.awaits? decider = some waited ∨
      ¬ after.monitor.Tracks waited.1 ∨
      interrupts? action = some decider := by
  have same :
      after.awaits? decider = some waited ∨
        decider = .close position ∧ task.awaits? = some waited :=
    awaits_of_moveTo isTask tasks sweeps awaited
  refine same.imp_right ?_
  rintro ⟨rfl, own⟩
  refine leaves.imp_left fun untracked => ?_
  unfold CloseTask.awaits? at own
  split at own
  · cases own
    exact untracked
  · cases own

theorem leaves_of_moveSweep
    {sweep moved : Sweep}
    (isSweep : before.sweeps[position]? = some sweep)
    (leaves :
      ∀ waited ∈ sweep.awaits?,
        ¬ after.monitor.Tracks waited.1 ∨
          interrupts? action = some (.sweep position))
    (closes : after.closes = before.closes)
    (sweeps : after.sweeps = before.sweeps.set position moved)
    (decider : Decider)
    (waited : String × Nat)
    (awaited : before.awaits? decider = some waited) :
    after.awaits? decider = some waited ∨
      ¬ after.monitor.Tracks waited.1 ∨
      interrupts? action = some decider := by
  have same :
      after.awaits? decider = some waited ∨
        decider = .sweep position ∧ sweep.awaits? = some waited :=
    awaits_of_moveSweep isSweep closes sweeps awaited
  refine same.imp_right ?_
  rintro ⟨rfl, own⟩
  exact leaves waited own

theorem Skips.of_closesStill
    (skips : service.Skips)
    {position scheduledAfter : Nat}
    (isTask : service.closes.tasks[position]? = some task)
    (isSince : service.scheduledAfter[position]? = some scheduledAfter)
    (isUndecided : task.isUndecided = true)
    (closes : service.closesStill task = true) :
    task.authToken ∉ service.activities.drop scheduledAfter := by
  intro wasActive
  unfold closesStill at closes
  rw [Bool.and_eq_true, Bool.and_eq_true] at closes
  obtain ⟨session, tracked, isOlder⟩ :=
    (Option.any_eq_true _ _).mp closes.1.2
  have found := RdpMonitor.tracked_of_getSession tracked
  rw [task.clean] at found
  have last :
      service.monitor.lastActivity? task.authToken =
        some session.lastActivityAt := by
    unfold RdpMonitor.lastActivity?
    rw [found]
    rfl
  have later :=
    skips.skips isTask isSince isUndecided wasActive _ last
  have older := of_decide_eq_true isOlder
  omega

theorem effect_quiet
    (decides : DelayedCloses.Decides before.closes after.closes)
    (monitor :
      after.monitor = before.monitor ∨
        ∃ authToken, after.monitor = before.monitor.removeSession authToken)
    (activities : after.activities = before.activities)
    (scheduledAfter : after.scheduledAfter = before.scheduledAfter)
    (invalidations : after.invalidations = before.invalidations)
    (keeps :
      ∀ decider waited,
        before.awaits? decider = some waited →
        after.awaits? decider = some waited) :
    Effect before action after :=
  .quiet decides monitor activities scheduledAfter invalidations
    fun decider waited awaited => .inl (keeps decider waited awaited)

theorem effect_wake
    {position scheduledAfter : Nat}
    {bridged : Bool}
    (isTask : before.closes.tasks[position]? = some task)
    (isSince : before.scheduledAfter[position]? = some scheduledAfter)
    (runs : task.cancelled = false ∧ task.stage = .sleeping) :
    Effect before (.wake position bridged)
      (before.wake position task scheduledAfter bridged) := by
  have waitsForNone : task.awaits? = none := by
    unfold CloseTask.awaits?
    rw [runs.2]
  have isUndecided : task.isUndecided = true := by
    simp [CloseTask.isUndecided, runs]
  unfold wake
  split
  · rename_i closes
    split
    · refine
        .begun (.moveTo_decided isTask (by simp)) rfl rfl rfl rfl
          (keeps_of_moveTo isTask waitsForNone rfl rfl) ?_
      exact fun skips _ =>
        skips.of_closesStill isTask isSince isUndecided closes
    · exact
        effect_quiet (.moveTo_decided isTask (by simp)) (.inr ⟨_, rfl⟩) rfl
          rfl rfl (keeps_of_moveTo isTask waitsForNone rfl rfl)
  · exact
      effect_quiet (.finish isTask) (.inl rfl) rfl rfl rfl
        (keeps_of_moveTo isTask waitsForNone rfl rfl)

theorem effect_takeNext
    {sweep : Sweep}
    {sweeps : List Sweep}
    (keeps :
      ∀ (after : ExpiringService) decider waited,
        after.closes = before.closes →
        after.sweeps = sweeps →
        before.awaits? decider = some waited →
        after.awaits? decider = some waited)
    (isIdle :
      ∀ authToken ∈ sweep.remaining.head?,
        sweep.bridged = true →
        before.SweepsIdle action →
        authToken ∉ before.activities.drop sweep.selectedAt) :
    Effect before action
      { (before.takeNext position sweep).1 with sweeps } := by
  unfold takeNext
  split
  · exact
      effect_quiet (.refl _) (.inl rfl) rfl rfl rfl
        fun _ _ => keeps _ _ _ rfl rfl
  · rename_i authToken rest remaining
    split
    · rename_i isBridged
      refine
        .begun (.refl _) rfl rfl rfl rfl (fun _ _ => keeps _ _ _ rfl rfl) ?_
      refine fun _ => isIdle authToken ?_ isBridged
      rw [remaining]
      rfl
    · exact
        effect_quiet (.refl _) (.inr ⟨_, rfl⟩) rfl rfl rfl
          fun _ _ => keeps _ _ _ rfl rfl

/-- Every step has one of the effects. -/
theorem effect_of_step
    (stepped : step? before action = some after) :
    Effect before action after := by
  cases action with
  | observe activity now =>
    cases stepped
    exact .observed rfl rfl
  | closeSocket key | shutdown =>
    cases stepped
    exact effect_quiet (.refl _) (.inl rfl) rfl rfl rfl fun _ _ => id
  | forget key =>
    cases stepped
    exact effect_quiet (.refl _) (.inr ⟨key, rfl⟩) rfl rfl rfl fun _ _ => id
  | schedule key now =>
    cases stepped
    exact .scheduled rfl
  | cancel key =>
    cases stepped
    refine effect_quiet (.cancel _ _) (.inl rfl) rfl rfl rfl ?_
    intro decider waited awaited
    cases decider with
    | close position =>
      exact (DelayedCloses.awaits_cancel key position).trans awaited
    | sweep position =>
      exact awaited
  | start position =>
    obtain ⟨task, isTask, stepped⟩ := Option.bind_eq_some_iff.mp stepped
    split at stepped
    · rename_i runs
      cases stepped
      have waitsForNone : task.awaits? = none := by
        unfold CloseTask.awaits?
        rw [runs.2]
      refine
        effect_quiet (.moveTo isTask fun _ => ?_) (.inl rfl) rfl rfl rfl
          (keeps_of_moveTo isTask waitsForNone rfl rfl)
      simp [CloseTask.isUndecided, runs]
    · cases stepped
  | wake position bridged =>
    obtain ⟨task, isTask, stepped⟩ := Option.bind_eq_some_iff.mp stepped
    obtain ⟨since, isSince, stepped⟩ := Option.bind_eq_some_iff.mp stepped
    split at stepped
    · rename_i runs
      cases stepped
      exact effect_wake isTask isSince runs
    · cases stepped
  | resume position =>
    obtain ⟨task, isTask, stepped⟩ := Option.bind_eq_some_iff.mp stepped
    split at stepped
    · rename_i call isStage
      split at stepped
      · cases stepped
        exact
          .quiet (.moveTo_decided isTask (by simp)) (.inr ⟨_, rfl⟩) rfl rfl
            rfl
            (leaves_of_moveTo isTask
              (.inl (RdpMonitor.not_tracks_removeSession _)) rfl rfl)
      · cases stepped
    · cases stepped
  | finish position =>
    obtain ⟨task, isTask, stepped⟩ := Option.bind_eq_some_iff.mp stepped
    split at stepped
    · rename_i runs
      cases stepped
      have waitsForNone : task.awaits? = none := by
        unfold CloseTask.awaits?
        rw [runs.2]
      exact
        effect_quiet (.finish isTask) (.inl rfl) rfl rfl rfl
          (keeps_of_moveTo isTask waitsForNone rfl rfl)
    · cases stepped
  | unwind position =>
    obtain ⟨task, isTask, stepped⟩ := Option.bind_eq_some_iff.mp stepped
    split at stepped
    · cases stepped
      exact
        .quiet (.unwind isTask) (.inl rfl) rfl rfl rfl
          (leaves_of_moveTo isTask (.inr rfl) DelayedCloses.tasks_unwind rfl)
    · cases stepped
  | sweep now bridged =>
    cases stepped
    unfold beginSweep
    dsimp only
    refine effect_takeNext ?_ ?_
    · intro after decider waited closes sweeps awaited
      cases decider with
      | close position =>
        unfold awaits? at awaited ⊢
        dsimp only at awaited ⊢
        rw [closes]
        exact awaited
      | sweep position =>
        unfold awaits? at awaited ⊢
        dsimp only at awaited ⊢
        obtain ⟨sweep, isSweep, waits⟩ :=
          Option.bind_eq_some_iff.mp awaited
        obtain ⟨inside, _⟩ := List.getElem?_eq_some_iff.mp isSweep
        rw [sweeps, List.getElem?_append_left inside]
        exact awaited
    · intro key _ _ _ wasActive
      rw [List.drop_length] at wasActive
      cases wasActive
  | resumeSweep position =>
    obtain ⟨sweep, isSweep, stepped⟩ := Option.bind_eq_some_iff.mp stepped
    split at stepped
    · rename_i key call isPoint
      split at stepped
      · cases stepped
        refine
          .quiet (.refl _) (.inr ⟨_, rfl⟩) rfl rfl rfl
            (leaves_of_moveSweep isSweep ?_ rfl rfl)
        intro waited own
        unfold Sweep.awaits? at own
        rw [isPoint] at own
        cases own
        exact .inl (RdpMonitor.not_tracks_removeSession _)
      · cases stepped
    · cases stepped
  | nextSession position =>
    obtain ⟨sweep, isSweep, stepped⟩ := Option.bind_eq_some_iff.mp stepped
    split at stepped
    · rename_i isClosing
      cases stepped
      refine effect_takeNext ?_ ?_
      · intro after decider waited closes sweeps awaited
        rcases awaits_of_moveSweep isSweep closes sweeps awaited with
          same | own
        · exact same
        · simp [Sweep.awaits?, isClosing] at own
      · exact fun key isNext isBridged isIdle =>
          isIdle sweep isSweep isBridged key isNext
    · cases stepped
  | abort position =>
    obtain ⟨sweep, isSweep, stepped⟩ := Option.bind_eq_some_iff.mp stepped
    split at stepped
    · cases stepped
    · cases stepped
      exact
        .quiet (.refl _) (.inl rfl) rfl rfl rfl
          (leaves_of_moveSweep isSweep (fun _ _ => .inr rfl) rfl rfl)
  | endCall call succeeded =>
    obtain ⟨invalidation, isCall, stepped⟩ :=
      Option.bind_eq_some_iff.mp stepped
    split at stepped
    · cases stepped
      exact .ended rfl isCall rfl
    · cases stepped

end ExpiringService

end RpaPlatform.Agents
