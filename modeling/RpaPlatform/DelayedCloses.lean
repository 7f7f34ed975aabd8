import RpaPlatform.AgentRegistry

namespace RpaPlatform.Agents

open Transition

/-!
# Sessions that are closed later

`schedule_session_close` makes a task that sleeps first and then closes the
session, and stores it under the token of the session, where
`cancel_scheduled_session_close` finds it.  A task is known by its position
among the tasks that have been made.

A cancellation is raised in a task at the await where it is.  A task that has
not started yet never enters its `try`; all others run their `finally`, which
removes what is stored under the token by then.
-/

/-- Where a delayed close is. -/
inductive CloseStage where
  /-- It has been made, and has not run yet. -/
  | created
  | sleeping
  /-- A call to Guacamole, known by its number, is under way. -/
  | invalidating (call : Nat)
  /-- The sockets of the session that was forgotten are closed. -/
  | closing
  | finished
deriving DecidableEq

/-- A task of `schedule_session_close`; its token is stripped. -/
structure CloseTask where
  authToken : String
  scheduledAt : Int
  stage : CloseStage := .created
  cancelled : Bool := false
  clean : strip authToken = authToken
  nonempty : authToken ≠ ""

namespace CloseTask

def isArmed (task : CloseTask) : Bool :=
  !task.cancelled && decide (task.stage ≠ .finished)

/-- `task.cancel()`; a task that has finished is left alone. -/
def cancel (task : CloseTask) : CloseTask :=
  if task.stage = .finished then task else { task with cancelled := true }

end CloseTask

/-- The awaits that a task goes on to. -/
def CloseStage.goesTo : CloseStage → CloseStage → Bool
  | created, sleeping => true
  | sleeping, invalidating _ => true
  | sleeping, closing => true
  | invalidating _, closing => true
  | _, _ => false

/-- `_pending_close_tasks`, and all tasks that have been made. -/
structure DelayedCloses where
  pending : List (String × Nat) := []
  tasks : List CloseTask := []

/-- What can happen next. -/
inductive CloseAction where
  | schedule (authToken : String) (now : Int)
  | cancel (authToken : String)
  /-- A task goes on to another await. -/
  | advance (position : Nat) (stage : CloseStage)
  /-- A task returns or raises. -/
  | finish (position : Nat)
  /-- The cancellation of a task is raised in it. -/
  | unwind (position : Nat)

namespace DelayedCloses

variable (closes : DelayedCloses)

/-- `cancel_scheduled_session_close`. -/
def cancel (authToken : String) : DelayedCloses :=
  if strip authToken = "" then
    closes
  else
    match closes.pending.lookup (strip authToken) with
    | none =>
      closes
    | some position =>
      { pending := Dictionary.erase (strip authToken) closes.pending
        tasks := closes.tasks.modify position CloseTask.cancel }

/-- `schedule_session_close`. -/
def schedule (authToken : String) (now : Int) : DelayedCloses :=
  if empty : strip authToken = "" then
    closes
  else
    let cancelled := closes.cancel authToken
    { pending :=
        Dictionary.set (strip authToken) cancelled.tasks.length
          cancelled.pending
      tasks :=
        cancelled.tasks ++
          [{ authToken := strip authToken
             scheduledAt := now
             clean := strip_strip authToken
             nonempty := empty }] }

/-- A task goes on to another stage. -/
def moveTo
    (position : Nat)
    (task : CloseTask)
    (stage : CloseStage) : DelayedCloses :=
  { closes with tasks := closes.tasks.set position { task with stage } }

/-- The `finally` of a task. -/
def finish (position : Nat) (task : CloseTask) : DelayedCloses :=
  { closes.moveTo position task .finished with
    pending := Dictionary.erase task.authToken closes.pending }

def unwind (position : Nat) (task : CloseTask) : DelayedCloses :=
  if task.stage = .created then closes.moveTo position task .finished
  else closes.finish position task

/-- Take a step, if it can be taken. -/
def step? (closes : DelayedCloses) : CloseAction → Option DelayedCloses
  | .schedule authToken now => some (closes.schedule authToken now)
  | .cancel authToken => some (closes.cancel authToken)
  | .advance position stage =>
    (closes.tasks[position]?).bind fun task =>
      if task.cancelled = false ∧ task.stage.goesTo stage = true then
        some (closes.moveTo position task stage)
      else
        none
  | .finish position =>
    (closes.tasks[position]?).bind fun task =>
      if task.isArmed = true ∧ task.stage ≠ .created then
        some (closes.finish position task)
      else
        none
  | .unwind position =>
    (closes.tasks[position]?).bind fun task =>
      if task.cancelled = true ∧ task.stage ≠ .finished then
        some (closes.unwind position task)
      else
        none

/-! ### The claim -/

def Armed (position : Nat) (task : CloseTask) : Prop :=
  closes.tasks[position]? = some task ∧ task.isArmed = true

/-- The delayed closes that are armed are tracked. -/
structure Tracked : Prop where
  stored :
    ∀ {position task},
      closes.Armed position task →
      closes.pending.lookup task.authToken = some position
  cancels :
    ∀ {position task},
      closes.Armed position task →
      ∃ stopped : CloseTask,
        (closes.cancel task.authToken).tasks[position]? = some stopped ∧
          stopped.cancelled = true
  single :
    ∀ {first second task other},
      closes.Armed first task →
      closes.Armed second other →
      task.authToken = other.authToken →
      first = second

/-- A step after which the delayed closes are tracked. -/
def TrackingStep
    (before : DelayedCloses)
    (action : CloseAction)
    (after : DelayedCloses) : Prop :=
  Fires step? before action after ∧ after.Tracked

/-- The delayed closes are tracked after every step of every run. -/
def ClosesTracked : Prop :=
  ∀ actions closes,
    Run (Fires step?) {} actions closes → Run TrackingStep {} actions closes

/-- A task whose cancellation is raised in it finds nothing to remove. -/
def UnwindsAlone : CloseAction → Prop
  | .unwind position =>
    ∀ task ∈ closes.tasks[position]?,
      task.stage ≠ .created →
      closes.pending.lookup task.authToken = none
  | _ => True

/-! ### What is armed after each operation -/

section Steps

variable
    {closes : DelayedCloses}
    {position changed : Nat}
    {task found : CloseTask}
    {authToken : String}

/-- Tasks that are armed are stored. -/
def Stored (closes : DelayedCloses) : Prop :=
  ∀ {position task},
    closes.Armed position task →
    closes.pending.lookup task.authToken = some position

/-- What is stored is an armed task for the token. -/
def Valid (closes : DelayedCloses) : Prop :=
  ∀ {authToken position},
    closes.pending.lookup authToken = some position →
    ∃ task, closes.Armed position task ∧ task.authToken = authToken

theorem not_isArmed_cancel (task : CloseTask) :
    task.cancel.isArmed = false := by
  unfold CloseTask.cancel CloseTask.isArmed
  split
  · rename_i isFinished
    simp [isFinished]
  · rfl

theorem armed_cancel_iff :
    (closes.cancel authToken).Armed position task ↔
      closes.Armed position task ∧
        ¬ (strip authToken ≠ "" ∧
            closes.pending.lookup (strip authToken) = some position) := by
  unfold cancel Armed
  split
  · rename_i isEmpty
    simp [isEmpty]
  · rename_i named
    split
    · rename_i absent
      simp [absent]
    · rename_i stored isStored
      dsimp only
      rw [List.getElem?_modify, isStored]
      by_cases same : stored = position
      · subst same
        simp only [if_true, Option.map_eq_map, Option.map_eq_some_iff]
        constructor
        · rintro ⟨⟨earlier, _, rfl⟩, isArmed⟩
          rw [not_isArmed_cancel] at isArmed
          cases isArmed
        · rintro ⟨_, notStored⟩
          exact absurd ⟨named, trivial⟩ notStored
      · simp [same]

theorem lookup_cancel (key : String) :
    (closes.cancel authToken).pending.lookup key =
      if strip authToken ≠ "" ∧ key = strip authToken then none
      else closes.pending.lookup key := by
  unfold cancel
  split
  · rename_i isEmpty
    rw [if_neg fun both => both.1 isEmpty]
  · rename_i named
    by_cases same : key = strip authToken
    · subst same
      rw [if_pos ⟨named, rfl⟩]
      split
      · assumption
      · exact Dictionary.lookup_erase_self _ _
    · rw [if_neg fun both => same both.2]
      split
      · rfl
      · exact Dictionary.lookup_erase_other same _

theorem armed_moveTo_iff
    {stage : CloseStage}
    (isFound : closes.tasks[changed]? = some found) :
    (closes.moveTo changed found stage).Armed position task ↔
      position = changed ∧ task = { found with stage } ∧
          task.isArmed = true ∨
        position ≠ changed ∧ closes.Armed position task := by
  obtain ⟨inside, _⟩ := List.getElem?_eq_some_iff.mp isFound
  unfold Armed moveTo
  dsimp only
  rw [List.getElem?_set]
  by_cases same : changed = position
  · subst same
    rw [if_pos rfl, if_pos inside, Option.some.injEq]
    constructor
    · rintro ⟨rfl, isArmed⟩
      exact .inl ⟨rfl, rfl, isArmed⟩
    · rintro (⟨_, rfl, isArmed⟩ | ⟨other, _⟩)
      · exact ⟨rfl, isArmed⟩
      · exact absurd rfl other
  · have other : position ≠ changed := fun equal => same equal.symm
    simp [same, other]

theorem armed_moveTo_finished_iff
    (isFound : closes.tasks[changed]? = some found) :
    (closes.moveTo changed found .finished).Armed position task ↔
      position ≠ changed ∧ closes.Armed position task := by
  rw [armed_moveTo_iff isFound]
  refine or_iff_right ?_
  rintro ⟨_, rfl, isArmed⟩
  simp [CloseTask.isArmed] at isArmed

theorem armed_finish_iff
    (isFound : closes.tasks[changed]? = some found) :
    (closes.finish changed found).Armed position task ↔
      position ≠ changed ∧ closes.Armed position task :=
  armed_moveTo_finished_iff isFound

theorem armed_schedule_iff
    {now : Int}
    (named : strip authToken ≠ "") :
    (closes.schedule authToken now).Armed position task ↔
      (closes.cancel authToken).Armed position task ∨
        position = (closes.cancel authToken).tasks.length ∧
          task =
            { authToken := strip authToken
              scheduledAt := now
              clean := strip_strip authToken
              nonempty := named } := by
  unfold schedule Armed
  rw [dif_neg named]
  dsimp only
  generalize (closes.cancel authToken).tasks = tasks
  rcases Nat.lt_trichotomy position tasks.length with
    earlier | rfl | later
  · rw [List.getElem?_append_left earlier]
    exact (or_iff_left fun isNew => absurd isNew.1 earlier.ne).symm
  · simp only [List.getElem?_concat_length, Option.some.injEq,
      List.getElem?_length, true_and]
    constructor
    · rintro ⟨rfl, _⟩
      exact .inr rfl
    · rintro (impossible | rfl)
      · cases impossible.1
      · exact ⟨rfl, rfl⟩
  · rw [List.getElem?_eq_none (by simp; omega),
      List.getElem?_eq_none (by omega)]
    simp [later.ne']

theorem lookup_schedule
    {now : Int}
    (named : strip authToken ≠ "")
    (key : String) :
    (closes.schedule authToken now).pending.lookup key =
      if key = strip authToken then
        some (closes.cancel authToken).tasks.length
      else
        closes.pending.lookup key := by
  unfold schedule
  rw [dif_neg named]
  dsimp only
  split
  · rename_i same
    rw [same, Dictionary.lookup_set_self]
  · rename_i other
    rw [Dictionary.lookup_set_other other, lookup_cancel,
      if_neg fun both => other both.2]

/-! ### What is armed is stored -/

theorem Stored.cancel
    (stored : closes.Stored)
    (authToken : String) : (closes.cancel authToken).Stored := by
  intro position task isArmed
  obtain ⟨wasArmed, notStored⟩ := armed_cancel_iff.mp isArmed
  have isStored := stored wasArmed
  rw [lookup_cancel, if_neg]
  · exact isStored
  · rintro ⟨named, same⟩
    rw [same] at isStored
    exact notStored ⟨named, isStored⟩

theorem Stored.schedule
    (stored : closes.Stored)
    (authToken : String)
    (now : Int) : (closes.schedule authToken now).Stored := by
  intro position task isArmed
  by_cases named : strip authToken = ""
  · unfold DelayedCloses.schedule at isArmed ⊢
    rw [dif_pos named] at isArmed ⊢
    exact stored isArmed
  rw [lookup_schedule named]
  rcases (armed_schedule_iff named).mp isArmed with
    isEarlier | ⟨rfl, rfl⟩
  · have isStored := stored.cancel authToken isEarlier
    rw [lookup_cancel] at isStored
    split at isStored
    · cases isStored
    · rename_i other
      rw [if_neg fun same => other ⟨named, same⟩]
      exact isStored
  · exact if_pos rfl

theorem Stored.moveTo
    (stored : closes.Stored)
    (isFound : closes.tasks[changed]? = some found)
    (isArmed : found.isArmed = true)
    (stage : CloseStage) :
    (closes.moveTo changed found stage).Stored := by
  intro position task isMoved
  rcases (armed_moveTo_iff isFound).mp isMoved with
    ⟨rfl, rfl, _⟩ | ⟨_, wasArmed⟩
  · have own : closes.Armed position found := ⟨isFound, isArmed⟩
    have isStored := stored own
    exact isStored
  · exact stored wasArmed

theorem Stored.finish
    (stored : closes.Stored)
    (isFound : closes.tasks[changed]? = some found)
    (isArmed : found.isArmed = true) :
    (closes.finish changed found).Stored := by
  intro position task isOther
  obtain ⟨different, wasArmed⟩ := (armed_finish_iff isFound).mp isOther
  have isStored := stored wasArmed
  have own := stored ⟨isFound, isArmed⟩
  change (Dictionary.erase _ _).lookup _ = _
  rw [Dictionary.lookup_erase_other]
  · exact isStored
  · intro same
    rw [same, own] at isStored
    exact different (Option.some.inj isStored).symm

theorem Stored.unwind_iff
    (stored : closes.Stored)
    (valid : closes.Valid)
    (isFound : closes.tasks[changed]? = some found)
    (isCancelled : found.cancelled = true) :
    (closes.unwind changed found).Stored ↔
      (found.stage ≠ .created →
        closes.pending.lookup found.authToken = none) := by
  unfold DelayedCloses.unwind
  split
  · rename_i isCreated
    refine iff_of_true ?_ fun started => absurd isCreated started
    intro position task isArmed
    exact stored ((armed_moveTo_finished_iff isFound).mp isArmed).2
  · rename_i started
    rw [imp_iff_right started]
    constructor
    · intro isStored
      by_contra present
      obtain ⟨other, isOther⟩ := Option.ne_none_iff_exists'.mp present
      obtain ⟨task, isArmed, sameToken⟩ := valid isOther
      have different : other ≠ changed := by
        rintro rfl
        obtain rfl := Option.some.inj (isFound.symm.trans isArmed.1)
        have unarmed := isArmed.2
        simp [CloseTask.isArmed, isCancelled] at unarmed
      have lost :=
        isStored ((armed_finish_iff isFound).mpr ⟨different, isArmed⟩)
      change (Dictionary.erase _ _).lookup _ = _ at lost
      rw [sameToken, Dictionary.lookup_erase_self] at lost
      cases lost
    · intro absent position task isArmed
      have isStored := stored ((armed_finish_iff isFound).mp isArmed).2
      change (Dictionary.erase _ _).lookup _ = _
      rw [Dictionary.lookup_erase_other]
      · exact isStored
      · intro same
        rw [same, absent] at isStored
        cases isStored

/-! ### What is stored is armed -/

theorem Valid.cancel
    (valid : closes.Valid)
    (authToken : String) : (closes.cancel authToken).Valid := by
  intro key position isStored
  rw [lookup_cancel] at isStored
  split at isStored
  · cases isStored
  · rename_i other
    obtain ⟨task, isArmed, rfl⟩ := valid isStored
    refine ⟨task, armed_cancel_iff.mpr ⟨isArmed, ?_⟩, rfl⟩
    rintro ⟨named, alsoStored⟩
    obtain ⟨same, isSame, sameToken⟩ := valid alsoStored
    obtain rfl := Option.some.inj (isArmed.1.symm.trans isSame.1)
    exact other ⟨named, sameToken⟩

theorem Valid.schedule
    (valid : closes.Valid)
    (authToken : String)
    (now : Int) : (closes.schedule authToken now).Valid := by
  intro key position isStored
  by_cases named : strip authToken = ""
  · unfold DelayedCloses.schedule at isStored ⊢
    rw [dif_pos named] at isStored ⊢
    exact valid isStored
  rw [lookup_schedule named] at isStored
  split at isStored
  · rename_i same
    cases isStored
    exact ⟨_, (armed_schedule_iff named).mpr (.inr ⟨rfl, rfl⟩), same.symm⟩
  · rename_i other
    obtain ⟨task, isArmed, sameToken⟩ :=
      valid.cancel authToken
        (by rwa [lookup_cancel, if_neg fun both => other both.2])
    exact ⟨task, (armed_schedule_iff named).mpr (.inl isArmed), sameToken⟩

section Keeping

variable
    (valid : closes.Valid)
    (isFound : closes.tasks[changed]? = some found)
include valid isFound

/-- A task that is stored stays armed as long as it neither is cancelled nor
finishes. -/
theorem Valid.moveTo
    {stage : CloseStage}
    (keeps :
      found.isArmed = true →
      CloseTask.isArmed { found with stage } = true) :
    (closes.moveTo changed found stage).Valid := by
  intro key position isStored
  obtain ⟨task, isArmed, sameToken⟩ := valid isStored
  by_cases same : position = changed
  · subst same
    obtain rfl := Option.some.inj (isFound.symm.trans isArmed.1)
    refine ⟨{ found with stage }, ?_, sameToken⟩
    exact (armed_moveTo_iff isFound).mpr (.inl ⟨rfl, rfl, keeps isArmed.2⟩)
  · exact
      ⟨task, (armed_moveTo_iff isFound).mpr (.inr ⟨same, isArmed⟩), sameToken⟩

theorem Valid.finish :
    (closes.finish changed found).Valid := by
  intro key position isStored
  change (Dictionary.erase _ _).lookup _ = _ at isStored
  by_cases own : key = found.authToken
  · rw [own, Dictionary.lookup_erase_self] at isStored
    cases isStored
  · rw [Dictionary.lookup_erase_other own] at isStored
    obtain ⟨task, isArmed, rfl⟩ := valid isStored
    refine ⟨task, (armed_finish_iff isFound).mpr ⟨?_, isArmed⟩, rfl⟩
    rintro rfl
    obtain rfl := Option.some.inj (isFound.symm.trans isArmed.1)
    exact own rfl

theorem Valid.unwind
    (isCancelled : found.cancelled = true) :
    (closes.unwind changed found).Valid := by
  unfold DelayedCloses.unwind
  split
  · refine valid.moveTo isFound fun isArmed => ?_
    simp [CloseTask.isArmed, isCancelled] at isArmed
  · exact valid.finish isFound

end Keeping

/-! ### The steps -/

theorem tracked_iff_stored : closes.Tracked ↔ closes.Stored := by
  constructor
  · exact fun tracked => tracked.stored
  · intro stored
    refine ⟨stored, ?_, ?_⟩
    · intro position task isArmed
      have isStored := stored isArmed
      refine ⟨task.cancel, ?_, ?_⟩
      · unfold cancel
        rw [task.clean, if_neg task.nonempty, isStored]
        dsimp only
        rw [List.getElem?_modify, isArmed.1]
        simp
      · have started := isArmed.2
        unfold CloseTask.isArmed at started
        rw [Bool.and_eq_true, decide_eq_true_eq] at started
        unfold CloseTask.cancel
        rw [if_neg started.2]
    · intro first second task other isFirst isSecond sameToken
      have isStored := stored isFirst
      rw [sameToken, stored isSecond] at isStored
      exact (Option.some.inj isStored).symm

theorem Valid.step
    {before after : DelayedCloses}
    {action : CloseAction}
    (valid : before.Valid)
    (stepped : step? before action = some after) : after.Valid := by
  cases action with
  | schedule authToken now =>
    cases stepped
    exact valid.schedule authToken now
  | cancel authToken =>
    cases stepped
    exact valid.cancel authToken
  | advance position stage =>
    obtain ⟨found, isFound, stepped⟩ := Option.bind_eq_some_iff.mp stepped
    split at stepped
    · rename_i goes
      cases stepped
      refine valid.moveTo isFound fun _ => ?_
      unfold CloseTask.isArmed
      rw [goes.1, Bool.not_false, Bool.true_and, decide_eq_true_eq]
      rintro rfl
      cases isStage : found.stage <;> simp [isStage, CloseStage.goesTo] at goes
    · cases stepped
  | finish position =>
    obtain ⟨found, isFound, stepped⟩ := Option.bind_eq_some_iff.mp stepped
    split at stepped
    · cases stepped
      exact valid.finish isFound
    · cases stepped
  | unwind position =>
    obtain ⟨found, isFound, stepped⟩ := Option.bind_eq_some_iff.mp stepped
    split at stepped
    · rename_i isCancelled
      cases stepped
      exact valid.unwind isFound isCancelled.1
    · cases stepped

/-- A step keeps track if and only if no task that is unwound finds another
one stored. -/
theorem tracked_step_iff
    {before after : DelayedCloses}
    {action : CloseAction}
    (stored : before.Stored)
    (valid : before.Valid)
    (stepped : step? before action = some after) :
    after.Tracked ↔ before.UnwindsAlone action := by
  rw [tracked_iff_stored]
  cases action with
  | schedule authToken now =>
    cases stepped
    exact iff_of_true (stored.schedule authToken now) trivial
  | cancel authToken =>
    cases stepped
    exact iff_of_true (stored.cancel authToken) trivial
  | advance position stage =>
    obtain ⟨found, isFound, stepped⟩ := Option.bind_eq_some_iff.mp stepped
    split at stepped
    · rename_i goes
      cases stepped
      refine iff_of_true (stored.moveTo isFound ?_ stage) trivial
      unfold CloseTask.isArmed
      rw [goes.1, Bool.not_false, Bool.true_and, decide_eq_true_eq]
      intro isFinished
      simp [isFinished, CloseStage.goesTo] at goes
    · cases stepped
  | finish position =>
    obtain ⟨found, isFound, stepped⟩ := Option.bind_eq_some_iff.mp stepped
    split at stepped
    · rename_i runs
      cases stepped
      exact iff_of_true (stored.finish isFound runs.1) trivial
    · cases stepped
  | unwind position =>
    obtain ⟨found, isFound, stepped⟩ := Option.bind_eq_some_iff.mp stepped
    split at stepped
    · rename_i isCancelled
      cases stepped
      unfold UnwindsAlone
      dsimp only
      rw [isFound, stored.unwind_iff valid isFound isCancelled.1]
      simp
    · cases stepped

/--
In a run the delayed closes are always tracked if and only if no cancellation
is raised in a task that has started while another task is stored for its
token.
-/
theorem tracked_iff_unwindsAlone
    (actions : List CloseAction)
    (closes : DelayedCloses) :
    Run TrackingStep {} actions closes ↔
      Run (Guarded (Fires step?) UnwindsAlone) {} actions closes := by
  have agree :
      ∀ before action after,
        before.Stored ∧ before.Valid →
        (TrackingStep before action after ↔
          Guarded (Fires step?) UnwindsAlone before action after) :=
    fun _ _ _ kept =>
      and_congr_right fun stepped => tracked_step_iff kept.1 kept.2 stepped
  have stepPreserves :
      ∀ before action after,
        TrackingStep before action after →
        before.Stored ∧ before.Valid →
        after.Stored ∧ after.Valid :=
    fun _ _ _ taken kept =>
      ⟨tracked_iff_stored.mp taken.2, Valid.step kept.2 taken.1⟩
  have start : Stored {} ∧ Valid {} := by
    constructor
    · intro position task isArmed
      cases isArmed.1
    · intro key position isStored
      cases isStored
  exact Run.congr agree stepPreserves start

def rescheduled : List CloseAction :=
  [.schedule "token-1" 10, .advance 0 .sleeping, .schedule "token-1" 12,
    .unwind 0]

/-- The second close is armed, and a cancel does not find it. -/
theorem not_closesTracked : ¬ ClosesTracked := by
  intro claimed
  obtain ⟨closes, run, lost⟩ :=
    exists_run_of_execute
      (show
        (execute step? {} rescheduled).any (fun closes =>
          (closes.tasks[1]?).any (fun task =>
              task.isArmed && decide (task.authToken = "token-1")) &&
            decide (closes.pending.lookup "token-1" = none)) = true by
        decide)
  obtain ⟨isTask, absent⟩ := Bool.and_eq_true_iff.mp lost
  obtain ⟨task, isSecond, isArmed⟩ := (Option.any_eq_true _ _).mp isTask
  rw [Bool.and_eq_true, decide_eq_true_eq] at isArmed
  have stepPreserves :
      ∀ before action after,
        TrackingStep before action after →
        before.Stored →
        after.Stored :=
    fun _ _ _ taken _ => tracked_iff_stored.mp taken.2
  have stored : closes.Stored :=
    (claimed _ _ run).preserves stepPreserves fun isArmed => by
      cases isArmed.1
  have isStored := stored ⟨isSecond, isArmed.1⟩
  rw [isArmed.2, of_decide_eq_true absent] at isStored
  cases isStored

end Steps

-- What is known of them is said above; unifying their bodies is slow.
attribute [irreducible] cancel schedule

end DelayedCloses

end RpaPlatform.Agents
