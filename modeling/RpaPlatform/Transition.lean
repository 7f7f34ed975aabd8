import Mathlib.Data.List.Basic
import Mathlib.Logic.Relation

namespace RpaPlatform.Transition

/-!
# Labelled runs and their invariants

A system is a step relation on states, labelled by the action that caused the
step.  This module fixes the vocabulary that the later modules instantiate:
finite runs, runs whose steps all meet a side condition, and the induction
rules that lift a one-step fact to a whole run.  Systems that are given by a
partial step function are executable, and `execute` runs them on a list of
actions.
-/

variable {State Action : Type*}

/-- A finite run, labelled by the actions taken in order. -/
inductive Run
    (step : State → Action → State → Prop) :
    State → List Action → State → Prop where
  | nil (state : State) : Run step state [] state
  | cons
      {initial middle final : State}
      {action : Action}
      {rest : List Action} :
      step initial action middle →
      Run step middle rest final →
      Run step initial (action :: rest) final

/-- The steps of a system that are taken from a state meeting a condition. -/
def Guarded
    (step : State → Action → State → Prop)
    (condition : State → Action → Prop) :
    State → Action → State → Prop :=
  fun before action after =>
    step before action after ∧ condition before action

/-- The step relation of a partial step function. -/
def Fires
    (step? : State → Action → Option State) :
    State → Action → State → Prop :=
  fun before action after => step? before action = some after

namespace Run

variable {step : State → Action → State → Prop}

theorem append
    {initial middle final : State}
    {first second : List Action}
    (leading : Run step initial first middle)
    (trailing : Run step middle second final) :
    Run step initial (first ++ second) final := by
  induction leading with
  | nil =>
    exact trailing
  | cons taken _ inductionHypothesis =>
    exact .cons taken (inductionHypothesis trailing)

variable
    {initial final : State}
    {actions : List Action}

theorem single
    {action : Action}
    (taken : step initial action final) :
    Run step initial [action] final :=
  .cons taken (.nil final)

theorem split
    {first second : List Action}
    (run : Run step initial (first ++ second) final) :
    ∃ middle, Run step initial first middle ∧ Run step middle second final := by
  induction first generalizing initial with
  | nil =>
    exact ⟨initial, .nil initial, run⟩
  | cons action rest inductionHypothesis =>
    cases run with
    | cons taken later =>
      obtain ⟨middle, leading, trailing⟩ :=
        inductionHypothesis later
      exact ⟨middle, .cons taken leading, trailing⟩

theorem preserves
    {invariant : State → Prop}
    (stepPreserves :
      ∀ before action after,
        step before action after →
        invariant before →
        invariant after)
    {initial final : State}
    {actions : List Action}
    (run : Run step initial actions final)
    (start : invariant initial) :
    invariant final := by
  induction run with
  | nil =>
    exact start
  | cons taken _ inductionHypothesis =>
    exact inductionHypothesis (stepPreserves _ _ _ taken start)

theorem traced
    {property : List Action → State → Prop}
    (stepPreserves :
      ∀ earlier before action after,
        Run step initial earlier before →
        step before action after →
        property earlier before →
        property (earlier ++ [action]) after)
    (run : Run step initial actions final)
    (start : property [] initial) :
    property actions final := by
  have continued :
      ∀ {middle last later},
        Run step middle later last →
        ∀ earlier,
          Run step initial earlier middle →
          property earlier middle →
          property (earlier ++ later) last := by
    intro middle last later remaining
    induction remaining with
    | nil =>
      intro earlier _ holds
      rwa [List.append_nil]
    | cons taken _ inductionHypothesis =>
      intro earlier leading holds
      rw [List.append_cons]
      exact
        inductionHypothesis _ (leading.append (single taken))
          (stepPreserves earlier _ _ _ leading taken holds)
  exact continued run [] (.nil initial) start

theorem weaken
    {larger : State → Action → State → Prop}
    (inclusion :
      ∀ before action after,
        step before action after →
        larger before action after)
    (run : Run step initial actions final) :
    Run larger initial actions final := by
  induction run with
  | nil state =>
    exact .nil state
  | cons taken _ inductionHypothesis =>
    exact .cons (inclusion _ _ _ taken) inductionHypothesis

/--
Step relations that agree on the states meeting an invariant of the first have
the same runs.
-/
theorem congr
    {invariant : State → Prop}
    {other : State → Action → State → Prop}
    (agree :
      ∀ before action after,
        invariant before →
        (step before action after ↔ other before action after))
    (stepPreserves :
      ∀ before action after,
        step before action after →
        invariant before →
        invariant after)
    (start : invariant initial) :
    Run step initial actions final ↔ Run other initial actions final := by
  constructor
  · intro run
    induction run with
    | nil state =>
      exact .nil state
    | cons taken _ inductionHypothesis =>
      exact
        .cons ((agree _ _ _ start).mp taken)
          (inductionHypothesis (stepPreserves _ _ _ taken start))
  · intro run
    induction run with
    | nil state =>
      exact .nil state
    | cons taken _ inductionHypothesis =>
      have same := (agree _ _ _ start).mpr taken
      exact .cons same (inductionHypothesis (stepPreserves _ _ _ same start))

theorem relax
    {condition larger : State → Action → Prop}
    (inclusion : ∀ state action, condition state action → larger state action)
    (run : Run (Guarded step condition) initial actions final) :
    Run (Guarded step larger) initial actions final :=
  run.weaken fun before action _ taken =>
    ⟨taken.1, inclusion before action taken.2⟩

theorem unguarded
    {condition : State → Action → Prop}
    (run : Run (Guarded step condition) initial actions final) :
    Run step initial actions final :=
  run.weaken fun _ _ _ => And.left

end Run

/-- Execute a partial step function on a list of actions. -/
def execute
    (step? : State → Action → Option State) :
    State → List Action → Option State
  | state, [] =>
    some state
  | state, action :: rest =>
    match step? state action with
    | none =>
      none
    | some next =>
      execute step? next rest

variable
    {initial final : State}
    {actions : List Action}
    {condition : State → Action → Prop}

variable {step? : State → Action → Option State}

theorem run_of_execute
    (executed : execute step? initial actions = some final) :
    Run (Fires step?) initial actions final := by
  induction actions generalizing initial with
  | nil =>
    simp only [execute, Option.some.injEq] at executed
    subst final
    exact .nil initial
  | cons action rest inductionHypothesis =>
    unfold execute at executed
    cases fired : step? initial action with
    | none =>
      simp [fired] at executed
    | some next =>
      simp only [fired] at executed
      exact .cons fired (inductionHypothesis executed)

theorem execute_of_run
    (run : Run (Fires step?) initial actions final) :
    execute step? initial actions = some final := by
  induction run with
  | nil =>
    rfl
  | cons fired _ inductionHypothesis =>
    unfold execute
    rw [show step? _ _ = some _ from fired]
    exact inductionHypothesis

theorem Run.unique
    {initial first second : State}
    (run : Run (Fires step?) initial actions first)
    (other : Run (Fires step?) initial actions second) :
    first = second :=
  Option.some.inj ((execute_of_run run).symm.trans (execute_of_run other))

theorem Run.guarded_concat_iff
    {initial before after : State}
    {earlier : List Action}
    {action : Action}
    (run : Run (Fires step?) initial earlier before)
    (taken : Fires step? before action after) :
    Run (Guarded (Fires step?) condition) initial (earlier ++ [action])
        after ↔
      Run (Guarded (Fires step?) condition) initial earlier before ∧
        condition before action := by
  constructor
  · intro guarded
    obtain ⟨middle, leading, last⟩ := guarded.split
    obtain rfl := run.unique leading.unguarded
    cases last with
    | cons step _ =>
      exact ⟨leading, step.2⟩
  · rintro ⟨leading, meets⟩
    exact leading.append (.single ⟨taken, meets⟩)

theorem execute_append
    (step? : State → Action → Option State)
    (initial : State)
    (first second : List Action) :
    execute step? initial (first ++ second) =
      (execute step? initial first).bind
        fun middle => execute step? middle second := by
  induction first generalizing initial with
  | nil =>
    rfl
  | cons action rest inductionHypothesis =>
    simp only [List.cons_append, execute]
    cases step? initial action with
    | none =>
      rfl
    | some next =>
      exact inductionHypothesis next

theorem exists_run_of_execute
    {step? : State → Action → Option State}
    {initial : State}
    {actions : List Action}
    {reached : State → Bool}
    (tested : (execute step? initial actions).any reached = true) :
    ∃ final,
      Run (Fires step?) initial actions final ∧ reached final = true := by
  rw [Option.any_eq_true] at tested
  obtain ⟨final, executed, holds⟩ := tested
  exact ⟨final, run_of_execute executed, holds⟩

theorem exists_runs_of_execute
    {initial : State}
    {first second : List Action}
    {passed reached : State → Bool}
    (through : (execute step? initial first).any passed = true)
    (tested : (execute step? initial (first ++ second)).any reached = true) :
    ∃ middle final,
      Run (Fires step?) initial first middle ∧
        Run (Fires step?) middle second final ∧
        passed middle = true ∧ reached final = true := by
  rw [Option.any_eq_true] at through tested
  obtain ⟨middle, leading, passes⟩ := through
  obtain ⟨final, whole, reaches⟩ := tested
  rw [execute_append, leading, Option.bind_some] at whole
  exact ⟨middle, final, run_of_execute leading, run_of_execute whole,
    passes, reaches⟩

/-- A step function that refuses steps outside a decidable side condition. -/
def checked
    (step? : State → Action → Option State)
    (condition : State → Action → Prop)
    [∀ state action, Decidable (condition state action)] :
    State → Action → Option State :=
  fun state action =>
    if condition state action then step? state action else none

theorem guarded_of_checked
    [∀ state action, Decidable (condition state action)]
    {before after : State}
    {action : Action}
    (taken : Fires (checked step? condition) before action after) :
    Guarded (Fires step?) condition before action after := by
  unfold Fires checked at taken
  split at taken
  · rename_i meets
    exact ⟨taken, meets⟩
  · cases taken

theorem Run.guarded_of_checked
    [∀ state action, Decidable (condition state action)]
    (run : Run (Fires (checked step? condition)) initial actions final) :
    Run (Guarded (Fires step?) condition) initial actions final :=
  run.weaken fun _ _ _ taken => Transition.guarded_of_checked taken

/-! ### Parties that are known by their position -/

theorem getElem?_set_cases
    {Party : Type*}
    {parties : List Party}
    {changed position : Nat}
    {state found : Party}
    (isFound : (parties.set changed state)[position]? = some found) :
    position = changed ∧ found = state ∨
      position ≠ changed ∧ parties[position]? = some found := by
  rw [List.getElem?_set] at isFound
  split at isFound
  · rename_i same
    split at isFound
    · exact .inl ⟨same.symm, (Option.some.inj isFound).symm⟩
    · cases isFound
  · rename_i different
    exact .inr ⟨fun same => different same.symm, isFound⟩

theorem getElem?_append_cases
    {Party : Type*}
    {parties : List Party}
    {position : Nat}
    {added found : Party}
    (isFound : (parties ++ [added])[position]? = some found) :
    found = added ∨ parties[position]? = some found := by
  rw [List.getElem?_append] at isFound
  split at isFound
  · exact .inr isFound
  · obtain ⟨_, same⟩ := List.getElem?_eq_some_iff.mp isFound
    rw [List.getElem_singleton] at same
    exact .inl same.symm

end RpaPlatform.Transition
