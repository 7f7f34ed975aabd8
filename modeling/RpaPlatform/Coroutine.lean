import RpaPlatform.Transition

namespace RpaPlatform

open Transition

/-!
# Coroutines

Handlers that wait for one another are coroutines on a shared state: between
two awaits a coroutine changes the state, and at an await others may change
it too, or the await may raise.  `Coroutine.alone` runs a coroutine without
anything in between; `Coroutine.Guarantees` is the rely-guarantee condition
that holds of every interleaving.
-/

/-- A coroutine that ends in a result or an error. -/
inductive Coroutine (State Error Result : Type) where
  | finished (result : Result)
  | raised (error : Error)
  /-- Change the state; the rest may depend on the state before. -/
  | step
      (change : State → State)
      (resume : State → Coroutine State Error Result)
  /-- A step that may raise instead. -/
  | await
      (change : State → State)
      (resume : State → Coroutine State Error Result)
      (failure : Error → Coroutine State Error Result)

namespace Coroutine

variable {State Error Result Next : Type}

def ofExcept : Except Error Result → Coroutine State Error Result
  | .ok result => .finished result
  | .error error => .raised error

/-- Go on after a coroutine has ended, either way. -/
def after
    (continuation : Except Error Result → Coroutine State Error Next) :
    Coroutine State Error Result → Coroutine State Error Next
  | .finished result =>
    continuation (.ok result)
  | .raised error =>
    continuation (.error error)
  | .step change resume =>
    .step change fun before => (resume before).after continuation
  | .await change resume failure =>
    .await change
      (fun before => (resume before).after continuation)
      (fun error => (failure error).after continuation)

/-- Go on with the result. -/
def bind
    (coroutine : Coroutine State Error Result)
    (continuation : Result → Coroutine State Error Next) :
    Coroutine State Error Next :=
  coroutine.after fun
    | .ok result => continuation result
    | .error error => .raised error

instance : Monad (Coroutine State Error) where
  pure := .finished
  bind := bind

/-- `try … except`. -/
def catching
    (coroutine : Coroutine State Error Result)
    (handler : Error → Coroutine State Error Result) :
    Coroutine State Error Result :=
  coroutine.after fun
    | .ok result => .finished result
    | .error error => handler error

/-- `try … finally`. -/
def ensuring
    (coroutine : Coroutine State Error Result)
    (cleanup : Coroutine State Error Unit) :
    Coroutine State Error Result :=
  coroutine.after fun outcome => cleanup.bind fun _ => ofExcept outcome

def modify (change : State → State) : Coroutine State Error Unit :=
  .step change fun _ => .finished ()

def read (view : State → Result) : Coroutine State Error Result :=
  .step id fun before => .finished (view before)

/-- Wait for a change of the state, and read what was there before. -/
def waitFor
    (change : State → State)
    (view : State → Result) : Coroutine State Error Result :=
  .await change (fun before => .finished (view before)) .raised

/-- Change the state without an await, which may raise on its way. -/
def attempt
    (change : State → State)
    (outcome : State → Except Error Result) :
    Coroutine State Error Result :=
  .step change fun before => ofExcept (outcome before)

/-- Run a coroutine on a part of the state. -/
def zoom
    {Part : Type}
    (part : State → Part)
    (replace : Part → State → State) :
    Coroutine Part Error Result → Coroutine State Error Result
  | .finished result =>
    .finished result
  | .raised error =>
    .raised error
  | .step change resume =>
    .step (fun state => replace (change (part state)) state)
      fun before => (resume (part before)).zoom part replace
  | .await change resume failure =>
    .await (fun state => replace (change (part state)) state)
      (fun before => (resume (part before)).zoom part replace)
      fun error => (failure error).zoom part replace

@[simp]
theorem pure_eq (result : Result) :
    (pure result : Coroutine State Error Result) = .finished result :=
  rfl

@[simp]
theorem bind_eq
    (coroutine : Coroutine State Error Result)
    (continuation : Result → Coroutine State Error Next) :
    (coroutine >>= continuation) = coroutine.bind continuation :=
  rfl

/-! ### Running alone -/

/-- Run a coroutine with nothing in between and no await that raises. -/
def alone :
    Coroutine State Error Result → State → State × Except Error Result
  | .finished result, state =>
    (state, .ok result)
  | .raised error, state =>
    (state, .error error)
  | .step change resume, state =>
    (resume state).alone (change state)
  | .await change resume _, state =>
    (resume state).alone (change state)

@[simp]
theorem alone_bind_read
    (view : State → Result)
    (continuation : Result → Coroutine State Error Next)
    (state : State) :
    ((read view).bind continuation).alone state =
      (continuation (view state)).alone state :=
  rfl

@[simp]
theorem alone_finished_bind
    (result : Result)
    (continuation : Result → Coroutine State Error Next)
    (state : State) :
    (((finished result).bind continuation :
        Coroutine State Error Next)).alone state =
      (continuation result).alone state :=
  rfl

@[simp]
theorem alone_bind_attempt
    (change : State → State)
    (outcome : State → Except Error Result)
    (continuation : Result → Coroutine State Error Next)
    (state : State) :
    ((attempt change outcome).bind continuation).alone state =
      ((ofExcept (outcome state)).bind continuation).alone (change state) :=
  rfl

theorem bind_assoc
    {Last : Type}
    (coroutine : Coroutine State Error Result)
    (first : Result → Coroutine State Error Next)
    (second : Next → Coroutine State Error Last) :
    (coroutine.bind first).bind second =
      coroutine.bind fun result => (first result).bind second := by
  induction coroutine with
  | finished | raised =>
    rfl
  | step change resume inductionHypothesis =>
    exact congrArg (step change)
      (funext fun before => inductionHypothesis before)
  | await change resume failure inductionHypothesis onFailure =>
    exact congrArg₂ (await change)
      (funext fun before => inductionHypothesis before)
      (funext fun error => onFailure error)

/-! ### Running among others -/

/-- What can happen while a coroutine runs. -/
inductive Happening (State Error : Type) where
  /-- The coroutine goes on. -/
  | proceed
  /-- Its await raises. -/
  | fail (error : Error)
  /-- Others change the state. -/
  | interfere (changed : State)

/-- The state that a coroutine shares, and what is left of it. -/
structure Running (State Error Result : Type) where
  state : State
  rest : Coroutine State Error Result

/-- Let something happen, if it can. -/
def happen?
    (running : Running State Error Result) :
    Happening State Error → Option (Running State Error Result)
  | .proceed =>
    match running.rest with
    | .step change resume =>
      some
        { state := change running.state
          rest := resume running.state }
    | .await change resume _ =>
      some
        { state := change running.state
          rest := resume running.state }
    | _ => none
  | .fail error =>
    match running.rest with
    | .await _ _ failure =>
      some { running with rest := failure error }
    | _ => none
  | .interfere changed =>
    some { running with state := changed }

/-- Go on some times without anything in between. -/
def Running.proceed (running : Running State Error Result) :
    Nat → Option (Running State Error Result)
  | 0 => some running
  | times + 1 =>
    (happen? running .proceed).bind fun next => next.proceed times

/-- Others change the state only as they may. -/
def Relies
    (rely : State → State → Prop)
    (running : Running State Error Result) :
    Happening State Error → Prop
  | .interfere changed => rely running.state changed
  | _ => True

/--
Among others that change the state only as they may, every step of the
coroutine changes it only as it may, and the end meets a condition.
-/
def Guarantees
    (rely guarantee : State → State → Prop)
    (post : State → Except Error Result → Prop) :
    State → Coroutine State Error Result → Prop
  | state, .finished result =>
    post state (.ok result)
  | state, .raised error =>
    post state (.error error)
  | state, .step change resume =>
    ∀ before,
      rely state before →
      guarantee before (change before) ∧
        (resume before).Guarantees rely guarantee post (change before)
  | state, .await change resume failure =>
    ∀ before,
      rely state before →
      guarantee before (change before) ∧
        (resume before).Guarantees rely guarantee post
            (change before) ∧
          ∀ error, (failure error).Guarantees rely guarantee post before

section Rules

variable
    {rely guarantee : State → State → Prop}
    {post : State → Except Error Result → Prop}
    {nextPost : State → Except Error Next → Prop}

variable
    {coroutine : Coroutine State Error Result}
    {state : State}
    {continuation : Result → Coroutine State Error Next}
    {view : State → Result}
    {change : State → State}

theorem Guarantees.after
    {continuation : Except Error Result → Coroutine State Error Next}
    (guaranteed : coroutine.Guarantees rely guarantee post state)
    (continues :
      ∀ reached outcome,
        post reached outcome →
        (continuation outcome).Guarantees rely guarantee nextPost reached) :
    (coroutine.after continuation).Guarantees rely guarantee nextPost
      state := by
  induction coroutine generalizing state with
  | finished | raised =>
    exact continues _ _ guaranteed
  | step change resume inductionHypothesis =>
    intro before relied
    obtain ⟨kept, later⟩ := guaranteed before relied
    exact ⟨kept, inductionHypothesis before later⟩
  | await change resume failure inductionHypothesis onFailure =>
    intro before relied
    obtain ⟨kept, later, failed⟩ := guaranteed before relied
    exact ⟨kept, inductionHypothesis before later,
      fun error => onFailure error (failed error)⟩

theorem Guarantees.bind
    (guaranteed : coroutine.Guarantees rely guarantee post state)
    (continues :
      ∀ reached result,
        post reached (.ok result) →
        (continuation result).Guarantees rely guarantee nextPost reached)
    (raises :
      ∀ reached error,
        post reached (.error error) → nextPost reached (.error error)) :
    (coroutine.bind continuation).Guarantees rely guarantee nextPost state := by
  apply guaranteed.after
  intro reached outcome holds
  cases outcome with
  | ok result =>
    exact continues reached result holds
  | error error =>
    exact raises reached error holds

theorem guarantees_ofExcept
    {outcome : Except Error Result}
    (ends : post state outcome) :
    (ofExcept outcome).Guarantees rely guarantee post state := by
  cases outcome with
  | ok | error =>
    exact ends

theorem guarantees_bind_read
    (kept :
      ∀ before,
        rely state before →
        guarantee before before ∧
          (continuation (view before)).Guarantees rely guarantee nextPost
            before) :
    ((read view).bind continuation).Guarantees rely guarantee nextPost state :=
  kept

theorem guarantees_bind_modify
    {continuation : Unit → Coroutine State Error Next}
    (kept :
      ∀ before,
        rely state before →
        guarantee before (change before) ∧
          (continuation ()).Guarantees rely guarantee nextPost
            (change before)) :
    ((modify change).bind continuation).Guarantees rely guarantee nextPost
      state :=
  kept

theorem run_of_proceed
    {initial final : Running State Error Result}
    {times : Nat}
    (proceeded : initial.proceed times = some final) :
    Run (Guarded (Fires happen?) (Relies rely)) initial
      (List.replicate times .proceed) final := by
  induction times generalizing initial with
  | zero =>
    obtain rfl := Option.some.inj proceeded
    exact .nil initial
  | succ times inductionHypothesis =>
    obtain ⟨next, happened, later⟩ :=
      Option.bind_eq_some_iff.mp proceeded
    exact .cons ⟨happened, trivial⟩ (inductionHypothesis later)

section Stability

variable
    (reflexive : ∀ state, rely state state)
    (transitive :
      ∀ first second third,
        rely first second → rely second third → rely first third)
    (stable :
      ∀ before after outcome,
        rely before after → post before outcome → post after outcome)

include transitive stable

theorem Guarantees.interfered
    {state changed : State}
    (guaranteed : coroutine.Guarantees rely guarantee post state)
    (relied : rely state changed) :
    coroutine.Guarantees rely guarantee post changed := by
  cases coroutine with
  | finished | raised =>
    exact stable _ _ _ relied guaranteed
  | step change resume | await change resume failure =>
    intro before later
    exact guaranteed before (transitive _ _ _ relied later)

include reflexive

theorem Guarantees.happen
    {before after : Running State Error Result}
    {happening : Happening State Error}
    (guaranteed : before.rest.Guarantees rely guarantee post before.state)
    (happened : happen? before happening = some after)
    (relied : Relies rely before happening) :
    after.rest.Guarantees rely guarantee post after.state ∧
      (happening = .proceed → guarantee before.state after.state) := by
  obtain ⟨state, rest⟩ := before
  cases happening with
  | proceed =>
    cases rest with
    | step change resume =>
      cases happened
      obtain ⟨kept, later⟩ := guaranteed state (reflexive state)
      exact ⟨later, fun _ => kept⟩
    | await change resume failure =>
      cases happened
      obtain ⟨kept, later, _⟩ := guaranteed state (reflexive state)
      exact ⟨later, fun _ => kept⟩
    | _ =>
      cases happened
  | fail error =>
    cases rest with
    | await change resume failure =>
      cases happened
      obtain ⟨_, _, failed⟩ := guaranteed state (reflexive state)
      exact ⟨failed error, nofun⟩
    | _ =>
      cases happened
  | interfere changed =>
    cases happened
    exact ⟨guaranteed.interfered transitive stable relied, nofun⟩

theorem Guarantees.run
    {initial final : Running State Error Result}
    {happenings : List (Happening State Error)}
    (run : Run (Guarded (Fires happen?) (Relies rely)) initial happenings final)
    (guaranteed : initial.rest.Guarantees rely guarantee post initial.state) :
    final.rest.Guarantees rely guarantee post final.state := by
  induction run with
  | nil =>
    exact guaranteed
  | cons taken _ inductionHypothesis =>
    obtain ⟨happened, relied⟩ := taken
    exact inductionHypothesis
      (guaranteed.happen reflexive transitive stable happened relied).1

end Stability

/-! ### An invariant at the ends -/

section Invariants

variable {invariant : State → Prop}

variable
    {coroutine : Coroutine State Error Result}
    {state : State}

section Invariants

variable
    (guaranteed :
      coroutine.Guarantees rely guarantee (fun state _ => invariant state)
        state)
include guaranteed

theorem Guarantees.bind_invariant
    {continuation : Result → Coroutine State Error Next}
    (continues :
      ∀ reached result,
        invariant reached →
        (continuation result).Guarantees rely guarantee
          (fun state _ => invariant state) reached) :
    (coroutine.bind continuation).Guarantees rely guarantee
      (fun state _ => invariant state) state :=
  guaranteed.bind continues fun _ _ holds => holds

theorem Guarantees.catching_invariant
    {handler : Error → Coroutine State Error Result}
    (handles :
      ∀ reached error,
        invariant reached →
        (handler error).Guarantees rely guarantee
          (fun state _ => invariant state) reached) :
    (coroutine.catching handler).Guarantees rely guarantee
      (fun state _ => invariant state) state := by
  apply guaranteed.after
  intro reached outcome holds
  cases outcome with
  | ok result =>
    exact holds
  | error error =>
    exact handles reached error holds

theorem Guarantees.ensuring_invariant
    {cleanup : Coroutine State Error Unit}
    (cleans :
      ∀ reached,
        invariant reached →
        cleanup.Guarantees rely guarantee (fun state _ => invariant state)
          reached) :
    (coroutine.ensuring cleanup).Guarantees rely guarantee
      (fun state _ => invariant state) state := by
  apply guaranteed.after
  intro reached outcome holds
  apply (cleans reached holds).bind_invariant
  intro ended _ holds
  exact guarantees_ofExcept holds

end Invariants

end Invariants

/-! ### Steps in any state -/

/-- Every step changes the state only as it may, whatever the state is. -/
def Steps
    (guarantee : State → State → Prop) :
    Coroutine State Error Result → Prop
  | .finished _ =>
    True
  | .raised _ =>
    True
  | .step change resume =>
    ∀ before, guarantee before (change before) ∧ (resume before).Steps guarantee
  | .await change resume failure =>
    ∀ before,
      guarantee before (change before) ∧
        (resume before).Steps guarantee ∧
          ∀ error, (failure error).Steps guarantee

theorem Steps.after
    {continuation : Except Error Result → Coroutine State Error Next}
    (steps : coroutine.Steps guarantee)
    (continues : ∀ outcome, (continuation outcome).Steps guarantee) :
    (coroutine.after continuation).Steps guarantee := by
  induction coroutine with
  | finished | raised =>
    exact continues _
  | step change resume inductionHypothesis =>
    intro before
    obtain ⟨kept, later⟩ := steps before
    exact ⟨kept, inductionHypothesis before later⟩
  | await change resume failure inductionHypothesis onFailure =>
    intro before
    obtain ⟨kept, later, failed⟩ := steps before
    exact ⟨kept, inductionHypothesis before later,
      fun error => onFailure error (failed error)⟩

theorem Steps.bind
    (steps : coroutine.Steps guarantee)
    (continues : ∀ result, (continuation result).Steps guarantee) :
    (coroutine.bind continuation).Steps guarantee := by
  apply steps.after
  intro outcome
  cases outcome with
  | ok result =>
    exact continues result
  | error error =>
    trivial

theorem Steps.catching
    {handler : Error → Coroutine State Error Result}
    (steps : coroutine.Steps guarantee)
    (handles : ∀ error, (handler error).Steps guarantee) :
    (coroutine.catching handler).Steps guarantee := by
  apply steps.after
  intro outcome
  cases outcome with
  | ok result =>
    trivial
  | error error =>
    exact handles error

theorem steps_finished (result : Result) :
    (finished result : Coroutine State Error Result).Steps guarantee :=
  trivial

theorem steps_raised (error : Error) :
    (raised error : Coroutine State Error Result).Steps guarantee :=
  trivial

theorem steps_ofExcept (outcome : Except Error Result) :
    (ofExcept outcome).Steps guarantee := by
  cases outcome with
  | ok | error =>
    trivial

theorem steps_waitFor
    (kept : ∀ before, guarantee before (change before)) :
    (waitFor change view : Coroutine State Error Result).Steps guarantee :=
  fun before => ⟨kept before, trivial, fun _ => trivial⟩

theorem steps_attempt
    {outcome : State → Except Error Result}
    (kept : ∀ before, guarantee before (change before)) :
    (attempt change outcome).Steps guarantee :=
  fun before => ⟨kept before, steps_ofExcept _⟩

theorem steps_modify
    (kept : ∀ before, guarantee before (change before)) :
    (modify change : Coroutine State Error Unit).Steps guarantee :=
  fun before => ⟨kept before, trivial⟩

theorem steps_read
    (kept : ∀ state, guarantee state state) :
    (read view : Coroutine State Error Result).Steps guarantee :=
  fun before => ⟨kept before, trivial⟩

theorem steps_zoom
    {Part : Type}
    {part : State → Part}
    {replace : Part → State → State}
    (kept : ∀ before changed, guarantee before (replace changed before))
    (coroutine : Coroutine Part Error Result) :
    (coroutine.zoom part replace).Steps guarantee := by
  induction coroutine with
  | finished | raised =>
    trivial
  | step change resume inductionHypothesis =>
    exact fun before => ⟨kept before _, inductionHypothesis _⟩
  | await change resume failure inductionHypothesis onFailure =>
    exact fun before => ⟨kept before _, inductionHypothesis _,
      fun error => onFailure error⟩

theorem Steps.weaken
    {weaker : State → State → Prop}
    (implies : ∀ before after, guarantee before after → weaker before after)
    (steps : coroutine.Steps guarantee) :
    coroutine.Steps weaker := by
  induction coroutine with
  | finished | raised =>
    trivial
  | step change resume inductionHypothesis =>
    intro before
    obtain ⟨kept, later⟩ := steps before
    exact ⟨implies _ _ kept, inductionHypothesis before later⟩
  | await change resume failure inductionHypothesis onFailure =>
    intro before
    obtain ⟨kept, later, failed⟩ := steps before
    exact ⟨implies _ _ kept, inductionHypothesis before later,
      fun error => onFailure error (failed error)⟩

theorem Steps.guarantees
    {small : State → State → Prop}
    {invariant : State → Prop}
    (steps : coroutine.Steps small)
    (stable :
      ∀ before after, rely before after → invariant before → invariant after)
    (kept :
      ∀ before after,
        invariant before → small before after →
        guarantee before after ∧ invariant after)
    (ends : ∀ state outcome, invariant state → post state outcome)
    (start : invariant state) :
    coroutine.Guarantees rely guarantee post state := by
  induction coroutine generalizing state with
  | finished | raised =>
    exact ends _ _ start
  | step change resume inductionHypothesis =>
    intro before relied
    obtain ⟨changed, later⟩ := steps before
    obtain ⟨guaranteed, holds⟩ :=
      kept before _ (stable _ _ relied start) changed
    exact ⟨guaranteed, inductionHypothesis _ later holds⟩
  | await change resume failure inductionHypothesis onFailure =>
    intro before relied
    have holding := stable _ _ relied start
    obtain ⟨changed, later, failed⟩ := steps before
    obtain ⟨guaranteed, holds⟩ := kept before _ holding changed
    exact ⟨guaranteed, inductionHypothesis _ later holds,
      fun error => onFailure error (failed error) holding⟩

end Rules

end Coroutine

end RpaPlatform
