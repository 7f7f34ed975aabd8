import RpaPlatform.ExpiryEffects

namespace RpaPlatform.Agents

open Transition

/-!
# Expiry spares sessions that are in use

A delayed close looks at the time of the last activity before it calls
Guacamole, so it spares every session that was in use at a later time than it
was scheduled at; a sweep does not look again.  A coroutine forgets a session
when its call has ended, unless it is cancelled meanwhile.
-/

namespace ExpiringService

/-! ### The invariants -/

/-- What has been invalidated is waited for, or not tracked. -/
def Settled (service : ExpiringService) : Prop :=
  ∀ call invalidation,
    service.invalidations[call]? = some invalidation →
    invalidation.outcome = some true →
    service.awaits? invalidation.decider =
        some (invalidation.authToken, call) ∨
      ¬ service.monitor.Tracks invalidation.authToken

def Spares (service : ExpiringService) : Prop :=
  ∀ call ∈ service.invalidations, call.authToken ∉ call.between

variable
    {service before after : ExpiringService}
    {authToken : String}
    {now : Int}

theorem Skips.quiet
    (skips : before.Skips)
    (decides : DelayedCloses.Decides before.closes after.closes)
    (lastActivity :
      ∀ {key time},
        after.monitor.lastActivity? key = some time →
        before.monitor.lastActivity? key = some time)
    (activities : after.activities = before.activities)
    (scheduledAfter : after.scheduledAfter = before.scheduledAfter) :
    after.Skips where
  aligned := by
    rw [scheduledAfter, decides.length]
    exact skips.aligned
  skips := by
    intro position task since isTask isSince isUndecided wasActive time last
    obtain ⟨earlier, isEarlier, wasUndecided, sameToken, sameTime⟩ :=
      decides.undecided isTask isUndecided
    rw [scheduledAfter] at isSince
    rw [activities, ← sameToken] at wasActive
    rw [← sameToken] at last
    rw [← sameTime]
    exact
      skips.skips isEarlier isSince wasUndecided wasActive time
        (lastActivity last)

theorem Skips.observe
    (skips : service.Skips)
    {activity : Activity}
    (later : service.ActsLater (.observe activity now)) :
    (service.observe activity now).Skips := by
  unfold ExpiringService.observe
  split
  · exact skips
  rename_i authToken isOf
  split
  · exact skips
  rename_i named
  have decides :
      DelayedCloses.Decides service.closes
        (if activity.cancels then service.closes.cancel authToken
          else service.closes) := by
    split
    · exact .cancel _ _
    · exact .refl _
  have later := later authToken isOf
  constructor
  · exact skips.aligned.trans decides.length.symm
  · dsimp only
    intro position task since isTask isSince isUndecided wasActive time last
    rw [Option.mem_def, Activity.lastActivity_observe isOf named] at last
    split at last
    · rename_i same
      have isNow : time = now := by
        split at last
        · exact (Option.some.inj last).symm
        · obtain ⟨_, _, rfl⟩ := Option.map_eq_some_iff.mp last
          rfl
      rw [isNow]
      exact later task (List.mem_of_getElem? isTask) isUndecided same
    · rename_i other
      obtain ⟨earlier, isEarlier, wasUndecided, sameToken, sameTime⟩ :=
        decides.undecided isTask isUndecided
      rw [← sameToken] at last wasActive other
      rw [List.drop_append, List.mem_append] at wasActive
      rw [← sameTime]
      refine skips.skips isEarlier isSince wasUndecided ?_ time last
      refine wasActive.resolve_right fun isNew => other ?_
      exact List.mem_singleton.mp (List.mem_of_mem_drop isNew)

theorem Skips.schedule
    (skips : service.Skips) : (service.schedule authToken now).Skips := by
  unfold ExpiringService.schedule
  split
  · exact skips
  rename_i named
  have cancelled :
      Skips { service with closes := service.closes.cancel authToken } :=
    skips.quiet (.cancel _ _) id rfl rfl
  have aligned := cancelled.aligned
  dsimp only at aligned
  have tasks :
      (service.closes.schedule authToken now).tasks =
        (service.closes.cancel authToken).tasks ++
          [{ authToken := strip authToken
             scheduledAt := now
             clean := strip_strip authToken
             nonempty := named }] := by
    unfold DelayedCloses.schedule
    rw [dif_neg named]
  constructor
  · dsimp only
    rw [tasks, List.length_append, List.length_append, aligned]
    rfl
  · dsimp only
    rw [tasks]
    intro position task since isTask isSince isUndecided wasActive
    by_cases isNew : position = service.scheduledAfter.length
    · rw [isNew, List.getElem?_concat_length] at isSince
      cases isSince
      rw [List.drop_length] at wasActive
      cases wasActive
    · have inside : position < service.scheduledAfter.length := by
        obtain ⟨within, _⟩ := List.getElem?_eq_some_iff.mp isSince
        rw [List.length_append, List.length_singleton] at within
        omega
      rw [List.getElem?_append_left (aligned ▸ inside)] at isTask
      rw [List.getElem?_append_left inside] at isSince
      exact cancelled.skips isTask isSince isUndecided wasActive

/-! ### What is waited for -/

theorem Settled.step
    (settled : before.Settled)
    {begun : List Invalidation}
    (invalidations : after.invalidations = before.invalidations ++ begun)
    (running : ∀ call ∈ begun, call.outcome = none)
    (leaves :
      ∀ {decider : Decider} {waited : String × Nat},
        before.awaits? decider = some waited →
        after.awaits? decider = some waited ∨
          ¬ after.monitor.Tracks waited.1 ∨
          ∀ call ∈ before.invalidations[waited.2]?, call.outcome ≠ some true)
    (registers :
      ∀ {key : String},
        after.monitor.Tracks key →
        before.monitor.Tracks key ∨
          ∀ call ∈ before.invalidations,
            call.authToken = key → call.outcome ≠ some true) :
    after.Settled := by
  intro call invalidation isCall succeeded
  rw [invalidations] at isCall
  have isEarlier : before.invalidations[call]? = some invalidation := by
    rw [List.getElem?_append] at isCall
    split at isCall
    · exact isCall
    · have notEnded := running _ (List.mem_of_getElem? isCall)
      rw [succeeded] at notEnded
      cases notEnded
  rcases settled _ _ isEarlier succeeded with awaited | untracked
  · rcases leaves awaited with still | forgotten | failed
    · exact .inl still
    · exact .inr forgotten
    · exact absurd succeeded (failed invalidation isEarlier)
  · right
    intro tracks
    rcases registers tracks with tracked | failed
    · exact untracked tracked
    · exact failed invalidation (List.mem_of_getElem? isEarlier) rfl succeeded

/-! ### Every step keeps the invariants -/

section Steps

variable {action : ExpiryAction}

theorem lastActivity_of_forgets
    (monitor :
      after.monitor = before.monitor ∨
        ∃ authToken, after.monitor = before.monitor.removeSession authToken)
    {key : String}
    {time : Int}
    (last : after.monitor.lastActivity? key = some time) :
    before.monitor.lastActivity? key = some time := by
  rcases monitor with same | ⟨removed, isRemoved⟩
  · rwa [same] at last
  · rw [isRemoved, RdpMonitor.lastActivity_removeSession] at last
    split at last
    · cases last
    · exact last

theorem tracks_of_forgets
    (monitor :
      after.monitor = before.monitor ∨
        ∃ authToken, after.monitor = before.monitor.removeSession authToken)
    {key : String}
    (tracks : after.monitor.Tracks key) : before.monitor.Tracks key := by
  rw [RdpMonitor.tracks_iff_lastActivity] at tracks ⊢
  obtain ⟨time, last⟩ := Option.isSome_iff_exists.mp tracks
  exact Option.isSome_iff_exists.mpr
    ⟨time, lastActivity_of_forgets monitor last⟩

theorem Skips.step
    (skips : before.Skips)
    (effect : Effect before action after)
    (later : before.ActsLater action) : after.Skips := by
  cases effect with
  | observed isAction isAfter =>
    subst isAction isAfter
    exact skips.observe later
  | scheduled isAfter =>
    subst isAfter
    exact skips.schedule
  | quiet decides monitor activities scheduledAfter _ _ =>
    exact
      skips.quiet decides (lastActivity_of_forgets monitor) activities
        scheduledAfter
  | begun decides monitor activities scheduledAfter _ _ _ =>
    exact
      skips.quiet decides (lastActivity_of_forgets (.inl monitor))
        activities scheduledAfter
  | ended _ _ isAfter =>
    subst isAfter
    exact skips.quiet (.refl _) id rfl rfl

theorem invalidations_observe (activity : Activity) (now : Int) :
    (service.observe activity now).invalidations = service.invalidations := by
  unfold observe
  split
  · rfl
  · split <;> rfl

theorem Spares.step
    (spares : before.Spares)
    (skips : before.Skips)
    (effect : Effect before action after)
    (isIdle : before.SweepsIdle action) : after.Spares := by
  intro call isCall
  cases effect with
  | observed _ isAfter =>
    subst isAfter
    rw [invalidations_observe] at isCall
    exact spares call isCall
  | @scheduled authToken now isAfter =>
    subst isAfter
    refine spares call ?_
    unfold schedule at isCall
    split at isCall
    · exact isCall
    · exact isCall
  | quiet _ _ _ _ invalidations _ =>
    rw [invalidations] at isCall
    exact spares call isCall
  | begun _ _ _ _ invalidations _ isSpared =>
    rw [invalidations] at isCall
    rcases List.mem_append.mp isCall with earlier | isNew
    · exact spares call earlier
    · obtain rfl := List.mem_singleton.mp isNew
      exact isSpared skips isIdle
  | ended _ isEarlier isAfter =>
    subst isAfter
    rcases List.mem_or_eq_of_mem_set isCall with earlier | rfl
    · exact spares call earlier
    · have spared := spares _ (List.mem_of_getElem? isEarlier)
      exact spared

theorem awaits_observe
    (activity : Activity)
    (now : Int)
    (decider : Decider) :
    (service.observe activity now).awaits? decider =
      service.awaits? decider := by
  unfold observe
  split
  · rfl
  split
  · rfl
  cases decider with
  | close position =>
    unfold awaits?
    dsimp only
    split
    · exact DelayedCloses.awaits_cancel _ position
    · rfl
  | sweep position =>
    rfl

theorem Settled.observe
    (settled : service.Settled)
    {activity : Activity}
    (valid : service.RegistersValid (.observe activity now)) :
    (service.observe activity now).Settled := by
  refine
    settled.step ((invalidations_observe _ _).trans (List.append_nil _).symm)
      nofun (fun awaited => .inl ?_) ?_
  · rw [awaits_observe]
    exact awaited
  · intro key tracks
    unfold ExpiringService.observe at tracks
    split at tracks
    · exact .inl tracks
    rename_i authToken isOf
    split at tracks
    · exact .inl tracks
    rename_i named
    rcases Activity.tracks_observe isOf named tracks with
      tracked | ⟨isRegistered, rfl⟩
    · exact .inl tracked
    · exact valid isRegistered key isOf

theorem awaits_schedule
    {decider : Decider}
    {waited : String × Nat}
    (awaited : service.awaits? decider = some waited) :
    (service.schedule authToken now).awaits? decider = some waited := by
  unfold ExpiringService.schedule
  split
  · exact awaited
  · cases decider with
    | close position =>
      exact DelayedCloses.awaits_schedule _ _ awaited
    | sweep position =>
      exact awaited

theorem Settled.schedule
    (settled : service.Settled) :
    (service.schedule authToken now).Settled := by
  have monitor :
      (service.schedule authToken now).monitor = service.monitor := by
    unfold ExpiringService.schedule
    split <;> rfl
  have invalidations :
      (service.schedule authToken now).invalidations =
        service.invalidations := by
    unfold ExpiringService.schedule
    split <;> rfl
  refine
    settled.step (invalidations.trans (List.append_nil _).symm) nofun
      (fun awaited => .inl (awaits_schedule awaited)) ?_
  intro key tracks
  rw [monitor] at tracks
  exact .inl tracks

theorem Settled.ended
    (settled : before.Settled)
    {call : Nat}
    {succeeded : Bool}
    {invalidation : Invalidation}
    (isCall : before.invalidations[call]? = some invalidation)
    (awaited :
      succeeded = true →
      before.awaits? invalidation.decider =
        some (invalidation.authToken, call)) :
    Settled
      { before with
        invalidations :=
          before.invalidations.set call
            { invalidation with outcome := some succeeded } } := by
  intro position ended isEnded hasSucceeded
  rcases getElem?_set_cases isEnded with ⟨rfl, rfl⟩ | ⟨_, isEarlier⟩
  · exact .inl (awaited (Option.some.inj hasSucceeded))
  · exact settled _ _ isEarlier hasSucceeded

theorem losesNone_of_interrupts
    {decider : Decider}
    (calls : before.AwaitsCalls action)
    (interrupts : interrupts? action = some decider) :
    before.LosesNone decider := by
  unfold interrupts? at interrupts
  split at interrupts
  · cases interrupts
    exact calls
  · cases interrupts
    exact calls
  · cases interrupts

theorem Settled.of_effect
    (settled : before.Settled)
    (effect : Effect before action after)
    (calls : before.AwaitsCalls action)
    (valid : before.RegistersValid action) : after.Settled := by
  cases effect with
  | observed isAction isAfter =>
    subst isAction isAfter
    exact settled.observe valid
  | scheduled isAfter =>
    subst isAfter
    exact settled.schedule
  | quiet _ monitor _ _ invalidations leaves =>
    refine
      settled.step (invalidations.trans (List.append_nil _).symm) nofun ?_
        fun tracks => .inl (tracks_of_forgets monitor tracks)
    intro decider waited awaited
    rcases leaves decider waited awaited with
      same | forgotten | interrupts
    · exact .inl same
    · exact .inr (.inl forgotten)
    · exact .inr (.inr (losesNone_of_interrupts calls interrupts _ awaited))
  | begun _ monitor _ _ invalidations keeps _ =>
    refine
      settled.step invalidations ?_
        (fun awaited => .inl (keeps _ _ awaited))
        fun tracks => .inl (tracks_of_forgets (.inl monitor) tracks)
    intro call isNew
    obtain rfl := List.mem_singleton.mp isNew
    rfl
  | ended isAction isCall isAfter =>
    subst isAction isAfter
    exact settled.ended isCall fun succeeded => calls succeeded _ isCall

end Steps

theorem awaits_of_ended
    {decider : Decider}
    (ended : service.Ended decider) :
    service.awaits? decider = none := by
  cases decider with
  | close position =>
    obtain ⟨task, isTask, isFinished⟩ := ended
    unfold awaits? CloseTask.awaits?
    simp [isTask, isFinished]
  | sweep position =>
    obtain ⟨sweep, isSweep, isEnded⟩ := ended
    unfold awaits? Sweep.awaits?
    simp [isSweep, isEnded]

/-- Expiry spares sessions that are in use while it is not disturbed. -/
theorem sparesActive_of_undisturbed
    {idleTimeoutSeconds : Int}
    {actions : List ExpiryAction}
    {service : ExpiringService}
    (run :
      Run (Guarded (Fires step?) Undisturbed)
        { monitor := { idleTimeoutSeconds } } actions service) :
    service.SparesActive := by
  have stepPreserves :
      ∀ (before : ExpiringService) action after,
        Guarded (Fires step?) Undisturbed before action after →
        before.Skips ∧ before.Spares ∧ before.Settled →
        after.Skips ∧ after.Spares ∧ after.Settled := by
    rintro before action after ⟨stepped, isIdle, later, calls, valid⟩
      ⟨skips, spares, settled⟩
    have effect := effect_of_step stepped
    exact
      ⟨skips.step effect later, Spares.step spares skips effect isIdle,
        Settled.of_effect settled effect calls valid⟩
  have start :
      Skips { monitor := { idleTimeoutSeconds } } ∧
        Spares { monitor := { idleTimeoutSeconds } } ∧
        Settled { monitor := { idleTimeoutSeconds } } := by
    refine ⟨⟨rfl, ?_⟩, ?_, ?_⟩
    · intro position task since isTask
      cases isTask
    · intro call isCall
      cases isCall
    · intro call invalidation isCall
      cases isCall
  obtain ⟨_, spares, settled⟩ := run.preserves stepPreserves start
  refine ⟨spares, ?_⟩
  intro call isCall succeeded ended
  obtain ⟨position, isAt⟩ := List.mem_iff_getElem?.mp isCall
  refine (settled _ _ isAt succeeded).resolve_left fun awaited => ?_
  rw [awaits_of_ended ended] at awaited
  cases awaited

/-! ### Runs that are disturbed, and runs that are not -/

instance (service : ExpiringService) (action : ExpiryAction) :
    Decidable (service.SweepsIdle action) :=
  match action with
  | .nextSession position =>
    inferInstanceAs
      (Decidable
        (∀ sweep ∈ service.sweeps[position]?,
          sweep.bridged = true →
          ∀ authToken ∈ sweep.remaining.head?,
            authToken ∉ service.activities.drop sweep.selectedAt))
  | .observe _ _ | .closeSocket _ | .forget _ | .shutdown | .schedule _ _
  | .cancel _ | .start _ | .wake _ _ | .resume _ | .finish _ | .unwind _
  | .sweep _ _ | .resumeSweep _ | .abort _ | .endCall _ _ =>
    inferInstanceAs (Decidable True)

instance (service : ExpiringService) (action : ExpiryAction) :
    Decidable (service.ActsLater action) :=
  match action with
  | .observe activity now =>
    inferInstanceAs
      (Decidable
        (∀ authToken ∈ activity.authToken? service.monitor,
          ∀ task ∈
              (if activity.cancels then service.closes.cancel authToken
                else service.closes).tasks,
            task.isUndecided = true →
            task.authToken = authToken →
            task.scheduledAt < now))
  | .closeSocket _ | .forget _ | .shutdown | .schedule _ _ | .cancel _
  | .start _ | .wake _ _ | .resume _ | .finish _ | .unwind _ | .sweep _ _
  | .resumeSweep _ | .nextSession _ | .abort _ | .endCall _ _ =>
    inferInstanceAs (Decidable True)

instance (service : ExpiringService) (decider : Decider) :
    Decidable (service.LosesNone decider) :=
  inferInstanceAs
    (Decidable
      (∀ waited ∈ service.awaits? decider,
        ∀ call ∈ service.invalidations[waited.2]?, call.outcome ≠ some true))

instance (service : ExpiringService) (action : ExpiryAction) :
    Decidable (service.AwaitsCalls action) :=
  match action with
  | .unwind position =>
    inferInstanceAs (Decidable (service.LosesNone (.close position)))
  | .abort position =>
    inferInstanceAs (Decidable (service.LosesNone (.sweep position)))
  | .endCall call succeeded =>
    inferInstanceAs
      (Decidable
        (succeeded = true →
          ∀ invalidation ∈ service.invalidations[call]?,
            service.awaits? invalidation.decider =
              some (invalidation.authToken, call)))
  | .observe _ _ | .closeSocket _ | .forget _ | .shutdown | .schedule _ _
  | .cancel _ | .start _ | .wake _ _ | .resume _ | .finish _ | .sweep _ _
  | .resumeSweep _ | .nextSession _ =>
    inferInstanceAs (Decidable True)

instance (service : ExpiringService) (action : ExpiryAction) :
    Decidable (service.RegistersValid action) :=
  match action with
  | .observe activity _ =>
    inferInstanceAs
      (Decidable
        (activity.registers = true →
          ∀ authToken ∈ activity.authToken? service.monitor,
            (service.monitor.sessions.find? authToken).isSome = true ∨
              ∀ call ∈ service.invalidations,
                call.authToken = authToken → call.outcome ≠ some true))
  | .closeSocket _ | .forget _ | .shutdown | .schedule _ _ | .cancel _
  | .start _ | .wake _ _ | .resume _ | .finish _ | .unwind _ | .sweep _ _
  | .resumeSweep _ | .nextSession _ | .abort _ | .endCall _ _ =>
    inferInstanceAs (Decidable True)

instance (service : ExpiringService) (action : ExpiryAction) :
    Decidable (service.Undisturbed action) :=
  inferInstanceAs
    (Decidable
      (service.SweepsIdle action ∧ service.ActsLater action ∧
        service.AwaitsCalls action ∧ service.RegistersValid action))

def twoSessions : List ExpiryAction :=
  [.observe (.register { authToken := "token-1" }) 10,
    .observe (.register { authToken := "token-2" }) 10]

/-- A close is cancelled by a websocket; then the first session is closed
later, and the second one expires. -/
def bothEnded : List ExpiryAction :=
  twoSessions ++
    [.schedule "token-1" 20, .start 0,
      .observe (.openSocket "token-1") 21, .unwind 0,
      .closeSocket "token-1",
      .schedule "token-1" 30, .start 1, .wake 1 true,
      .observe (.bindTunnel "token-2" "tunnel-2") 36,
      .endCall 0 true, .resume 1, .finish 1,
      .sweep 1000 true, .endCall 1 true, .resumeSweep 0, .nextSession 0]

theorem bothEnded_sparesActive :
    ∃ service : ExpiringService,
      Run (Guarded (Fires step?) Undisturbed)
          { monitor := { idleTimeoutSeconds := 900 } } bothEnded service ∧
        service.invalidations.map (·.outcome) = [some true, some true] ∧
        service.SparesActive := by
  obtain ⟨service, checkedRun, ended⟩ :=
    exists_run_of_execute
      (show
        (execute (checked step? Undisturbed)
            { monitor := { idleTimeoutSeconds := 900 } }
            bothEnded).any (fun service =>
              decide
                (service.invalidations.map (·.outcome) =
                  [some true, some true])) = true by
        decide +kernel)
  have run := checkedRun.guarded_of_checked
  exact ⟨service, run, of_decide_eq_true ended, sparesActive_of_undisturbed run⟩

/-- The second session is in use while the first one is invalidated. -/
def sweptInUse : List ExpiryAction :=
  twoSessions ++
    [.sweep 1000 true, .observe (.mark "token-2") 1001, .endCall 0 true,
      .resumeSweep 0, .nextSession 0]

/-- A sweep invalidates a token that has been in use since it began. -/
theorem not_expirySparesActive : ¬ ExpirySparesActive (Fires step?) := by
  intro claimed
  obtain ⟨service, run, swept⟩ :=
    exists_run_of_execute
      (show
        (execute step? { monitor := { idleTimeoutSeconds := 900 } }
            sweptInUse).any (fun service =>
              service.invalidations.any fun call =>
                decide (call.authToken ∈ call.between)) = true by
        decide +kernel)
  obtain ⟨call, isCall, inUse⟩ := List.any_eq_true.mp swept
  exact
    (claimed 900 sweptInUse service run).spares call isCall
      (of_decide_eq_true inUse)

end ExpiringService

end RpaPlatform.Agents
