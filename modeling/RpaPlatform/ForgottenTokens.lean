import RpaPlatform.GuacamoleOwnership
import RpaPlatform.SessionActivity

namespace RpaPlatform.Agents

open Transition

/-!
# Tokens that have been forgotten

`_forget_session` stops tracking a token, in every way a session can end.  A
tunnel that was being opened meanwhile is bound when Guacamole answers; if the
token of the tunnel is not tracked then, it is tracked from there on.

Creating a session looks for one and registers it again without an await, so
nothing else happens on the event loop in between; requests of browsers run on
threads of their own.
-/

/-- What happens on a thread of its own. -/
def GuacamoleAction.onThread : GuacamoleAction → Bool
  | bindTunnel _ _ _ => true
  | bindUntracked _ _ => true
  | touch _ _ => true
  | touchTunnel _ _ => true
  | releaseTunnel _ => true
  | _ => false

def GuacamoleAction.isReuse : GuacamoleAction → Bool
  | reuse _ _ => true
  | _ => false

/-- The session that a call is about to register again. -/
def ClientSessionPoint.reused? :
    ClientSessionPoint → Option TrackedRdpSession
  | reusing session => some session
  | _ => none

namespace SessionService

variable (service : SessionService)

def isReusing : Bool :=
  service.calls.any fun call => call.point.reused?.isSome

/-- The tokens that `_forget_session` is called with in a step. -/
def forgets : GuacamoleAction → List String
  | .forget operation =>
    ((service.teardowns[operation]?.bind List.head?).map strip).toList
  | .invalidated call =>
    match service.calls[call]?.map ClientSessionCall.point with
    | some (.invalidating session) => [session.authToken]
    | _ => []
  | _ => []

/-- The tokens that a step can begin to track. -/
def registers : GuacamoleAction → List String
  | .issue _ answer _ => [strip answer.authToken]
  | .reuse call _ =>
    ((service.calls[call]?.bind fun call =>
      call.point.reused?).map fun session =>
        strip session.authToken).toList
  | .bindUntracked thread _ =>
    (service.threads[thread]?.map fun bound => strip bound.1).toList
  | _ => []

end SessionService

/-- The sessions, and the tokens that have been forgotten. -/
structure ForgettingService where
  service : SessionService := {}
  forgotten : List String := []

namespace ForgettingService

/-- One step; between finding a session and registering it again nothing else
happens on the event loop. -/
def step?
    (sys : ForgettingService)
    (action : GuacamoleAction) : Option ForgettingService :=
  if sys.service.isReusing ∧ action.onThread = false ∧
      action.isReuse = false then
    none
  else
    (guacamoleStep? sys.service action).map fun service =>
      { service
        forgotten := sys.forgotten ++ sys.service.forgets action }

def IssuesFresh (sys : ForgettingService) : GuacamoleAction → Prop
  | .issue _ answer _ => strip answer.authToken ∉ sys.forgotten
  | _ => True

/-- A thread that has found no session does not store one for a token that
has been forgotten. -/
def BindsKnown (sys : ForgettingService) : GuacamoleAction → Prop
  | .bindUntracked thread _ =>
    ∀ bound ∈ sys.service.threads[thread]?, strip bound.1 ∉ sys.forgotten
  | _ => True

def Forgets (sys : ForgettingService) : Prop :=
  ∀ token ∈ sys.forgotten, ¬ sys.service.monitor.Tracks token

/-- Forgotten tokens are not tracked in any run. -/
def ForgottenForGood
    (step : ForgettingService → GuacamoleAction → ForgettingService → Prop) :
    Prop :=
  ∀ actions sys, Run step {} actions sys → sys.Forgets

end ForgettingService

/-! ### What a step tracks -/

section Steps

variable
    {before after : SessionService}
    {call : Nat}
    {created : ClientSessionCall}
    {token : String}
    {action : GuacamoleAction}

variable
    {monitor : RdpMonitor}
    {session : TrackedRdpSession}

theorem tracks_of_member
    (member : session ∈ monitor.sessions.rows) :
    monitor.Tracks session.authToken :=
  Option.isSome_iff_exists.mpr
    ⟨session, (monitor.sessions.find?_eq_some_iff).mpr ⟨member, rfl⟩⟩

theorem member_of_getSession
    {authToken : String}
    (found : monitor.getSession authToken = some session) :
    session ∈ monitor.sessions.rows :=
  (monitor.sessions.find?_eq_some_iff.mp
    (RdpMonitor.tracked_of_getSession found)).1

theorem member_of_existing
    {request : ClientSessionRequest}
    (found : request.existing monitor = some session) :
    session ∈ monitor.sessions.rows := by
  unfold ClientSessionRequest.existing at found
  rcases Option.or_eq_some_iff.mp found with isResumed | ⟨_, isLatest⟩
  · unfold ClientSessionRequest.resumed at isResumed
    exact member_of_getSession (Option.filter_eq_some_iff.mp isResumed).1
  · split at isLatest
    · unfold RdpMonitor.getSessionForOwner at isLatest
      dsimp only at isLatest
      split at isLatest
      · cases isLatest
      · have member := TrackedRdpSession.mem_of_latest? isLatest
        exact (List.mem_filter.mp member).1
    · unfold RdpMonitor.getSessionForAgent at isLatest
      dsimp only at isLatest
      split at isLatest
      · cases isLatest
      · have member := TrackedRdpSession.mem_of_latest? isLatest
        exact (List.mem_filter.mp member).1

/-- A step tracks nothing new but what it registers. -/
def TracksOnly
    (before : SessionService)
    (action : GuacamoleAction)
    (after : SessionService) : Prop :=
  ∀ token,
    after.monitor.Tracks token →
    before.monitor.Tracks token ∨ token ∈ before.registers action

theorem tracks_reuse
    {request : ClientSessionRequest}
    {username : String}
    {now : Int} :
    (before.reuse request username session now).Tracks token ↔
      strip session.authToken = token ∧ token ≠ "" ∨
        before.monitor.Tracks token := by
  unfold SessionService.reuse
  dsimp only
  split
  · rw [RdpMonitor.tracks_releaseAllTunnels, RdpMonitor.tracks_registerSession]
  · rw [RdpMonitor.tracks_registerSession]

/-- A step of a call tracks what it registers. -/
theorem tracksOnly_clientSessionStep
    (found : before.calls[call]? = some created)
    (isCall : action.call = some call)
    (stepped : clientSessionStep? before call created action = some after) :
    TracksOnly before action after := by
  intro token tracks
  cases clientSessionTaken stepped with
  | reused isPoint =>
    cases isCall
    rcases tracks_reuse.mp tracks with ⟨rfl, _⟩ | earlier
    · refine .inr ?_
      unfold SessionService.registers
      simp [found, isPoint, ClientSessionPoint.reused?]
    · exact .inl earlier
  | invalidated =>
    exact .inl (RdpMonitor.tracks_removeSession _ |>.mp tracks).2
  | issued =>
    rcases (RdpMonitor.tracks_registerSession _).mp tracks with
      ⟨rfl, _⟩ | earlier
    · exact .inr (List.mem_singleton_self _)
    · exact .inl earlier
  | _ =>
    exact .inl tracks

theorem tracksOnly_trackingStep
    (stepped : trackingStep? before action = some after) :
    TracksOnly before action after := by
  intro token tracks
  unfold trackingStep? at stepped
  split at stepped
  case h_1 | h_3 =>
    cases stepped
    exact .inl tracks
  case h_2 =>
    split at stepped
    · cases stepped
      exact .inl (RdpMonitor.tracks_removeSession _ |>.mp tracks).2
    · cases stepped
  case h_4 =>
    split at stepped
    · cases stepped
    · split at stepped
      · cases stepped
        exact .inl ((RdpMonitor.tracks_addTunnel _ _).mp tracks)
      · cases stepped
        exact .inl tracks
  case h_5 _ thread now =>
    obtain ⟨⟨authToken, tunnelUuid⟩, found, rfl⟩ :=
      Option.map_eq_some_iff.mp stepped
    have stored := (RdpMonitor.tracks_addTunnel _ _).mp tracks
    rcases (RdpMonitor.tracks_storeUntracked _).mp stored with
      ⟨rfl, _⟩ | earlier
    · refine .inr ?_
      unfold SessionService.registers
      simp [found]
    · exact .inl earlier
  case h_6 =>
    cases stepped
    exact .inl ((RdpMonitor.tracks_touchAuthToken _).mp tracks)
  case h_7 =>
    cases stepped
    exact .inl ((RdpMonitor.tracks_touchTunnel _).mp tracks)
  case h_8 =>
    cases stepped
    exact .inl ((RdpMonitor.tracks_releaseTunnel _).mp tracks)
  case h_9 =>
    cases stepped

section Tracking

variable
    (stepped : guacamoleStep? before action = some after)
include stepped

theorem tracksOnly_guacamoleStep :
    TracksOnly before action after := by
  rcases guacamoleStep_cases stepped with
    ⟨call, created, isCall, found, stepped⟩ | ⟨request, _, rfl⟩ | stepped
  · exact tracksOnly_clientSessionStep found isCall stepped
  · exact fun _ tracks => .inl tracks
  · exact tracksOnly_trackingStep stepped

/-! ### Sessions that are about to be registered again -/

theorem tracks_of_harmless
    (harmless : action.onThread = true ∨ action.isReuse = true)
    (tracks : before.monitor.Tracks token) :
    after.monitor.Tracks token := by
  cases action with
  | bindTunnel authToken tunnelUuid now =>
    change trackingStep? before (.bindTunnel authToken tunnelUuid now) =
      some after at stepped
    unfold trackingStep? at stepped
    dsimp only at stepped
    split at stepped
    · cases stepped
    · split at stepped
      · cases stepped
        exact (RdpMonitor.tracks_addTunnel _ _).mpr tracks
      · cases stepped
        exact tracks
  | bindUntracked thread now =>
    change trackingStep? before (.bindUntracked thread now) =
      some after at stepped
    unfold trackingStep? at stepped
    obtain ⟨⟨authToken, tunnelUuid⟩, _, rfl⟩ :=
      Option.map_eq_some_iff.mp stepped
    refine (RdpMonitor.tracks_addTunnel _ _).mpr ?_
    exact (RdpMonitor.tracks_storeUntracked _).mpr (.inr tracks)
  | touch authToken now =>
    cases stepped
    exact (RdpMonitor.tracks_touchAuthToken _).mpr tracks
  | touchTunnel tunnelUuid now =>
    cases stepped
    exact (RdpMonitor.tracks_touchTunnel _).mpr tracks
  | releaseTunnel tunnelUuid =>
    cases stepped
    exact (RdpMonitor.tracks_releaseTunnel _).mpr tracks
  | reuse call now =>
    obtain ⟨created, _, stepped⟩ := Option.bind_eq_some_iff.mp stepped
    cases clientSessionTaken stepped
    exact tracks_reuse.mpr (.inr tracks)
  | _ =>
    simp [GuacamoleAction.onThread, GuacamoleAction.isReuse] at harmless

/-- A call is about to register a session that has just been found. -/
theorem reusing_of_step
    {position : Nat}
    (found : after.calls[position]? = some created)
    (isPoint : created.point = .reusing session) :
    before.calls[position]? = some created ∨
      created.request.existing after.monitor = some session ∧
        created.request.replaces session = false ∧
        ∃ username,
          created.username =
            orText (strip created.request.vmUsername) (strip username) := by
  rcases guacamoleStep_cases stepped with
    ⟨call, calling, _, _, stepped⟩ | ⟨request, _, rfl⟩ | stepped
  · cases clientSessionTaken stepped with
    | @chosen _ username =>
      rcases getElem?_set_cases found with ⟨_, rfl⟩ | ⟨_, earlier⟩
      · right
        dsimp only at isPoint
        unfold SessionService.nextPoint at isPoint
        split at isPoint
        · cases isPoint
        · rename_i isExisting
          split at isPoint
          · cases isPoint
          · rename_i isKept
            cases isPoint
            refine ⟨isExisting, Bool.eq_false_iff.mpr isKept, username, ?_⟩
            dsimp only
      · exact .inl earlier
    | _ =>
      rcases getElem?_set_cases found with ⟨_, rfl⟩ | ⟨_, earlier⟩
      · cases isPoint
      · exact .inl earlier
  · rcases getElem?_append_cases found with rfl | earlier
    · cases isPoint
    · exact .inl earlier
  · obtain ⟨_, sameCalls⟩ := trackingStep_noNewOwner stepped
    rw [sameCalls] at found
    exact .inl found

theorem not_tracks_of_forgets
    (forgotten : token ∈ before.forgets action) :
    ¬ after.monitor.Tracks token := by
  unfold SessionService.forgets at forgotten
  split at forgotten
  case h_1 _ operation =>
    obtain ⟨authToken, isNext, rfl⟩ :=
      Option.map_eq_some_iff.mp (Option.mem_toList.mp forgotten)
    obtain ⟨remaining, found, isHead⟩ := Option.bind_eq_some_iff.mp isNext
    obtain ⟨rest, rfl⟩ := List.head?_eq_some_iff.mp isHead
    change trackingStep? before (.forget operation) = some after at stepped
    unfold trackingStep? at stepped
    dsimp only at stepped
    rw [found] at stepped
    cases stepped
    intro tracks
    exact ((RdpMonitor.tracks_removeSession authToken).mp tracks).1 rfl
  case h_2 _ call =>
    split at forgotten
    · rename_i session isPoint
      obtain rfl := List.mem_singleton.mp forgotten
      obtain ⟨created, found, isPoint⟩ := Option.map_eq_some_iff.mp isPoint
      obtain ⟨calling, isCalling, stepped⟩ :=
        Option.bind_eq_some_iff.mp stepped
      obtain rfl := Option.some.inj (found.symm.trans isCalling)
      unfold clientSessionStep? at stepped
      dsimp only at stepped
      rw [isPoint] at stepped
      cases stepped
      intro tracks
      exact
        ((RdpMonitor.tracks_removeSession session.authToken).mp tracks).1
          session.clean
    · cases forgotten
  case h_3 =>
    cases forgotten

end Tracking

end Steps

/-! ### Forgotten tokens stay forgotten -/

namespace ForgettingService

/-- What holds between steps. -/
structure Settled (sys : ForgettingService) : Prop where
  forgets : sys.Forgets
  /-- A session that is about to be registered again is tracked. -/
  reusesTracked :
    ∀ {call : Nat} {created : ClientSessionCall}
        {session : TrackedRdpSession},
      sys.service.calls[call]? = some created →
      created.point = .reusing session →
      sys.service.monitor.Tracks session.authToken

variable
    {before after : ForgettingService}
    {action : GuacamoleAction}

theorem step_cases
    (stepped : step? before action = some after) :
    (before.service.isReusing = false ∨ action.onThread = true ∨
        action.isReuse = true) ∧
      guacamoleStep? before.service action = some after.service ∧
      after.forgotten = before.forgotten ++ before.service.forgets action := by
  unfold step? at stepped
  split at stepped
  · cases stepped
  · rename_i allowed
    obtain ⟨service, taken, rfl⟩ := Option.map_eq_some_iff.mp stepped
    refine ⟨?_, taken, rfl⟩
    by_contra refused
    simp only [not_or, Bool.not_eq_false, Bool.not_eq_true] at refused
    exact allowed refused

theorem isReusing_of_point
    {service : SessionService}
    {call : Nat}
    {created : ClientSessionCall}
    {session : TrackedRdpSession}
    (found : service.calls[call]? = some created)
    (isPoint : created.point = .reusing session) :
    service.isReusing = true := by
  unfold SessionService.isReusing
  refine List.any_eq_true.mpr ⟨created, List.mem_of_getElem? found, ?_⟩
  rw [isPoint]
  rfl

theorem reusesTracked_of_step
    (settled : before.Settled)
    (stepped : step? before action = some after)
    {call : Nat}
    {created : ClientSessionCall}
    {session : TrackedRdpSession}
    (found : after.service.calls[call]? = some created)
    (isPoint : created.point = .reusing session) :
    after.service.monitor.Tracks session.authToken := by
  obtain ⟨allowed, taken, _⟩ := step_cases stepped
  rcases reusing_of_step taken found isPoint with
    earlier | ⟨isExisting, _, _⟩
  · have isReusing := isReusing_of_point earlier isPoint
    rcases allowed with notReusing | harmless
    · rw [isReusing] at notReusing
      cases notReusing
    · exact
        tracks_of_harmless taken harmless
          (settled.reusesTracked earlier isPoint)
  · exact tracks_of_member (member_of_existing isExisting)

theorem registers_not_forgotten
    (settled : before.Settled)
    (fresh : before.IssuesFresh action)
    (known : before.BindsKnown action)
    {token : String}
    (registered : token ∈ before.service.registers action) :
    token ∉ before.forgotten := by
  unfold SessionService.registers at registered
  split at registered
  case h_1 =>
    obtain rfl := List.mem_singleton.mp registered
    exact fresh
  case h_2 =>
    obtain ⟨session, isReused, rfl⟩ :=
      Option.map_eq_some_iff.mp (Option.mem_toList.mp registered)
    obtain ⟨created, found, isPoint⟩ := Option.bind_eq_some_iff.mp isReused
    rw [session.clean]
    intro forgotten
    refine settled.forgets _ forgotten (settled.reusesTracked found ?_)
    revert isPoint
    unfold ClientSessionPoint.reused?
    split
    · rintro ⟨⟩
      assumption
    · nofun
  case h_3 =>
    obtain ⟨bound, found, rfl⟩ :=
      Option.map_eq_some_iff.mp (Option.mem_toList.mp registered)
    exact known bound found
  case h_4 =>
    cases registered

theorem Settled.step
    (settled : before.Settled)
    (stepped : step? before action = some after)
    (fresh : before.IssuesFresh action)
    (known : before.BindsKnown action) :
    after.Settled where
  reusesTracked := reusesTracked_of_step settled stepped
  forgets := by
    obtain ⟨_, taken, isForgotten⟩ := step_cases stepped
    intro token forgotten tracks
    rw [isForgotten] at forgotten
    rcases List.mem_append.mp forgotten with earlier | isNew
    · rcases tracksOnly_guacamoleStep taken token tracks with
        tracked | registered
      · exact settled.forgets token earlier tracked
      · exact registers_not_forgotten settled fresh known registered earlier
    · exact not_tracks_of_forgets taken isNew tracks

theorem settled_started : ({} : ForgettingService).Settled where
  forgets := nofun
  reusesTracked := nofun

/-- Tokens stay forgotten while no thread stores one of them. -/
theorem forgottenForGood_of_bindsKnown
    {actions : List GuacamoleAction}
    {sys : ForgettingService}
    (run :
      Run
        (Guarded (Fires step?) fun sys action =>
          sys.IssuesFresh action ∧ sys.BindsKnown action)
        {} actions sys) :
    sys.Forgets := by
  have stepPreserves :
      ∀ (earlier : ForgettingService) action later,
        Guarded (Fires step?)
            (fun sys action =>
              sys.IssuesFresh action ∧ sys.BindsKnown action)
            earlier action later →
        earlier.Settled →
        later.Settled :=
    fun _ _ _ taken settled =>
      settled.step taken.1 taken.2.1 taken.2.2
  exact (run.preserves stepPreserves settled_started).forgets

/-! ### A tunnel that is bound when its session has ended -/

instance (sys : ForgettingService) (action : GuacamoleAction) :
    Decidable (sys.IssuesFresh action) :=
  match action with
  | .issue _ answer _ =>
    inferInstanceAs (Decidable (strip answer.authToken ∉ sys.forgotten))
  | .request _ | .choose _ _ | .reuse _ _ | .invalidated _ | .closed _
  | .opened _ _ | .fail _ | .teardown _ | .forget _ | .abandon _
  | .bindTunnel _ _ _ | .bindUntracked _ _ | .touch _ _
  | .touchTunnel _ _ | .releaseTunnel _ =>
    inferInstanceAs (Decidable True)

instance (sys : ForgettingService) (action : GuacamoleAction) :
    Decidable (sys.BindsKnown action) :=
  match action with
  | .bindUntracked thread _ =>
    inferInstanceAs
      (Decidable
        (∀ bound ∈ sys.service.threads[thread]?, strip bound.1 ∉ sys.forgotten))
  | .request _ | .choose _ _ | .reuse _ _ | .invalidated _ | .closed _
  | .issue _ _ _ | .opened _ _ | .fail _ | .teardown _ | .forget _
  | .abandon _ | .bindTunnel _ _ _ | .touch _ _ | .touchTunnel _ _
  | .releaseTunnel _ =>
    inferInstanceAs (Decidable True)

/-- A session is issued. -/
def issued : List GuacamoleAction :=
  [.request { agentId := "agent-1", user := none },
    .choose 0 "user-1",
    .issue 0 { authToken := "token-1" } 10]

/-- The session is reused, and revoked with its tunnel bound. -/
def revokedAfterBind : List GuacamoleAction :=
  issued ++
    [.bindTunnel "token-1" "tunnel-1" 11,
      .opened 0 "tunnel-1",
      .request { agentId := "agent-1", user := none },
      .choose 1 "user-1",
      .touch "token-1" 12,
      .reuse 1 12,
      .teardown (.revoke "token-1"),
      .forget 0,
      .touchTunnel "tunnel-1" 13]

theorem revokedAfterBind_forgets :
    ∃ sys : ForgettingService,
      Run
          (Guarded (Fires step?) fun sys action =>
            sys.IssuesFresh action ∧ sys.BindsKnown action)
          {} revokedAfterBind sys ∧
        "token-1" ∈ sys.forgotten ∧ sys.Forgets := by
  obtain ⟨sys, checkedRun, forgotten⟩ :=
    exists_run_of_execute
      (show (execute
          (checked step? fun sys action =>
            sys.IssuesFresh action ∧ sys.BindsKnown action)
          {} revokedAfterBind).any
          (fun sys => decide ("token-1" ∈ sys.forgotten)) = true by
        decide +kernel)
  have run := checkedRun.guarded_of_checked
  exact
    ⟨sys, run, of_decide_eq_true forgotten, forgottenForGood_of_bindsKnown run⟩

/-- The session is revoked before Guacamole answers to the tunnel. -/
def revokedBeforeBind : List GuacamoleAction :=
  issued ++
    [.teardown (.revoke "token-1"),
      .forget 0,
      .bindTunnel "token-1" "tunnel-1" 11,
      .bindUntracked 0 11]

/-- Fresh tokens alone do not keep a forgotten token from being tracked. -/
theorem not_forgottenForGood :
    ¬ ForgottenForGood (Guarded (Fires step?) IssuesFresh) := by
  intro claimed
  obtain ⟨sys, checkedRun, tracked⟩ :=
    exists_run_of_execute
      (show (execute (checked step? IssuesFresh) {} revokedBeforeBind).any
          (fun sys =>
            decide ("token-1" ∈ sys.forgotten) &&
              (sys.service.monitor.sessions.find? "token-1").isSome) =
            true by
        decide +kernel)
  rw [Bool.and_eq_true, decide_eq_true_eq] at tracked
  exact claimed _ _ checkedRun.guarded_of_checked "token-1" tracked.1 tracked.2

end ForgettingService

end RpaPlatform.Agents
