import RpaPlatform.GuacamoleSessions

namespace RpaPlatform.Agents

open Transition
open SessionService

/-!
# Who owns which session

A user's calls exclude each other by the user's lock, and nothing but a call
makes a user the owner of a session.  So a user owns one session at most, and a
call for the user returns a token that was issued in it or was the user's when
it was chosen.
-/

/-! ### The claim -/

/-- No two tracked sessions have the same owner. -/
def OneSessionPerOwner (monitor : RdpMonitor) : Prop :=
  ∀ first ∈ monitor.sessions.rows,
    ∀ second ∈ monitor.sessions.rows,
      first.ownerSubject ≠ "" →
      first.ownerSubject = second.ownerSubject →
      first = second

/-- Guacamole has issued a token in a call. -/
def IssuedIn
    (actions : List GuacamoleAction)
    (call : Nat)
    (authToken : String) : Prop :=
  ∃ answer now, .issue call answer now ∈ actions ∧ answer.authToken = authToken

/-- A call has chosen a token that was tracked as a subject's then. -/
def ChosenFor
    (actions : List GuacamoleAction)
    (call : Nat)
    (subject authToken : String) : Prop :=
  ∃ earlier username later choosing,
    actions = earlier ++ .choose call username :: later ∧
      Run (Fires guacamoleStep?) {} earlier choosing ∧
      ∃ session ∈ choosing.monitor.sessions.rows,
        session.authToken = authToken ∧ session.ownerSubject = subject

/-- The tokens that calls have returned to users are the users' own. -/
def ReturnsOwnTokens
    (actions : List GuacamoleAction)
    (service : SessionService) : Prop :=
  ∀ call created session,
    service.calls[call]? = some created →
    created.request.ownerSubject ≠ "" →
    created.point = .returned session →
    IssuedIn actions call session.authToken ∨
      ChosenFor actions call created.request.ownerSubject session.authToken

/-! ### Choosing a session -/

section Choosing

variable
    {request : ClientSessionRequest}
    {monitor : RdpMonitor}

theorem owns_of_existing
    (named : request.ownerSubject ≠ "")
    {session : TrackedRdpSession}
    (found : request.existing monitor = some session) :
    monitor.Owns request.ownerSubject session.authToken := by
  unfold ClientSessionRequest.existing at found
  rw [if_pos named] at found
  rcases Option.or_eq_some_iff.mp found with resumed | ⟨_, latest⟩
  · obtain ⟨tracked, accepted⟩ := Option.filter_eq_some_iff.mp resumed
    have stored := RdpMonitor.tracked_of_getSession tracked
    have isToken := monitor.sessions.key_of_find? stored
    refine ⟨session, by rw [isToken]; exact stored, ?_⟩
    rw [Bool.and_eq_true] at accepted
    simpa [named] using accepted.2
  · unfold RdpMonitor.getSessionForOwner at latest
    dsimp only at latest
    split at latest
    · cases latest
    · have member := TrackedRdpSession.mem_of_latest? latest
      obtain ⟨tracked, isOwner⟩ := List.mem_filter.mp member
      have owned := RdpMonitor.owns_of_member tracked
      have isOwner : session.ownerSubject = request.ownerSubject := by
        simpa [ClientSessionRequest.ownerSubject] using isOwner
      rwa [isOwner] at owned

theorem existing_isSome
    {authToken : String}
    (named : request.ownerSubject ≠ "")
    (owns : monitor.Owns request.ownerSubject authToken) :
    (request.existing monitor).isSome = true := by
  obtain ⟨session, found, owned⟩ := owns
  have member := ((monitor.sessions.find?_eq_some_iff).mp found).1
  unfold ClientSessionRequest.existing
  rw [if_pos named, Option.isSome_or, Bool.or_eq_true]
  right
  have stripped : strip request.ownerSubject = request.ownerSubject :=
    strip_strip _
  unfold RdpMonitor.getSessionForOwner
  dsimp only
  rw [stripped, if_neg named, Option.isSome_iff_ne_none, ne_eq,
    TrackedRdpSession.latest?_eq_none_iff]
  apply List.ne_nil_of_mem
  exact List.mem_filter.mpr ⟨member, by simpa using owned⟩

end Choosing

/-! ### The custody of sessions -/

/-- The tokens whose sessions a call's user may own. -/
def ClientSessionPoint.mayOwn :
    ClientSessionPoint → Option (String → Prop)
  | waiting => none
  | invalidating session => some (· = session.authToken)
  | closing => some fun _ => False
  | creating => some fun _ => False
  | reusing session => some (· = session.authToken)
  | opening _ => some fun _ => True
  | returned _ => none
  | failed => none

/-- A call that is inside the lock of a user grips the user. -/
def ClientSessionCall.grip?
    (created : ClientSessionCall) : Option (Grip String String) :=
  if created.request.ownerSubject = "" then
    none
  else
    created.point.mayOwn.map fun mayOwn =>
      { owner := created.request.ownerSubject, mayOwn }

namespace SessionService

/-- Who owns which session, and which calls may change that. -/
def custody (service : SessionService) : Custody Nat String String where
  owns subject authToken :=
    subject ≠ "" ∧ service.monitor.Owns subject authToken
  grips call := service.calls[call]?.bind ClientSessionCall.grip?

end SessionService

section Refinement

variable
    {service before after : SessionService}
    {call : Nat}
    {created : ClientSessionCall}
    {point : ClientSessionPoint}

theorem owner_of_grip
    {grip : Grip String String}
    (grips : created.grip? = some grip) :
    grip.owner = created.request.ownerSubject ∧
      created.request.ownerSubject ≠ "" ∧
      created.point.mayOwn = some grip.mayOwn := by
  unfold ClientSessionCall.grip? at grips
  split at grips
  · cases grips
  · rename_i named
    obtain ⟨mayOwn, isLocked, rfl⟩ := Option.map_eq_some_iff.mp grips
    exact ⟨rfl, named, isLocked⟩

theorem grip_of_mayOwn
    {mayOwn : String → Prop}
    (named : created.request.ownerSubject ≠ "")
    (isLocked : created.point.mayOwn = some mayOwn) :
    created.grip? = some { owner := created.request.ownerSubject, mayOwn } := by
  unfold ClientSessionCall.grip?
  rw [if_neg named, isLocked]
  rfl

theorem isLocked_of_mayOwn
    {mayOwn : String → Prop}
    (grips : point.mayOwn = some mayOwn) : point.isLocked = true := by
  cases point with
  | waiting | returned | failed =>
    cases grips
  | _ =>
    rfl

theorem noGain_of_noNewOwner
    (noNewOwner : RdpMonitor.NoNewOwner before.monitor after.monitor) :
    Custody.NoGain before.custody after.custody :=
  fun subject authToken owned =>
    ⟨owned.1, noNewOwner subject owned.1 authToken owned.2⟩

theorem grips_of_found (found : service.calls[call]? = some created) :
    service.custody.grips call = created.grip? := by
  simp [SessionService.custody, found]

theorem grips_of_calls
    {changed : ClientSessionCall}
    (found : before.calls[call]? = some created)
    (calls : after.calls = before.calls.set call changed) :
    after.custody.grips call = changed.grip? := by
  obtain ⟨inside, _⟩ := List.getElem?_eq_some_iff.mp found
  simp [SessionService.custody, calls, inside]

theorem keepsOthers_of_calls
    {changed : ClientSessionCall}
    (calls : after.calls = before.calls.set call changed) :
    Custody.KeepsOthers before.custody after.custody call := by
  intro other different
  simp [SessionService.custody, calls, List.getElem?_set_ne different.symm]

variable
    {monitor : RdpMonitor}
    {action : GuacamoleAction}

theorem step_release
    (found : service.calls[call]? = some created)
    (noNewOwner : RdpMonitor.NoNewOwner service.monitor monitor)
    (released : { created with point }.grip? = none) :
    Custody.Step service.custody
      ((service.withMonitor monitor).goTo call created point).custody := by
  refine .release ?_ ((grips_of_calls found rfl).trans released) ?_
  · exact noGain_of_noNewOwner noNewOwner
  · exact keepsOthers_of_calls rfl

theorem step_learn
    (valid : Custody.Valid service.custody)
    (found : service.calls[call]? = some created)
    (noNewOwner : RdpMonitor.NoNewOwner service.monitor monitor)
    {earlier mayOwn : String → Prop}
    (held : created.point.mayOwn = some earlier)
    (kept : point.mayOwn = some mayOwn)
    (known :
      ∀ {subject authToken},
        earlier authToken →
        monitor.Owns subject authToken →
        mayOwn authToken) :
    Custody.Step service.custody
      ((service.withMonitor monitor).goTo call created point).custody := by
  by_cases named : created.request.ownerSubject = ""
  · apply step_release found noNewOwner
    unfold ClientSessionCall.grip?
    rw [if_pos named]
  · have heldGrip : service.custody.grips call = _ :=
      (grips_of_found found).trans (grip_of_mayOwn named held)
    have keptGrip : ClientSessionCall.grip? { created with point } = _ :=
      grip_of_mayOwn named kept
    refine
      .learn heldGrip ?_ ?_ (noGain_of_noNewOwner noNewOwner)
        ((grips_of_calls found rfl).trans keptGrip)
        (keepsOthers_of_calls rfl)
    · rfl
    · rintro authToken ⟨_, owned⟩
      have earlierOwned := noNewOwner _ named authToken owned
      exact known (valid.bounded heldGrip ⟨named, earlierOwned⟩) owned

/-- A call registers a session under the only token that there can be. -/
theorem step_give
    (found : service.calls[call]? = some created)
    {registration : Registration}
    {now : Int}
    (noNewOwner :
      RdpMonitor.NoNewOwner
        (service.monitor.registerSession registration now) monitor)
    (isOwner : registration.owner = created.request.trackedOwner)
    {earlier : String → Prop}
    (held : created.point.mayOwn = some earlier)
    (only :
      ∀ {authToken},
        earlier authToken → authToken = strip registration.authToken)
    {session : ClientSession} :
    Custody.Step service.custody
      ((service.withMonitor monitor).goTo call created
        (.opening session)).custody := by
  have registered :
      ∀ {subject authToken},
        subject ≠ "" →
        monitor.Owns subject authToken →
        service.monitor.Owns subject authToken ∨
          subject = created.request.ownerSubject ∧
            authToken = strip registration.authToken := by
    intro subject authToken named owned
    have owned := noNewOwner subject named authToken owned
    refine (RdpMonitor.owns_of_registerSession named owned).imp_right ?_
    rintro ⟨isToken, isSubject⟩
    refine ⟨?_, isToken⟩
    obtain ⟨stored, isStored, rfl⟩ := Option.map_eq_some_iff.mp isSubject
    rw [isOwner] at isStored
    obtain ⟨owner, isTracked, rfl⟩ := Option.map_eq_some_iff.mp isStored
    unfold ClientSessionRequest.ownerSubject
    rw [isTracked]
    rfl
  by_cases named : created.request.ownerSubject = ""
  · apply step_release found
    · intro subject subjectNamed authToken owned
      rcases registered subjectNamed owned with earlier | ⟨isSubject, _⟩
      · exact earlier
      · exact absurd (isSubject.trans named) subjectNamed
    · unfold ClientSessionCall.grip?
      rw [if_pos named]
  · have heldGrip : service.custody.grips call = _ :=
      (grips_of_found found).trans (grip_of_mayOwn named held)
    have keptGrip :
        ClientSessionCall.grip?
            { created with point := .opening session } = _ :=
      grip_of_mayOwn named rfl
    refine
      .give heldGrip ?_ (fun _ => only) ?_ ?_
        ((grips_of_calls found rfl).trans keptGrip)
        (keepsOthers_of_calls rfl)
    · rfl
    · rintro subject authToken ⟨subjectNamed, owned⟩
      exact
        (registered subjectNamed owned).imp_left
          fun earlier => ⟨subjectNamed, earlier⟩
    · exact fun _ => trivial

theorem lockKey_of_owner
    {request other : ClientSessionRequest}
    (named : request.ownerSubject ≠ "")
    (sameOwner : other.ownerSubject = request.ownerSubject) :
    other.lockKey = request.lockKey := by
  unfold ClientSessionRequest.lockKey
  rw [sameOwner, if_pos named, if_pos named]

theorem knows_nextPoint
    (valid : Custody.Valid service.custody)
    {request : ClientSessionRequest}
    (named : request.ownerSubject ≠ "") :
    ∃ mayOwn,
      (nextPoint request service.monitor).mayOwn = some mayOwn ∧
        ∀ authToken,
          service.monitor.Owns request.ownerSubject authToken →
          mayOwn authToken := by
  unfold nextPoint
  split
  · rename_i absent
    refine ⟨_, rfl, fun authToken owned => ?_⟩
    have present := existing_isSome named owned
    rw [absent] at present
    cases present
  · rename_i session isExisting
    have chosen := owns_of_existing named isExisting
    have only :
        ∀ authToken,
          service.monitor.Owns request.ownerSubject authToken →
          authToken = session.authToken :=
      fun authToken owned =>
        valid.single ⟨named, owned⟩ ⟨named, chosen⟩
    split <;> exact ⟨_, rfl, only⟩

/-- A call gets its lock, and looks for a session of its user. -/
theorem step_choose
    (valid : Custody.Valid service.custody)
    (found : service.calls[call]? = some created)
    (free : service.isLocked created.request.lockKey = false)
    (username : String) :
    Custody.Step service.custody
      (service.goTo call { created with username }
        (nextPoint created.request service.monitor)).custody := by
  have noNewOwner := RdpMonitor.NoNewOwner.refl service.monitor
  generalize isPoint : nextPoint created.request service.monitor = point
  have grips :
      (service.goTo call { created with username } point).custody.grips
          call =
        ClientSessionCall.grip? { created with point, username } :=
    grips_of_calls found rfl
  have keepsOthers :
      Custody.KeepsOthers service.custody
        (service.goTo call { created with username } point).custody
        call :=
    keepsOthers_of_calls rfl
  by_cases named : created.request.ownerSubject = ""
  · refine .release (noGain_of_noNewOwner noNewOwner) ?_ keepsOthers
    rw [grips]
    unfold ClientSessionCall.grip?
    rw [if_pos named]
  · obtain ⟨mayOwn, isLocked, known⟩ :
        ∃ mayOwn,
          point.mayOwn = some mayOwn ∧
            ∀ authToken,
              service.monitor.Owns created.request.ownerSubject authToken →
              mayOwn authToken := by
      subst isPoint
      exact knows_nextPoint valid named
    have grip : ClientSessionCall.grip? { created with point, username } = _ :=
      grip_of_mayOwn named isLocked
    refine
      .take ?_ ?_ (noGain_of_noNewOwner noNewOwner) (grips.trans grip)
        keepsOthers
    · intro other held holds sameOwner
      obtain ⟨otherCall, isOther, otherGrips⟩ :=
        Option.bind_eq_some_iff.mp holds
      obtain ⟨isOwner, _, locks⟩ := owner_of_grip otherGrips
      have sameKey : otherCall.request.lockKey = created.request.lockKey :=
        lockKey_of_owner named (isOwner.symm.trans sameOwner)
      have taken : service.isLocked created.request.lockKey = true := by
        unfold SessionService.isLocked
        refine
          List.any_eq_true.mpr ⟨otherCall, List.mem_of_getElem? isOther, ?_⟩
        simp [isLocked_of_mayOwn locks, sameKey]
      exact absurd (taken.symm.trans free) nofun
    · rintro authToken ⟨_, owned⟩
      exact known authToken owned

theorem noNewOwner_reuse
    (request : ClientSessionRequest)
    (username : String)
    (session : TrackedRdpSession)
    (now : Int) :
    RdpMonitor.NoNewOwner
      (service.monitor.registerSession
        { authToken := session.authToken
          agentId := request.agentId
          connectionId := session.connectionId
          dataSource := session.dataSource
          username := orText username session.username
          owner := request.trackedOwner }
        now)
      (service.reuse request username session now) := by
  unfold SessionService.reuse
  dsimp only
  split
  · exact RdpMonitor.noNewOwner_releaseAllTunnels _
  · exact .refl _

/-- Every step of a call respects the custody of sessions. -/
theorem custody_of_clientSessionStep
    (valid : Custody.Valid service.custody)
    (found : service.calls[call]? = some created)
    (stepped : clientSessionStep? service call created action = some after) :
    Custody.Step service.custody after.custody := by
  have same := RdpMonitor.NoNewOwner.refl service.monitor
  cases clientSessionTaken stepped with
  | chosen _ free =>
    exact step_choose valid found free _
  | @reused _ now session isPoint =>
    refine
      step_give found (noNewOwner_reuse _ _ session now) rfl
        (congrArg ClientSessionPoint.mayOwn isPoint) ?_
    exact fun isToken => isToken.trans session.clean.symm
  | @invalidated _ session isPoint =>
    refine
      step_learn valid found
        (RdpMonitor.noNewOwner_removeSession session.authToken)
        (congrArg ClientSessionPoint.mayOwn isPoint) rfl ?_
    rintro subject authToken rfl owned
    exact RdpMonitor.not_owns_removeSession session subject owned
  | closed isPoint =>
    exact
      step_learn valid found same
        (congrArg ClientSessionPoint.mayOwn isPoint) rfl
        fun impossible _ => impossible
  | issued isPoint =>
    exact
      step_give found (RdpMonitor.NoNewOwner.refl _) rfl
        (congrArg ClientSessionPoint.mayOwn isPoint) False.elim
  | issuedNothing | opened | failed =>
    apply step_release found same
    unfold ClientSessionCall.grip?
    split <;> rfl

theorem trackingStep_noNewOwner
    (stepped : trackingStep? before action = some after) :
    RdpMonitor.NoNewOwner before.monitor after.monitor ∧
      after.calls = before.calls := by
  have same := RdpMonitor.NoNewOwner.refl before.monitor
  unfold trackingStep? at stepped
  split at stepped
  case h_1 | h_3 =>
    cases stepped
    exact ⟨same, rfl⟩
  case h_2 =>
    split at stepped
    case h_1 authToken rest _ =>
      cases stepped
      exact ⟨RdpMonitor.noNewOwner_removeSession authToken, rfl⟩
    case h_2 =>
      cases stepped
  case h_4 _ authToken tunnelUuid now =>
    split at stepped
    · cases stepped
    · split at stepped
      · cases stepped
        exact ⟨RdpMonitor.noNewOwner_addTunnel authToken tunnelUuid now, rfl⟩
      · cases stepped
        exact ⟨same, rfl⟩
  case h_5 _ thread now =>
    obtain ⟨⟨authToken, tunnelUuid⟩, _, rfl⟩ :=
      Option.map_eq_some_iff.mp stepped
    have stored :
        RdpMonitor.NoNewOwner before.monitor
          (before.monitor.storeUntracked authToken now) :=
      RdpMonitor.noNewOwner_storeUntracked authToken now
    exact
      ⟨stored.trans
        (RdpMonitor.noNewOwner_addTunnel authToken tunnelUuid now), rfl⟩
  case h_6 _ authToken now =>
    cases stepped
    exact ⟨RdpMonitor.noNewOwner_touchAuthToken authToken now, rfl⟩
  case h_7 _ tunnelUuid now =>
    cases stepped
    exact ⟨RdpMonitor.noNewOwner_touchTunnel tunnelUuid now, rfl⟩
  case h_8 _ tunnelUuid =>
    cases stepped
    exact ⟨RdpMonitor.noNewOwner_releaseTunnel tunnelUuid, rfl⟩
  case h_9 =>
    cases stepped

theorem guacamoleStep_cases
    (stepped : guacamoleStep? before action = some after) :
    (∃ call created,
        action.call = some call ∧
          before.calls[call]? = some created ∧
          clientSessionStep? before call created action = some after) ∨
      (∃ request,
        action = .request request ∧
          after = { before with calls := before.calls ++ [{ request }] }) ∨
      trackingStep? before action = some after := by
  unfold guacamoleStep? at stepped
  split at stepped
  · rename_i call isCall
    obtain ⟨created, found, stepped⟩ := Option.bind_eq_some_iff.mp stepped
    exact .inl ⟨call, created, isCall, found, stepped⟩
  · right
    split at stepped
    · cases stepped
      exact .inl ⟨_, rfl, rfl⟩
    · exact .inr stepped

theorem custody_of_request (request : ClientSessionRequest) :
    Custody.Step before.custody
      ({ before with calls := before.calls ++ [{ request }] } :
        SessionService).custody := by
  have waits : ({ request } : ClientSessionCall).grip? = none := by
    unfold ClientSessionCall.grip?
    split <;> rfl
  refine .lose (fun _ _ owned => owned) ?_
  funext call
  change Option.bind _ _ = Option.bind _ _
  dsimp only
  rcases Nat.lt_trichotomy call before.calls.length with
    earlier | isNew | later
  · rw [List.getElem?_append_left earlier]
  · subst isNew
    simp [waits]
  · rw [List.getElem?_eq_none (Nat.le_of_lt later),
      List.getElem?_eq_none (by simp; omega)]

theorem custody_of_step
    (valid : Custody.Valid before.custody)
    (stepped : guacamoleStep? before action = some after) :
    Custody.Step before.custody after.custody := by
  rcases guacamoleStep_cases stepped with
    ⟨call, created, _, found, stepped⟩ | ⟨request, _, rfl⟩ | stepped
  · exact custody_of_clientSessionStep valid found stepped
  · exact custody_of_request request
  · obtain ⟨noNewOwner, sameCalls⟩ := trackingStep_noNewOwner stepped
    refine .lose (noGain_of_noNewOwner noNewOwner) ?_
    unfold SessionService.custody
    rw [sameCalls]

end Refinement

theorem custodyValid_started :
    Custody.Valid ({} : SessionService).custody where
  single owned := by
    obtain ⟨_, _, found, _⟩ := owned
    cases found
  exclusive held := by
    cases held
  bounded held := by
    cases held

theorem custodyValid_of_run
    {actions : List GuacamoleAction}
    {service : SessionService}
    (run : Run (Fires guacamoleStep?) {} actions service) :
    Custody.Valid service.custody := by
  have stepPreserves :
      ∀ (before : SessionService) action after,
        Fires guacamoleStep? before action after →
        Custody.Valid before.custody →
        Custody.Valid after.custody :=
    fun _ _ _ stepped valid => valid.step (custody_of_step valid stepped)
  exact run.preserves stepPreserves custodyValid_started

theorem oneSessionPerOwner_of_custody
    {service : SessionService}
    (valid : Custody.Valid service.custody) :
    OneSessionPerOwner service.monitor := by
  intro first isFirst second isSecond named sameOwner
  have ownsFirst := RdpMonitor.owns_of_member isFirst
  have ownsSecond := RdpMonitor.owns_of_member isSecond
  rw [← sameOwner] at ownsSecond
  exact
    service.monitor.sessions.eq_of_key isFirst isSecond
      (valid.single ⟨named, ownsFirst⟩ ⟨named, ownsSecond⟩)

/-! ### Where a token comes from -/

/-- The token that a call is going to return, or has returned. -/
def ClientSessionPoint.authToken? : ClientSessionPoint → Option String
  | reusing session => some session.authToken
  | opening session => some session.authToken
  | returned session => some session.authToken
  | _ => none

/-- A token was issued in a call, or was the user's when it was chosen. -/
def Accounted
    (actions : List GuacamoleAction)
    (call : Nat)
    (subject authToken : String) : Prop :=
  IssuedIn actions call authToken ∨ ChosenFor actions call subject authToken

/-- All tokens that calls return to users are accounted for. -/
def TokensAccounted
    (actions : List GuacamoleAction)
    (service : SessionService) : Prop :=
  ∀ call created authToken,
    service.calls[call]? = some created →
    created.request.ownerSubject ≠ "" →
    created.point.authToken? = some authToken →
    Accounted actions call created.request.ownerSubject authToken

section History

variable
    {before after : SessionService}
    {actions : List GuacamoleAction}
    {call : Nat}

theorem Accounted.append
    {subject authToken : String}
    (accounted : Accounted actions call subject authToken)
    (action : GuacamoleAction) :
    Accounted (actions ++ [action]) call subject authToken := by
  rcases accounted with ⟨answer, now, member, isToken⟩ | chosen
  · exact .inl ⟨answer, now, List.mem_append_left _ member, isToken⟩
  · obtain ⟨earlier, username, later, choosing, rfl, run, tracked⟩ :=
      chosen
    refine
      .inr ⟨earlier, username, later ++ [action], choosing, ?_, run, tracked⟩
    rw [List.append_assoc]
    rfl

/-- How a step of a call changes the call. -/
theorem calls_of_clientSessionStep
    {created : ClientSessionCall}
    {action : GuacamoleAction}
    (isCall : action.call = some call)
    (stepped : clientSessionStep? before call created action = some after) :
    ∃ changed,
      after.calls = before.calls.set call changed ∧
        changed.request = created.request ∧
        ∀ authToken,
          changed.point.authToken? = some authToken →
          created.point.authToken? = some authToken ∨
            (∃ answer now,
              action = .issue call answer now ∧ answer.authToken = authToken) ∨
            ∃ username session,
              action = .choose call username ∧
                created.request.existing before.monitor = some session ∧
                session.authToken = authToken := by
  cases clientSessionTaken stepped with
  | @chosen _ username =>
    cases isCall
    refine ⟨_, rfl, rfl, fun authToken isToken => ?_⟩
    refine .inr (.inr ⟨username, ?_⟩)
    dsimp only at isToken
    unfold nextPoint at isToken
    split at isToken
    · cases isToken
    · rename_i session isExisting
      split at isToken
      · cases isToken
      · exact ⟨session, rfl, isExisting, Option.some.inj isToken⟩
  | reused isPoint | opened isPoint =>
    refine ⟨_, rfl, rfl, fun authToken isToken => .inl ?_⟩
    rw [isPoint]
    exact isToken
  | invalidated | closed | failed =>
    exact ⟨_, rfl, rfl, nofun⟩
  | @issuedNothing _ answer now | @issued _ answer now =>
    cases isCall
    exact
      ⟨_, rfl, rfl, fun authToken isToken =>
        .inr (.inl ⟨answer, now, rfl, Option.some.inj isToken⟩)⟩

theorem tracked_of_existing
    {request : ClientSessionRequest}
    {monitor : RdpMonitor}
    (named : request.ownerSubject ≠ "")
    {session : TrackedRdpSession}
    (found : request.existing monitor = some session) :
    ∃ tracked ∈ monitor.sessions.rows,
      tracked.authToken = session.authToken ∧
        tracked.ownerSubject = request.ownerSubject := by
  obtain ⟨tracked, isTracked, owned⟩ := owns_of_existing named found
  obtain ⟨member, isToken⟩ :=
    (monitor.sessions.find?_eq_some_iff).mp isTracked
  exact ⟨tracked, member, isToken, owned⟩

theorem tokensAccounted_of_step
    {action : GuacamoleAction}
    (run : Run (Fires guacamoleStep?) {} actions before)
    (stepped : guacamoleStep? before action = some after)
    (accounted : TokensAccounted actions before) :
    TokensAccounted (actions ++ [action]) after := by
  intro call created authToken found named isToken
  rcases guacamoleStep_cases stepped with
    ⟨mover, moved, isCall, isMoved, stepped⟩ | ⟨request, _, rfl⟩ | stepped
  · obtain ⟨changed, calls, sameRequest, comes⟩ :=
      calls_of_clientSessionStep isCall stepped
    rw [calls] at found
    rcases getElem?_set_cases found with ⟨rfl, rfl⟩ | ⟨_, found⟩
    · rw [sameRequest] at named ⊢
      rcases comes authToken isToken with
        earlier | ⟨answer, now, rfl, isAnswer⟩ |
        ⟨username, session, rfl, isExisting, isSession⟩
      · exact
          (accounted call moved authToken isMoved named earlier).append action
      · exact .inl ⟨answer, now, by simp, isAnswer⟩
      · obtain ⟨tracked, member, isTracked, owned⟩ :=
          tracked_of_existing named isExisting
        exact
          .inr ⟨actions, username, [], before, rfl, run, tracked, member,
            isTracked.trans isSession, owned⟩
    · exact (accounted call created authToken found named isToken).append _
  · rcases getElem?_append_cases found with rfl | earlier
    · cases isToken
    · exact (accounted call created authToken earlier named isToken).append _
  · rw [(trackingStep_noNewOwner stepped).2] at found
    exact (accounted call created authToken found named isToken).append _

end History

/-! ### Session ownership -/

/--
In every interleaving each user owns one session at most, and the token that a
call returns to a user was issued in that call or belonged to a session of the
user when it was chosen.
-/
theorem sessionOwnership
    {actions : List GuacamoleAction}
    {service : SessionService}
    (run : Run (Fires guacamoleStep?) {} actions service) :
    OneSessionPerOwner service.monitor ∧ ReturnsOwnTokens actions service := by
  have stepPreserves :
      ∀ earlier before action after,
        Run (Fires guacamoleStep?) {} earlier before →
        Fires guacamoleStep? before action after →
        TokensAccounted earlier before →
        TokensAccounted (earlier ++ [action]) after :=
    fun _ _ _ _ run stepped accounted =>
      tokensAccounted_of_step run stepped accounted
  have nothing : TokensAccounted [] {} := by
    intro call created authToken found
    cases found
  have accounted := run.traced stepPreserves nothing
  refine ⟨oneSessionPerOwner_of_custody (custodyValid_of_run run), ?_⟩
  intro call created session found named returned
  apply accounted call created session.authToken found named
  rw [returned]
  rfl

/--
A user gets a session; a tunnel is bound to a token that nobody knows, and the
user, who asks for the session again, gets the same token.
-/
def resumedSession : List GuacamoleAction :=
  let user : RecordingOwner := { subject := "user-1" }
  [.request { agentId := "agent-1", user },
    .choose 0 "worker",
    .issue 0 { authToken := "token-1", connectionId := "7" } 10,
    .opened 0 "tunnel-1",
    .bindTunnel "stray" "tunnel-2" 11,
    .request { agentId := "agent-1", user, resumeAuthToken := "token-1" },
    .choose 1 "worker",
    .bindUntracked 0 12,
    .reuse 1 12,
    .opened 1 "tunnel-1"]

theorem resumedSession_owned :
    ∃ service,
      Run (Fires guacamoleStep?) {} resumedSession service ∧
        (service.calls[1]?.bind fun created =>
            created.point.authToken?) =
          some "token-1" ∧
        OneSessionPerOwner service.monitor ∧
        ReturnsOwnTokens resumedSession service := by
  obtain ⟨service, run, reached⟩ :=
    exists_run_of_execute
      (show (execute guacamoleStep? {} resumedSession).any
          (fun service : SessionService =>
            (service.calls[1]?.bind fun created =>
                created.point.authToken?) =
              some "token-1") = true by
        decide +kernel)
  exact ⟨service, run, of_decide_eq_true reached, sessionOwnership run⟩

end RpaPlatform.Agents
