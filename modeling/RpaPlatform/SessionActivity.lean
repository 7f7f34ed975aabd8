import RpaPlatform.TunnelBindings

namespace RpaPlatform.Agents

/-!
# When a session was last active

The time of the last activity of each token that is tracked, after each
operation of the monitor.
-/

namespace RdpMonitor

/-- `last_activity_at` of the session of a token, if it is tracked. -/
def lastActivity? (monitor : RdpMonitor) (token : String) : Option Int :=
  (monitor.sessions.find? token).map TrackedRdpSession.lastActivityAt

section Activity

variable {monitor : RdpMonitor} {token : String} {now : Int}

theorem tracks_iff_lastActivity :
    monitor.Tracks token ↔ (monitor.lastActivity? token).isSome = true := by
  unfold Tracks lastActivity?
  rw [Option.isSome_map]

theorem lastActivity_modifySession
    (changed : String)
    (change : TrackedRdpSession → TrackedRdpSession)
    (keepsToken : ∀ session, (change session).authToken = session.authToken)
    (time : Int → Int)
    (isTime :
      ∀ session,
        (change session).lastActivityAt = time session.lastActivityAt) :
    (monitor.modifySession changed change keepsToken).lastActivity? token =
      if strip changed = token then (monitor.lastActivity? token).map time
      else monitor.lastActivity? token := by
  unfold lastActivity? modifySession
  dsimp only
  rw [KeyedTable.find?_modify]
  split
  · rw [Option.map_map, Option.map_map]
    congr 1
    funext session
    exact isTime session
  · rfl

theorem lastActivity_touchAuthToken (authToken : String) :
    (monitor.touchAuthToken authToken now).lastActivity? token =
      if strip authToken = token then
        (monitor.lastActivity? token).map fun _ => now
      else
        monitor.lastActivity? token := by
  unfold touchAuthToken
  exact lastActivity_modifySession _ _ _ (fun _ => now) fun _ => rfl

theorem lastActivity_addTunnel (authToken tunnelUuid : String) :
    (monitor.addTunnel authToken tunnelUuid now).lastActivity? token =
      if strip authToken = token then
        (monitor.lastActivity? token).map fun _ => now
      else
        monitor.lastActivity? token := by
  have modified :
      (monitor.modifySession authToken
          (fun session =>
            { session with
              tunnelUuids := session.tunnelUuids.insert (strip tunnelUuid)
              lastActivityAt := now })
          fun _ => rfl).lastActivity? token =
        if strip authToken = token then
          (monitor.lastActivity? token).map fun _ => now
        else
          monitor.lastActivity? token :=
    lastActivity_modifySession _ _ _ (fun _ => now) fun _ => rfl
  unfold addTunnel
  unfold lastActivity? at modified ⊢
  exact modified

/-- The token of the session that touching a tunnel touches. -/
def tunnelToken? (monitor : RdpMonitor) (tunnelUuid : String) :
    Option String :=
  if strip tunnelUuid = "" then
    none
  else
    ((monitor.tokenByTunnel.lookup (strip tunnelUuid)).filter
      (· ≠ "")).map strip

theorem lastActivity_touchTunnel (tunnelUuid : String) :
    (monitor.touchTunnel tunnelUuid now).lastActivity? token =
      if monitor.tunnelToken? tunnelUuid = some token then
        (monitor.lastActivity? token).map fun _ => now
      else
        monitor.lastActivity? token := by
  unfold touchTunnel tunnelToken?
  split
  · rfl
  · split
    · rename_i absent
      rw [absent]
      rfl
    · rename_i authToken bound
      rw [bound]
      split
      · rename_i isEmpty
        simp [Option.filter, isEmpty]
      · rename_i nonempty
        rw [Option.filter_some, decide_eq_true nonempty]
        have touched :
            (monitor.touchAuthToken authToken now).lastActivity? token = _ :=
          lastActivity_touchAuthToken authToken
        unfold lastActivity? at touched ⊢
        simpa using touched

theorem find?_upsert_lastActivity
    {sessions : KeyedTable TrackedRdpSession TrackedRdpSession.authToken}
    {created : TrackedRdpSession}
    {change : TrackedRdpSession → TrackedRdpSession}
    {keepsToken : ∀ session, (change session).authToken = session.authToken}
    (isTime :
      ∀ session, (change session).lastActivityAt = created.lastActivityAt)
    (token : String) :
    ((sessions.upsert created change keepsToken).find? token).map
        TrackedRdpSession.lastActivityAt =
      if created.authToken = token then some created.lastActivityAt
      else (sessions.find? token).map TrackedRdpSession.lastActivityAt := by
  rw [KeyedTable.find?_upsert]
  split
  · cases sessions.find? token with
    | none =>
      rfl
    | some session =>
      exact congrArg some (isTime session)
  · rfl

theorem isToken_iff
    {text : String}
    (nonempty : strip text ≠ "") :
    strip text = token ↔ strip text = token ∧ token ≠ "" :=
  ⟨fun same => ⟨same, fun isEmpty => nonempty (same.trans isEmpty)⟩, And.left⟩

theorem lastActivity_registerSession (registration : Registration) :
    (monitor.registerSession registration now).lastActivity? token =
      if strip registration.authToken = token ∧ token ≠ "" then some now
      else monitor.lastActivity? token := by
  unfold lastActivity? registerSession
  split
  · rename_i isEmpty
    rw [if_neg]
    rintro ⟨rfl, nonempty⟩
    exact nonempty isEmpty
  · rename_i nonempty
    dsimp only
    rw [find?_upsert_lastActivity]
    · exact if_congr (isToken_iff nonempty) rfl rfl
    · exact fun _ => rfl

theorem lastActivity_bindTunnel (authToken tunnelUuid : String) :
    (monitor.bindTunnel authToken tunnelUuid now).lastActivity? token =
      if strip authToken = token ∧ token ≠ "" ∧ strip tunnelUuid ≠ "" then
        some now
      else
        monitor.lastActivity? token := by
  unfold bindTunnel
  split
  · rename_i isEmpty
    rw [if_neg]
    rintro ⟨rfl, named, given⟩
    exact isEmpty.elim named given
  · rename_i nonempty
    obtain ⟨named, given⟩ := not_or.mp nonempty
    have isBound :
        strip authToken = token ∧ token ≠ "" ∧ strip tunnelUuid ≠ "" ↔
          strip authToken = token := by
      refine and_iff_left_of_imp ?_
      rintro rfl
      exact ⟨named, given⟩
    simp only [isBound]
    split
    · rename_i isTracked
      rw [lastActivity_addTunnel]
      split
      · rename_i same
        obtain ⟨session, found⟩ := Option.isSome_iff_exists.mp isTracked
        have tracked := tracked_of_getSession found
        rw [same] at tracked
        unfold lastActivity?
        rw [tracked]
        rfl
      · rfl
    · rw [lastActivity_addTunnel, lastActivity_registerSession]
      split
      · rename_i same
        rw [if_pos ⟨same, same ▸ named⟩]
        rfl
      · rename_i other
        rw [if_neg fun both => other both.1]

theorem lastActivity_storeUntracked (authToken : String) :
    (monitor.storeUntracked authToken now).lastActivity? token =
      if strip authToken = token ∧ token ≠ "" then some now
      else monitor.lastActivity? token := by
  unfold lastActivity? storeUntracked
  split
  · rename_i isEmpty
    rw [if_neg]
    rintro ⟨rfl, nonempty⟩
    exact nonempty isEmpty
  · rename_i nonempty
    dsimp only
    rw [find?_upsert_lastActivity]
    · exact if_congr (isToken_iff nonempty) rfl rfl
    · exact fun _ => rfl

theorem lastActivity_releaseFrom (released clean : String) :
    (monitor.releaseFrom released clean).lastActivity? token =
      monitor.lastActivity? token := by
  unfold lastActivity?
  rw [sessions_releaseFrom, KeyedTable.find?_modify]
  split
  · rw [Option.map_map]
    rfl
  · rfl

theorem lastActivity_releaseTunnel (tunnelUuid : String) :
    (monitor.releaseTunnel tunnelUuid).lastActivity? token =
      monitor.lastActivity? token := by
  unfold releaseTunnel
  dsimp only
  split
  · rfl
  · split
    · rfl
    · exact lastActivity_releaseFrom _ _

theorem lastActivity_releaseAllTunnels (authToken : String) :
    (monitor.releaseAllTunnels authToken).lastActivity? token =
      monitor.lastActivity? token := by
  unfold releaseAllTunnels
  split
  · rfl
  · rename_i session found
    clear found
    generalize sortedTunnels session = tunnels
    induction tunnels generalizing monitor with
    | nil =>
      rfl
    | cons tunnel rest inductionHypothesis =>
      exact inductionHypothesis.trans (lastActivity_releaseTunnel tunnel)

theorem lastActivity_removeSession (authToken : String) :
    (monitor.removeSession authToken).lastActivity? token =
      if strip authToken = token then none
      else monitor.lastActivity? token := by
  unfold removeSession
  split
  · rename_i absent
    split
    · rename_i same
      by_contra isTracked
      have tracks : monitor.Tracks token := by
        rw [tracks_iff_lastActivity, Option.isSome_iff_ne_none]
        exact isTracked
      unfold getSession at absent
      rw [same, if_neg tracks.clean.2] at absent
      exact Option.isSome_iff_ne_none.mp tracks absent
    · rfl
  · unfold lastActivity?
    dsimp only
    by_cases same : strip authToken = token
    · subst same
      rw [KeyedTable.find?_delete_self, if_pos rfl]
      rfl
    · rw [KeyedTable.find?_delete _ (Ne.symm same), if_neg same]

/-! ### Which tokens are tracked after each operation -/

theorem tracks_touchAuthToken (authToken : String) :
    (monitor.touchAuthToken authToken now).Tracks token ↔
      monitor.Tracks token := by
  rw [tracks_iff_lastActivity, tracks_iff_lastActivity,
    lastActivity_touchAuthToken]
  split
  · rw [Option.isSome_map]
  · rfl

theorem tracks_addTunnel (authToken tunnelUuid : String) :
    (monitor.addTunnel authToken tunnelUuid now).Tracks token ↔
      monitor.Tracks token := by
  rw [tracks_iff_lastActivity, tracks_iff_lastActivity, lastActivity_addTunnel]
  split
  · rw [Option.isSome_map]
  · rfl

theorem tracks_touchTunnel (tunnelUuid : String) :
    (monitor.touchTunnel tunnelUuid now).Tracks token ↔
      monitor.Tracks token := by
  rw [tracks_iff_lastActivity, tracks_iff_lastActivity,
    lastActivity_touchTunnel]
  split
  · rw [Option.isSome_map]
  · rfl

theorem tracks_registerSession (registration : Registration) :
    (monitor.registerSession registration now).Tracks token ↔
      (strip registration.authToken = token ∧ token ≠ "") ∨
        monitor.Tracks token := by
  rw [tracks_iff_lastActivity, tracks_iff_lastActivity,
    lastActivity_registerSession]
  split
  · rename_i isToken
    exact iff_of_true rfl (.inl isToken)
  · rename_i other
    exact (or_iff_right other).symm

theorem tracks_storeUntracked (authToken : String) :
    (monitor.storeUntracked authToken now).Tracks token ↔
      (strip authToken = token ∧ token ≠ "") ∨ monitor.Tracks token := by
  rw [tracks_iff_lastActivity, tracks_iff_lastActivity,
    lastActivity_storeUntracked]
  split
  · rename_i isToken
    exact iff_of_true rfl (.inl isToken)
  · rename_i other
    exact (or_iff_right other).symm

theorem tracks_releaseTunnel (tunnelUuid : String) :
    (monitor.releaseTunnel tunnelUuid).Tracks token ↔ monitor.Tracks token := by
  rw [tracks_iff_lastActivity, tracks_iff_lastActivity,
    lastActivity_releaseTunnel]

theorem tracks_releaseAllTunnels (authToken : String) :
    (monitor.releaseAllTunnels authToken).Tracks token ↔
      monitor.Tracks token := by
  rw [tracks_iff_lastActivity, tracks_iff_lastActivity,
    lastActivity_releaseAllTunnels]

theorem tracks_removeSession (authToken : String) :
    (monitor.removeSession authToken).Tracks token ↔
      strip authToken ≠ token ∧ monitor.Tracks token := by
  rw [tracks_iff_lastActivity, tracks_iff_lastActivity,
    lastActivity_removeSession]
  split
  · rename_i same
    exact iff_of_false nofun fun both => both.1 same
  · rename_i other
    exact (and_iff_right other).symm

theorem not_tracks_removeSession (authToken : String) :
    ¬ (monitor.removeSession authToken).Tracks authToken := by
  intro tracks
  have tracked := (tracks_removeSession authToken).mp tracks
  exact tracked.1 tracked.2.clean.1

end Activity

end RdpMonitor

end RpaPlatform.Agents
