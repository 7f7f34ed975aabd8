import RpaPlatform.RdpMonitor

namespace RpaPlatform.Agents

open Transition

/-!
# Which tunnels belong to which session

Every tracked session has a set of tunnels, and two maps are kept beside the
sessions: from a tunnel to the token of its session, and from a token to the
tunnel that is used first.  Each operation changes the set and the maps
together, but a tunnel that is bound to another token stays in the set of the
session that had it.
-/

/-- The calls that change what is tracked, with the time they are made. -/
inductive MonitorCall where
  | registerSession (registration : Registration) (now : Int)
  | bindTunnel (authToken tunnelUuid : String) (now : Int)
  | touchTunnel (tunnelUuid : String) (now : Int)
  | releaseTunnel (tunnelUuid : String)
  | releaseAllTunnels (authToken : String)
  | removeSession (authToken : String)

namespace RdpMonitor

def bindTunnel
    (monitor : RdpMonitor)
    (authToken tunnelUuid : String)
    (now : Int) : RdpMonitor :=
  if strip authToken = "" ∨ strip tunnelUuid = "" then
    monitor
  else if (monitor.getSession authToken).isSome then
    monitor.addTunnel authToken tunnelUuid now
  else
    (monitor.registerSession { authToken } now).addTunnel authToken
      tunnelUuid now

/-- Make a call. -/
def perform (monitor : RdpMonitor) : MonitorCall → RdpMonitor
  | .registerSession registration now =>
    monitor.registerSession registration now
  | .bindTunnel authToken tunnelUuid now =>
    monitor.bindTunnel authToken tunnelUuid now
  | .touchTunnel tunnelUuid now =>
    monitor.touchTunnel tunnelUuid now
  | .releaseTunnel tunnelUuid =>
    monitor.releaseTunnel tunnelUuid
  | .releaseAllTunnels authToken =>
    monitor.releaseAllTunnels authToken
  | .removeSession authToken =>
    monitor.removeSession authToken

def step? (monitor : RdpMonitor) (call : MonitorCall) :
    Option RdpMonitor :=
  some (monitor.perform call)

/-- A tunnel is in the set of the session that is tracked for a token. -/
def Binds (monitor : RdpMonitor) (authToken tunnel : String) : Prop :=
  ∃ session,
    monitor.sessions.find? authToken = some session ∧
      tunnel ∈ session.tunnelUuids

/-- The maps say what the sets of the sessions say. -/
structure Represents (monitor : RdpMonitor) : Prop where
  tokenByTunnel :
    ∀ tunnel authToken,
      monitor.tokenByTunnel.lookup tunnel = some authToken ↔
        monitor.Binds authToken tunnel
  primaryTunnel :
    ∀ authToken tunnel,
      monitor.primaryTunnel.lookup authToken = some tunnel →
      monitor.Binds authToken tunnel

/-- The monitor is consistent after every sequence of calls. -/
def KeepsRepresentation
    (step : RdpMonitor → MonitorCall → RdpMonitor → Prop) : Prop :=
  ∀ {idleTimeoutSeconds : Int} {calls : List MonitorCall}
    {reached : RdpMonitor},
    Run step { idleTimeoutSeconds } calls reached →
    reached.Represents

/--
The condition under which the maps are kept: a tunnel is not bound to a token
while it is bound to another one.
-/
def BindsFree (monitor : RdpMonitor) : MonitorCall → Prop
  | .bindTunnel authToken tunnelUuid _ =>
    strip authToken ≠ "" →
    strip tunnelUuid ≠ "" →
    ∀ bound ∈ monitor.tokenByTunnel.lookup (strip tunnelUuid),
      bound = strip authToken
  | _ => True

/-! ### What is bound after each operation -/

section Bindings

variable {monitor : RdpMonitor}

theorem binds_modifySession
    {changed : String}
    {change : TrackedRdpSession → TrackedRdpSession}
    {keepsToken :
      ∀ session, (change session).authToken = session.authToken}
    {authToken tunnel : String} :
    (monitor.modifySession changed change keepsToken).Binds authToken
        tunnel ↔
      ∃ session,
        monitor.sessions.find? authToken = some session ∧
          tunnel ∈
            (if strip changed = authToken then change session
              else session).tunnelUuids := by
  unfold Binds modifySession
  rw [KeyedTable.find?_modify]
  split
  · simp [Option.map_eq_some_iff]
  · simp

variable {now : Int}

variable {authToken tunnel : String}

theorem binds_touchAuthToken
    {touched : String} :
    (monitor.touchAuthToken touched now).Binds authToken tunnel ↔
      monitor.Binds authToken tunnel := by
  unfold touchAuthToken
  rw [binds_modifySession]
  simp only [apply_ite, ite_self]
  rfl

theorem binds_registerSession
    {registration : Registration} :
    (monitor.registerSession registration now).Binds authToken tunnel ↔
      monitor.Binds authToken tunnel := by
  unfold registerSession Binds
  split
  · rfl
  · dsimp only
    rw [KeyedTable.find?_upsert]
    split
    · rename_i same
      cases tracked : monitor.sessions.find? authToken with
      | none =>
        simp [Registration.created]
      | some session =>
        simp [Registration.renewed]
    · rfl

def Tracks (monitor : RdpMonitor) (authToken : String) : Prop :=
  (monitor.sessions.find? authToken).isSome = true

theorem Binds.tracks
    (binds : monitor.Binds authToken tunnel) :
    monitor.Tracks authToken := by
  obtain ⟨session, tracked, _⟩ := binds
  exact Option.isSome_iff_exists.mpr ⟨session, tracked⟩

theorem Tracks.clean
    {authToken : String}
    (tracks : monitor.Tracks authToken) :
    strip authToken = authToken ∧ authToken ≠ "" := by
  obtain ⟨session, tracked⟩ := Option.isSome_iff_exists.mp tracks
  obtain ⟨_, rfl⟩ := monitor.sessions.find?_eq_some_iff.mp tracked
  exact ⟨session.clean, session.nonempty⟩

theorem binds_addTunnel
    {added tunnelUuid : String}
    (tracks : monitor.Tracks (strip added)) :
    (monitor.addTunnel added tunnelUuid now).Binds authToken tunnel ↔
      monitor.Binds authToken tunnel ∨
        authToken = strip added ∧ tunnel = strip tunnelUuid := by
  have inserted :
      (monitor.modifySession added
          (fun session =>
            { session with
              tunnelUuids := session.tunnelUuids.insert (strip tunnelUuid)
              lastActivityAt := now })
          fun _ => rfl).Binds authToken tunnel ↔
        monitor.Binds authToken tunnel ∨
          authToken = strip added ∧ tunnel = strip tunnelUuid := by
    rw [binds_modifySession]
    by_cases same : strip added = authToken
    · subst authToken
      obtain ⟨session, tracked⟩ := Option.isSome_iff_exists.mp tracks
      simp only [Binds, tracked, Option.some.injEq, exists_eq_left',
        if_true, List.mem_insert_iff, true_and]
      exact or_comm
    · have other : ¬ authToken = strip added := fun equal => same equal.symm
      simp only [if_neg same, other, false_and, or_false]
      rfl
  unfold addTunnel
  exact inserted

theorem binds_touchTunnel
    {tunnelUuid : String} :
    (monitor.touchTunnel tunnelUuid now).Binds authToken tunnel ↔
      monitor.Binds authToken tunnel := by
  unfold touchTunnel
  split
  · rfl
  split
  · rfl
  · split
    · rfl
    · exact binds_touchAuthToken

theorem sessions_releaseFrom (released clean : String) :
    (monitor.releaseFrom released clean).sessions =
      monitor.sessions.modify (strip released)
        (fun session =>
          { session with tunnelUuids := session.tunnelUuids.erase clean })
        fun _ => rfl := by
  unfold releaseFrom
  dsimp only
  split
  · rfl
  · split <;> rfl

theorem binds_releaseFrom
    {released clean : String}
    (isClean : strip released = released)
    (sets :
      ∀ authToken session,
        monitor.sessions.find? authToken = some session →
        session.tunnelUuids.Nodup) :
    (monitor.releaseFrom released clean).Binds authToken tunnel ↔
      monitor.Binds authToken tunnel ∧
        ¬ (authToken = released ∧ tunnel = clean) := by
  unfold Binds
  rw [sessions_releaseFrom, KeyedTable.find?_modify, isClean]
  by_cases same : released = authToken
  · subst authToken
    rw [if_pos rfl]
    simp only [Option.map_eq_some_iff, true_and]
    constructor
    · rintro ⟨_, ⟨session, tracked, rfl⟩, member⟩
      obtain ⟨different, kept⟩ :=
        (sets _ _ tracked).mem_erase_iff.mp member
      exact ⟨⟨session, tracked, kept⟩, different⟩
    · rintro ⟨⟨session, tracked, kept⟩, different⟩
      exact ⟨_, ⟨session, tracked, rfl⟩,
        (sets _ _ tracked).mem_erase_iff.mpr ⟨different, kept⟩⟩
  · have other : ¬ authToken = released := fun equal => same equal.symm
    simp only [if_neg same, other, false_and, not_false_eq_true, and_true]

theorem binds_removeSession
    {removed : String} :
    (monitor.removeSession removed).Binds authToken tunnel ↔
      monitor.Binds authToken tunnel ∧ authToken ≠ strip removed := by
  unfold removeSession
  split
  · rename_i absent
    refine ⟨fun binds => ⟨binds, ?_⟩, And.left⟩
    rintro rfl
    unfold getSession at absent
    split at absent
    · rename_i empty
      exact binds.tracks.clean.2 empty
    · obtain ⟨session, tracked, _⟩ := binds
      cases absent.symm.trans tracked
  · unfold Binds
    dsimp only
    by_cases same : authToken = strip removed
    · subst authToken
      rw [KeyedTable.find?_delete_self]
      simp
    · rw [KeyedTable.find?_delete _ same]
      simp [same]

theorem primary_releaseFrom
    {released clean authToken tunnel : String}
    (tracks : monitor.Tracks released)
    (found :
      (monitor.releaseFrom released clean).primaryTunnel.lookup authToken =
        some tunnel) :
    (monitor.releaseFrom released clean).Binds authToken tunnel ∨
      monitor.primaryTunnel.lookup authToken = some tunnel ∧
        ¬ (authToken = released ∧ tunnel = clean) := by
  obtain ⟨isClean, nonempty⟩ := tracks.clean
  unfold releaseFrom at found
  dsimp only at found
  split at found
  · rename_i absent
    exfalso
    obtain ⟨session, tracked⟩ := Option.isSome_iff_exists.mp tracks
    unfold getSession modifySession at absent
    rw [isClean, if_neg nonempty] at absent
    dsimp only at absent
    rw [KeyedTable.find?_modify, if_pos rfl, tracked] at absent
    cases absent
  rename_i session isTracked
  have tracked := tracked_of_getSession isTracked
  rw [isClean] at tracked
  by_cases isFirst : monitor.primaryTunnel.lookup released = some clean
  · rw [if_pos isFirst] at found
    dsimp only at found
    by_cases same : authToken = released
    · subst authToken
      left
      split at found
      · rw [Dictionary.lookup_erase_self] at found
        cases found
      · rename_i last isLast
        rw [Dictionary.lookup_set_self] at found
        cases found
        refine ⟨session, ?_,
          List.mem_mergeSort.mp (List.mem_of_getLast? isLast)⟩
        rw [sessions_releaseFrom, isClean]
        unfold modifySession at tracked
        rwa [isClean] at tracked
    · refine .inr ⟨?_, fun both => same both.1⟩
      split at found
      · rwa [Dictionary.lookup_erase_other same] at found
      · rwa [Dictionary.lookup_set_other same] at found
  · rw [if_neg isFirst] at found
    refine .inr ⟨found, ?_⟩
    rintro ⟨rfl, rfl⟩
    exact isFirst found

/-! ### The sets have no tunnel twice -/

/-- No session has a tunnel twice. -/
def SetsDistinct (monitor : RdpMonitor) : Prop :=
  ∀ authToken session,
    monitor.sessions.find? authToken = some session →
    session.tunnelUuids.Nodup

section Distinct

variable
    (sets : monitor.SetsDistinct)
include sets

theorem setsDistinct_modifySession
    {changed : String}
    {change : TrackedRdpSession → TrackedRdpSession}
    {keepsToken :
      ∀ session, (change session).authToken = session.authToken}
    (keeps :
      ∀ session,
        session.tunnelUuids.Nodup → (change session).tunnelUuids.Nodup) :
    (monitor.modifySession changed change keepsToken).SetsDistinct := by
  intro authToken session found
  unfold modifySession at found
  dsimp only at found
  rw [KeyedTable.find?_modify] at found
  split at found
  · obtain ⟨earlier, tracked, rfl⟩ := Option.map_eq_some_iff.mp found
    exact keeps earlier (sets _ _ tracked)
  · exact sets _ _ found

theorem setsDistinct_addTunnel
    (authToken tunnelUuid : String)
    (now : Int) :
    (monitor.addTunnel authToken tunnelUuid now).SetsDistinct := by
  unfold addTunnel
  have inserted :
      (monitor.modifySession authToken
          (fun session =>
            { session with
              tunnelUuids := session.tunnelUuids.insert (strip tunnelUuid)
              lastActivityAt := now })
          fun _ => rfl).SetsDistinct :=
    setsDistinct_modifySession sets fun _ distinct => distinct.insert
  exact inserted

theorem setsDistinct_touchTunnel
    (tunnelUuid : String)
    (now : Int) :
    (monitor.touchTunnel tunnelUuid now).SetsDistinct := by
  unfold touchTunnel
  split
  · exact sets
  split
  · exact sets
  · rename_i authToken _
    have touched : (monitor.touchAuthToken authToken now).SetsDistinct := by
      unfold touchAuthToken
      exact setsDistinct_modifySession sets fun _ distinct => distinct
    split
    · exact sets
    · exact touched

theorem setsDistinct_releaseFrom
    (authToken clean : String) :
    (monitor.releaseFrom authToken clean).SetsDistinct := by
  have taken :
      (monitor.modifySession authToken
          (fun session =>
            { session with
              tunnelUuids := session.tunnelUuids.erase clean })
          fun _ => rfl).SetsDistinct :=
    setsDistinct_modifySession sets fun _ distinct => distinct.erase clean
  unfold releaseFrom
  dsimp only
  split
  · exact taken
  · split
    · exact taken
    · exact taken

theorem setsDistinct_registerSession
    (registration : Registration)
    (now : Int) :
    (monitor.registerSession registration now).SetsDistinct := by
  unfold registerSession
  split
  · exact sets
  · intro authToken session found
    dsimp only at found
    rw [KeyedTable.find?_upsert] at found
    split at found
    · cases tracked : monitor.sessions.find? authToken with
      | none =>
        rw [tracked] at found
        cases found
        exact List.nodup_nil
      | some earlier =>
        rw [tracked] at found
        cases found
        have earlierSet : earlier.tunnelUuids.Nodup := sets _ _ tracked
        exact earlierSet
    · exact sets _ _ found

theorem setsDistinct_removeSession
    (removed : String) :
    (monitor.removeSession removed).SetsDistinct := by
  unfold removeSession
  split
  · exact sets
  · intro authToken session found
    dsimp only at found
    by_cases same : authToken = strip removed
    · rw [same, KeyedTable.find?_delete_self] at found
      cases found
    · rw [KeyedTable.find?_delete _ same] at found
      exact sets _ _ found

end Distinct

/-! ### Every call keeps the representation -/

/-- The invariant: sets and maps have nothing twice, and agree. -/
structure Consistent (monitor : RdpMonitor) : Prop extends
    monitor.Represents where
  setsDistinct : monitor.SetsDistinct
  tunnelsDistinct : (monitor.tokenByTunnel.map Prod.fst).Nodup

namespace Consistent

theorem empty (idleTimeoutSeconds : Int) :
    Consistent { idleTimeoutSeconds } where
  tokenByTunnel := by
    intro tunnel authToken
    refine ⟨nofun, ?_⟩
    rintro ⟨session, tracked, _⟩
    cases tracked
  primaryTunnel := by
    intro authToken tunnel found
    cases found
  setsDistinct := by
    intro authToken session tracked
    cases tracked
  tunnelsDistinct := List.nodup_nil

section Keeping

variable
    (consistent : monitor.Consistent)
include consistent

theorem registerSession
    (registration : Registration)
    (now : Int) :
    (monitor.registerSession registration now).Consistent := by
  have sameTokens :
      (monitor.registerSession registration now).tokenByTunnel =
        monitor.tokenByTunnel := by
    unfold RdpMonitor.registerSession
    split <;> rfl
  have samePrimary :
      (monitor.registerSession registration now).primaryTunnel =
        monitor.primaryTunnel := by
    unfold RdpMonitor.registerSession
    split <;> rfl
  refine ⟨⟨?_, ?_⟩, ?_, ?_⟩
  · intro tunnel authToken
    rw [sameTokens, binds_registerSession]
    exact consistent.tokenByTunnel tunnel authToken
  · intro authToken tunnel found
    rw [samePrimary] at found
    exact binds_registerSession.mpr
      (consistent.primaryTunnel authToken tunnel found)
  · exact setsDistinct_registerSession consistent.setsDistinct _ _
  · rw [sameTokens]
    exact consistent.tunnelsDistinct

theorem addTunnel
    {authToken tunnelUuid : String}
    (tracks : monitor.Tracks (strip authToken))
    (free :
      ∀ bound ∈ monitor.tokenByTunnel.lookup (strip tunnelUuid),
        bound = strip authToken)
    (now : Int) :
    (monitor.addTunnel authToken tunnelUuid now).Consistent := by
  have tokens :
      (monitor.addTunnel authToken tunnelUuid now).tokenByTunnel =
        Dictionary.set (strip tunnelUuid) (strip authToken)
          monitor.tokenByTunnel := by
    unfold RdpMonitor.addTunnel
    rfl
  have primary :
      (monitor.addTunnel authToken tunnelUuid now).primaryTunnel =
        Dictionary.set (strip authToken) (strip tunnelUuid)
          monitor.primaryTunnel := by
    unfold RdpMonitor.addTunnel
    rfl
  refine ⟨⟨?_, ?_⟩, ?_, ?_⟩
  · intro tunnel token
    rw [tokens, binds_addTunnel tracks]
    by_cases isAdded : tunnel = strip tunnelUuid
    · subst tunnel
      rw [Dictionary.lookup_set_self, Option.some.injEq]
      constructor
      · rintro rfl
        exact .inr ⟨rfl, rfl⟩
      · rintro (binds | ⟨rfl, _⟩)
        · exact (free token ((consistent.tokenByTunnel _ _).mpr binds)).symm
        · rfl
    · rw [Dictionary.lookup_set_other isAdded,
        consistent.tokenByTunnel tunnel token]
      simp [isAdded]
  · intro token tunnel found
    rw [primary] at found
    rw [binds_addTunnel tracks]
    by_cases isAdded : token = strip authToken
    · subst token
      rw [Dictionary.lookup_set_self] at found
      exact .inr ⟨rfl, (Option.some.inj found).symm⟩
    · rw [Dictionary.lookup_set_other isAdded] at found
      exact .inl (consistent.primaryTunnel token tunnel found)
  · exact setsDistinct_addTunnel consistent.setsDistinct _ _ _
  · rw [tokens]
    exact Dictionary.nodup_keys_set _ _ consistent.tunnelsDistinct

theorem bindTunnel
    {authToken tunnelUuid : String}
    {now : Int}
    (free : BindsFree monitor (.bindTunnel authToken tunnelUuid now)) :
    (monitor.bindTunnel authToken tunnelUuid now).Consistent := by
  unfold RdpMonitor.bindTunnel
  split
  · exact consistent
  rename_i nonempty
  obtain ⟨named, given⟩ := not_or.mp nonempty
  split
  · rename_i tracked
    refine consistent.addTunnel ?_ (free named given) now
    obtain ⟨session, found⟩ := Option.isSome_iff_exists.mp tracked
    exact Option.isSome_iff_exists.mpr ⟨session, tracked_of_getSession found⟩
  · have registered := consistent.registerSession { authToken } now
    refine registered.addTunnel ?_ ?_ now
    · have isOwn :
          (Registration.created { authToken } now named).authToken =
            strip authToken := rfl
      unfold Tracks RdpMonitor.registerSession
      rw [dif_neg named]
      dsimp only
      rw [KeyedTable.find?_upsert, if_pos isOwn]
      rfl
    · intro bound member
      have binds :=
        binds_registerSession.mp ((registered.tokenByTunnel _ _).mp member)
      exact free named given bound ((consistent.tokenByTunnel _ _).mpr binds)

theorem touchTunnel
    (tunnelUuid : String)
    (now : Int) :
    (monitor.touchTunnel tunnelUuid now).Consistent := by
  have sameTokens :
      (monitor.touchTunnel tunnelUuid now).tokenByTunnel =
        monitor.tokenByTunnel := by
    unfold RdpMonitor.touchTunnel touchAuthToken
    split
    · rfl
    split
    · rfl
    · split <;> rfl
  refine ⟨⟨?_, ?_⟩, ?_, ?_⟩
  · intro tunnel authToken
    rw [sameTokens, binds_touchTunnel]
    exact consistent.tokenByTunnel tunnel authToken
  · intro authToken tunnel found
    rw [binds_touchTunnel]
    unfold RdpMonitor.touchTunnel at found
    split at found
    · exact consistent.primaryTunnel _ _ found
    split at found
    · exact consistent.primaryTunnel _ _ found
    · rename_i touched bound
      split at found
      · exact consistent.primaryTunnel _ _ found
      · dsimp only at found
        by_cases isTouched : authToken = touched
        · subst authToken
          rw [Dictionary.lookup_set_self] at found
          cases found
          exact (consistent.tokenByTunnel _ _).mp bound
        · rw [Dictionary.lookup_set_other isTouched] at found
          exact consistent.primaryTunnel _ _ found
  · exact setsDistinct_touchTunnel consistent.setsDistinct _ _
  · rw [sameTokens]
    exact consistent.tunnelsDistinct

theorem releaseFrom
    {released clean : String}
    (bound : monitor.tokenByTunnel.lookup clean = some released) :
    (monitor.releaseFrom released clean).Consistent := by
  have binds := (consistent.tokenByTunnel _ _).mp bound
  have isClean := binds.tracks.clean.1
  have bindsAfter :
      ∀ authToken tunnel,
        (monitor.releaseFrom released clean).Binds authToken tunnel ↔
          monitor.Binds authToken tunnel ∧
            ¬ (authToken = released ∧ tunnel = clean) :=
    fun _ _ => binds_releaseFrom isClean consistent.setsDistinct
  have tokens :
      (monitor.releaseFrom released clean).tokenByTunnel =
        Dictionary.erase clean monitor.tokenByTunnel := by
    unfold RdpMonitor.releaseFrom
    dsimp only
    split
    · rfl
    · split <;> rfl
  refine ⟨⟨?_, ?_⟩, ?_, ?_⟩
  · intro tunnel authToken
    rw [tokens, bindsAfter]
    by_cases isReleased : tunnel = clean
    · subst tunnel
      rw [Dictionary.lookup_erase_self]
      refine ⟨fun isBound => ?_, ?_⟩
      · cases isBound
      rintro ⟨others, different⟩
      have same :=
        bound.symm.trans ((consistent.tokenByTunnel _ _).mpr others)
      exact absurd ⟨(Option.some.inj same).symm, rfl⟩ different
    · rw [Dictionary.lookup_erase_other isReleased, consistent.tokenByTunnel]
      simp [isReleased]
  · intro authToken tunnel found
    rcases primary_releaseFrom binds.tracks found with isBound | ⟨was, other⟩
    · exact isBound
    · exact (bindsAfter _ _).mpr ⟨consistent.primaryTunnel _ _ was, other⟩
  · exact setsDistinct_releaseFrom consistent.setsDistinct _ _
  · rw [tokens]
    exact consistent.tunnelsDistinct.sublist (List.filter_sublist.map Prod.fst)

theorem releaseTunnel
    (tunnelUuid : String) :
    (monitor.releaseTunnel tunnelUuid).Consistent := by
  unfold RdpMonitor.releaseTunnel
  dsimp only
  split
  · exact consistent
  split
  · exact consistent
  · rename_i bound
    exact consistent.releaseFrom bound

theorem releaseAllTunnels
    (authToken : String) :
    (monitor.releaseAllTunnels authToken).Consistent := by
  unfold RdpMonitor.releaseAllTunnels
  split
  · exact consistent
  · rename_i session found
    clear found
    generalize sortedTunnels session = tunnels
    induction tunnels generalizing monitor with
    | nil =>
      exact consistent
    | cons tunnel rest inductionHypothesis =>
      exact inductionHypothesis (consistent.releaseTunnel tunnel)

theorem removeSession
    (removed : String) :
    (monitor.removeSession removed).Consistent := by
  cases found : monitor.getSession removed with
  | none =>
    have same : monitor.removeSession removed = monitor := by
      unfold RdpMonitor.removeSession
      rw [found]
    rw [same]
    exact consistent
  | some session =>
    have tracked := tracked_of_getSession found
    have tokens :
        (monitor.removeSession removed).tokenByTunnel =
          monitor.tokenByTunnel.filter fun entry =>
            !(decide (entry.1 ∈ session.tunnelUuids) &&
              decide (entry.2 = strip removed)) := by
      unfold RdpMonitor.removeSession
      rw [found]
    have primary :
        (monitor.removeSession removed).primaryTunnel =
          Dictionary.erase (strip removed) monitor.primaryTunnel := by
      unfold RdpMonitor.removeSession
      rw [found]
    refine ⟨⟨?_, ?_⟩, ?_, ?_⟩
    · intro tunnel authToken
      rw [tokens, binds_removeSession,
        Dictionary.lookup_filter_distinct consistent.tunnelsDistinct,
        Option.filter_eq_some_iff, consistent.tokenByTunnel]
      refine and_congr_right fun binds => ?_
      have inSet : authToken = strip removed →
          tunnel ∈ session.tunnelUuids := by
        rintro rfl
        obtain ⟨other, otherTracked, member⟩ := binds
        obtain rfl := Option.some.inj (otherTracked.symm.trans tracked)
        exact member
      simp only [Bool.not_eq_true', Bool.and_eq_false_imp,
        decide_eq_true_eq, decide_eq_false_iff_not]
      exact ⟨fun kept isRemoved => kept (inSet isRemoved) isRemoved,
        fun different _ => different⟩
    · intro authToken tunnel isPrimary
      rw [primary] at isPrimary
      rw [binds_removeSession]
      by_cases isRemoved : authToken = strip removed
      · rw [isRemoved, Dictionary.lookup_erase_self] at isPrimary
        cases isPrimary
      · rw [Dictionary.lookup_erase_other isRemoved] at isPrimary
        exact ⟨consistent.primaryTunnel _ _ isPrimary, isRemoved⟩
    · exact setsDistinct_removeSession consistent.setsDistinct _
    · rw [tokens]
      exact
        consistent.tunnelsDistinct.sublist (List.filter_sublist.map Prod.fst)

theorem perform
    {call : MonitorCall}
    (free : BindsFree monitor call) :
    (monitor.perform call).Consistent := by
  cases call with
  | registerSession registration now =>
    exact consistent.registerSession registration now
  | bindTunnel authToken tunnelUuid now =>
    exact consistent.bindTunnel free
  | touchTunnel tunnelUuid now =>
    exact consistent.touchTunnel tunnelUuid now
  | releaseTunnel tunnelUuid =>
    exact consistent.releaseTunnel tunnelUuid
  | releaseAllTunnels authToken =>
    exact consistent.releaseAllTunnels authToken
  | removeSession authToken =>
    exact consistent.removeSession authToken

end Keeping

end Consistent

/-- The maps are kept while no tunnel is taken from another session. -/
theorem keepsRepresentation_of_bindsFree
    {idleTimeoutSeconds : Int}
    {calls : List MonitorCall}
    {reached : RdpMonitor}
    (run :
      Run (Guarded (Fires step?) BindsFree) { idleTimeoutSeconds } calls
        reached) :
    reached.Represents := by
  have stepPreserves :
      ∀ (before : RdpMonitor) call after,
        Guarded (Fires step?) BindsFree before call after →
        before.Consistent →
        after.Consistent := by
    rintro before call after ⟨fired, free⟩ consistent
    obtain rfl := Option.some.inj fired
    exact consistent.perform free
  exact (run.preserves stepPreserves (.empty idleTimeoutSeconds)).toRepresents

/-! ### A tunnel that moves from one session to another -/

instance (monitor : RdpMonitor) (call : MonitorCall) :
    Decidable (BindsFree monitor call) :=
  match call with
  | .bindTunnel authToken tunnelUuid _ =>
    inferInstanceAs
      (Decidable
        (strip authToken ≠ "" →
          strip tunnelUuid ≠ "" →
          ∀ bound ∈ monitor.tokenByTunnel.lookup (strip tunnelUuid),
            bound = strip authToken))
  | .registerSession _ _ | .touchTunnel _ _ | .releaseTunnel _
  | .releaseAllTunnels _ | .removeSession _ =>
    inferInstanceAs (Decidable True)

/-- A tunnel is released by its session before another one gets it. -/
def releasedFirst : List MonitorCall :=
  [.registerSession { authToken := "token-1", agentId := "agent-1" } 10,
    .bindTunnel "token-1" "tunnel-1" 11,
    .bindTunnel "token-1" "tunnel-2" 12,
    .touchTunnel "tunnel-1" 13,
    .releaseTunnel "tunnel-1",
    .bindTunnel "token-2" "tunnel-1" 14,
    .releaseAllTunnels "token-1",
    .removeSession "token-1"]

theorem releasedFirst_represents :
    ∃ reached : RdpMonitor,
      Run (Guarded (Fires step?) BindsFree) {} releasedFirst reached ∧
        reached.tokenByTunnel.lookup "tunnel-1" = some "token-2" ∧
        reached.Represents := by
  obtain ⟨reached, checkedRun, bound⟩ :=
    exists_run_of_execute
      (show (execute (checked step? BindsFree) {} releasedFirst).any
          (fun monitor =>
            decide
              (monitor.tokenByTunnel.lookup "tunnel-1" =
                some "token-2")) = true by
        decide +kernel)
  have run := checkedRun.guarded_of_checked
  exact
    ⟨reached, run, of_decide_eq_true bound,
      keepsRepresentation_of_bindsFree run⟩

/-- A tunnel that another session gets stays in the set of the first. -/
theorem not_keepsRepresentation : ¬ KeepsRepresentation (Fires step?) := by
  intro claimed
  obtain ⟨reached, run, taken⟩ :=
    exists_run_of_execute
      (show (execute step? {}
          [.bindTunnel "token-1" "tunnel-1" 10,
            .bindTunnel "token-2" "tunnel-1" 11]).any
          (fun monitor =>
            decide
                (monitor.tokenByTunnel.lookup "tunnel-1" = some "token-2") &&
              (monitor.sessions.find? "token-1").any
                fun session => decide ("tunnel-1" ∈ session.tunnelUuids)) =
            true by
        decide +kernel)
  rw [Bool.and_eq_true] at taken
  obtain ⟨bound, kept⟩ := taken
  obtain ⟨session, tracked, member⟩ := (Option.any_eq_true _ _).mp kept
  have isFirst :=
    ((claimed run).tokenByTunnel "tunnel-1" "token-1").mpr
      ⟨session, tracked, of_decide_eq_true member⟩
  have isSecond := of_decide_eq_true bound
  rw [isFirst] at isSecond
  exact absurd isSecond (by decide)

end Bindings

end RdpMonitor

end RpaPlatform.Agents
