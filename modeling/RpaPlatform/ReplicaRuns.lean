import RpaPlatform.Replica

namespace RpaPlatform.Replica

open Agents (HeartbeatData JsonObject TextLibrary)
open Tasks (Json)
open Transition

/-!
# What the server holds after any run

As long as the sessions of an agent keep their ids, the server holds a record
exactly of what it has been told, whether that came as a full record or as a
difference.  Whether the record also shows what was told depends on the
differences, so the proof leaves open what a record is to show.
-/

/-! ### Heartbeats -/

section Heartbeats

variable {shows : JsonObject → Content → Prop}

variable {told : List Told}

theorem HoldsTold.processes
    {state : JsonObject}
    (holds : HoldsTold shows state told)
    {session : Told}
    (member : session ∈ told) :
    HoldsProcesses shows
      (Agents.processesOf
        (Agents.sessionAt state (sessionKey session.sessionId)))
      session.content? := by
  obtain ⟨fields, processes, isStored, isProcesses, held⟩ :=
    holds.stored session member
  unfold Agents.sessionAt
  rw [isStored]
  dsimp only
  unfold Agents.processesOf
  rw [isProcesses]
  exact held

theorem HoldsTold.session
    {state : JsonObject}
    {told : List Told}
    (holds : HoldsTold shows state told)
    (sessionId : Nat) :
    Agents.StoresProcesses
        (Agents.sessionAt state (sessionKey sessionId)) ∧
      HoldsProcesses shows
        (Agents.processesOf (Agents.sessionAt state (sessionKey sessionId)))
        (toldOf told sessionId) := by
  unfold toldOf
  cases isTold : told.find? fun session => session.sessionId = sessionId with
  | none =>
    have untold : state.lookup (sessionKey sessionId) = none := by
      by_contra present
      obtain ⟨session, member, sameKey⟩ :=
        holds.sessions _ (isSessionKey_sessionKey sessionId)
          (Option.isSome_iff_ne_none.mpr present)
      have other := List.find?_eq_none.mp isTold session member
      exact other (by simpa using (sessionKey_injective sameKey).symm)
    unfold Agents.sessionAt
    rw [untold]
    exact ⟨⟨.inr rfl, fun _ _ => nofun⟩, holdsProcesses_nil⟩
  | some session =>
    have member := List.mem_of_find?_eq_some isTold
    have sameId : session.sessionId = sessionId := by
      simpa using List.find?_some isTold
    subst sameId
    have held := holds.processes member
    refine ⟨⟨.inl ?_, held.objects⟩, held⟩
    obtain ⟨fields, processes, isStored, isProcesses, _⟩ :=
      holds.stored session member
    unfold Agents.sessionAt
    rw [isStored]
    dsimp only
    unfold Agents.processesOf
    rw [isProcesses]

theorem holdsProcesses_merged
    {library : TextLibrary}
    {presented : SessionManager.PresentedSession}
    (samePids : presented.processes.map Prod.fst = presented.session.pids)
    {sync : Bool}
    (tells :
      ∀ entry ∈ presented.processes,
        Tells shows sync
          (toldOf told presented.session.sessionId entry.1) entry.2)
    (remembers :
      sync = false →
      ∀ pid,
        (toldOf told presented.session.sessionId pid).isSome = true →
        pid ∈ presented.session.lastReportedPids)
    {state : JsonObject}
    (holds : sync = false → HoldsTold shows state told) :
    ∃ fields processes,
      Agents.mergeSession library sync
          (Agents.sessionAt state presented.session.key)
          (presented.summary sync) =
        { changed := fields, raised := false } ∧
        fields.lookup "processes" = some (.obj processes) ∧
        HoldsProcesses shows processes
          (tellSession sync told presented).content? := by
  have lists := listsProcesses_summary samePids sync
  cases sync with
  | true =>
    obtain ⟨fields, isMerged, isProcesses⟩ :=
      @Agents.mergeSession_sync library _ _ lists
        (Agents.sessionAt state presented.session.key)
    exact
      ⟨fields, _, isMerged, isProcesses,
        holdsProcesses_sync samePids told tells⟩
  | false =>
    obtain ⟨stores, held⟩ :=
      (holds rfl).session presented.session.sessionId
    obtain ⟨fields, processes, isMerged, isProcesses, becomes⟩ :=
      @Agents.mergeSession_difference library _ _ _ stores lists
    refine ⟨fields, processes, isMerged, isProcesses, ?_⟩
    rcases becomes with ⟨_, counted, rfl⟩ | becomes
    · have nothing := processes_of_processCount samePids counted
      unfold tellSession
      rw [nothing]
      exact holdsProcesses_nil
    · exact
        holdsProcesses_difference samePids tells (remembers rfl) held becomes

theorem toldOf_cons
    (first : Told)
    (rest : List Told)
    (sessionId pid : Nat) :
    toldOf (first :: rest) sessionId pid =
      if first.sessionId = sessionId then first.content? pid
      else toldOf rest sessionId pid := by
  unfold toldOf
  rw [List.find?_cons]
  by_cases same : first.sessionId = sessionId
  · simp [same]
  · simp [same]

theorem reported_of_told
    {sessions : List UserSession}
    {told : List Told}
    {last later : List (List Nat)}
    (reported :
      List.Forall₂
        (fun pids (session : Told) =>
          ∀ pid, (session.content? pid).isSome = true → pid ∈ pids)
        last told)
    (isReported : sessions.map UserSession.lastReportedPids = last ++ later)
    (distinct : (sessions.map UserSession.sessionId).Nodup)
    (kept : told.map Told.sessionId <+: sessions.map UserSession.sessionId)
    {session : UserSession}
    (member : session ∈ sessions)
    {pid : Nat}
    (isTold : (toldOf told session.sessionId pid).isSome = true) :
    pid ∈ session.lastReportedPids := by
  induction reported generalizing sessions with
  | nil =>
    cases isTold
  | cons isFirst _ inductionHypothesis =>
    cases sessions with
    | nil =>
      cases member
    | cons first rest =>
      obtain ⟨isPids, reportedRest⟩ := List.cons.inj isReported
      obtain ⟨fresh, distinctRest⟩ := List.nodup_cons.mp distinct
      obtain ⟨sameId, keptRest⟩ := List.cons_prefix_cons.mp kept
      rw [toldOf_cons] at isTold
      rcases List.mem_cons.mp member with rfl | isRest
      · rw [if_pos sameId] at isTold
        exact isPids ▸ isFirst pid isTold
      · have different : session.sessionId ≠ first.sessionId := by
          intro same
          exact fresh (same ▸ List.mem_map_of_mem isRest)
        rw [sameId, if_neg (Ne.symm different)] at isTold
        exact
          inductionHypothesis reportedRest distinctRest keptRest isRest isTold

theorem Remembers.reported
    {agent : SessionManager}
    (remembers : Remembers agent told)
    {input : ReportInput}
    (keeps : KeepsIds agent false told)
    {presented : SessionManager.PresentedSession}
    (member : presented ∈ agent.found input)
    {pid : Nat}
    (isTold : (toldOf told presented.session.sessionId pid).isSome = true) :
    pid ∈ presented.session.lastReportedPids := by
  obtain ⟨last, added, isReported, reported⟩ := remembers
  have ids :
      (agent.named.map Prod.snd).map UserSession.sessionId =
        agent.sessionIds := by
    rw [List.map_map]
    rfl
  have isSession : presented.session ∈ agent.named.map Prod.snd := by
    rw [← agent.sessions_presentedSessions input []]
    exact List.mem_map_of_mem member
  refine
    @reported_of_told (agent.named.map Prod.snd) told last
      (List.replicate added []) reported ?_ ?_ ?_ presented.session
      isSession pid isTold
  · rw [List.map_map]
    exact isReported
  · rw [ids]
    exact keeps.distinct
  · rw [ids]
    exact keeps.kept rfl

/-- A heartbeat makes what the server holds what it has been told. -/
theorem holdsTold_merged
    {library : TextLibrary}
    {agent : SessionManager}
    {input : ReportInput}
    {told : List Told}
    (keeps : KeepsIds agent input.sync told)
    (remembers : input.sync = false → Remembers agent told)
    (tells :
      ∀ presented ∈ agent.found input,
        ∀ entry ∈ presented.processes,
          Tells shows input.sync
            (toldOf told presented.session.sessionId entry.1) entry.2)
    {state : JsonObject}
    (isStored : Agents.HoldsSessions state)
    (holds : input.sync = false → HoldsTold shows state told)
    {payload : HeartbeatData}
    (reports : payload.agentStatus = some (agent.getStatus input).1)
    (isSync : payload.sync = input.sync)
    (now : Int) :
    HoldsTold shows
      (Agents.mergeAgentState library payload now state).changed
      ((agent.found input).map (tellSession input.sync told)) := by
  have status : payload.agentStatus.getD [] = statusOf agent input := by
    rw [reports, getStatus_of_distinct keeps.distinct]
    rfl
  have merged :
      ∀ presented ∈ agent.found input,
        ∃ fields processes,
          Agents.mergeSession library input.sync
              (Agents.sessionAt state presented.session.key)
              (presented.summary input.sync) =
            { changed := fields, raised := false } ∧
            fields.lookup "processes" = some (.obj processes) ∧
            HoldsProcesses shows processes
              (tellSession input.sync told presented).content? := by
    intro presented member
    refine
      holdsProcesses_merged (agent.pids_found input member)
        (tells presented member) ?_ holds
    intro isDifference pid isTold
    have keepsDifference : KeepsIds agent false told := isDifference ▸ keeps
    exact (remembers isDifference).reported keepsDifference member isTold
  have becomes :=
    fun key isSession =>
      @Agents.lookup_mergedSessions library payload now state isStored
        (by rw [status]; exact reportsSessions_statusOf keeps.distinct)
        (by
          intro key data member
          rw [status] at member
          obtain ⟨presented, found, rfl, isData⟩ :=
            exists_of_mem_statusOf member
          cases isData
          obtain ⟨fields, processes, isMerged, _⟩ := merged presented found
          rw [isSync, isMerged])
        key isSession
  refine ⟨?_, ?_⟩
  · intro key isSession present
    rw [becomes key isSession, status, isSync] at present
    cases reported : (statusOf agent input).lookup key with
    | some value =>
      obtain ⟨presented, found, rfl, _⟩ :=
        exists_of_mem_statusOf (Dictionary.mem_of_lookup reported)
      exact ⟨_, List.mem_map_of_mem found, rfl⟩
    | none =>
      rw [reported] at present
      dsimp only at present
      split at present
      · cases present
      · rename_i notSync
        have isDifference : input.sync = false := by
          simpa using notSync
        obtain ⟨session, member, rfl⟩ :=
          (holds isDifference).sessions key isSession present
        have isId : session.sessionId ∈ agent.sessionIds :=
          (keeps.kept isDifference).subset (List.mem_map_of_mem member)
        rw [← sessionIds_found agent input] at isId
        obtain ⟨presented, found, sameId⟩ := List.mem_map.mp isId
        exact ⟨_, List.mem_map_of_mem found, congrArg sessionKey sameId.symm⟩
  · intro session member
    obtain ⟨presented, found, rfl⟩ := List.mem_map.mp member
    obtain ⟨fields, processes, isMerged, isProcesses, held⟩ :=
      merged presented found
    refine ⟨fields, processes, ?_, isProcesses, held⟩
    have reported := lookup_statusOf keeps.distinct found
    have stored :=
      becomes _ (isSessionKey_sessionKey presented.session.sessionId)
    unfold UserSession.key at reported isMerged
    rw [status, reported, isSync] at stored
    dsimp only at stored
    rw [isMerged] at stored
    exact stored

end Heartbeats

/-! ### Runs -/

section Runs

/-- Every session that is held is an object, and holds what was told. -/
structure Tracks
    (shows : JsonObject → Content → Prop)
    (setting : ReplicaSetting)
    (replication : Replication) : Prop where
  sessions : Agents.HoldsSessions (replication.held setting)
  told :
    ∀ told,
      replication.told = some told →
      HoldsTold shows (replication.held setting) told ∧
        Remembers replication.agent told

/-- A heartbeat tells the server of sessions that keep their ids. -/
def TellsAll
    (shows : JsonObject → Content → Prop)
    (replication : Replication) : ReplicaAction → Prop
  | .act _ =>
    True
  | .beat input _ _ =>
    KeepsIds replication.agent input.sync (replication.told.getD []) ∧
      ∀ presented ∈ replication.agent.found input,
        ∀ entry ∈ presented.processes,
          Tells shows input.sync
            (toldOf (replication.told.getD [])
              presented.session.sessionId entry.1)
            entry.2

variable
    {shows : JsonObject → Content → Prop}
    {setting : ReplicaSetting}

theorem Remembers.act
    {agent : SessionManager}
    {told : List Told}
    (remembers : Remembers agent told)
    (library : SystemLibrary)
    (action : AgentAction) :
    Remembers (agent.act library action) told := by
  obtain ⟨last, added, isReported, reported⟩ := remembers
  obtain ⟨more, isMore⟩ := agent.reportedPids_act library action
  refine ⟨last, added + more, ?_, reported⟩
  rw [isMore, isReported, List.append_assoc, List.replicate_append_replicate]

theorem reportedPids_getStatus (agent : SessionManager) (input : ReportInput) :
    (agent.getStatus input).2.reportedPids =
      (agent.found input).map fun presented => presented.session.pids := by
  have sessions :=
    congrArg (List.map UserSession.lastReportedPids)
      (agent.sessions_getStatus input)
  rw [List.map_map, List.map_map] at sessions
  exact sessions

theorem isSome_content?_tellSession
    {presented : SessionManager.PresentedSession}
    (samePids : presented.processes.map Prod.fst = presented.session.pids)
    {sync : Bool}
    {told : List Told}
    {pid : Nat}
    (isTold : ((tellSession sync told presented).content? pid).isSome = true) :
    pid ∈ presented.session.pids := by
  unfold tellSession at isTold
  dsimp only at isTold
  cases found : presented.processes.lookup pid with
  | none =>
    rw [found] at isTold
    cases isTold
  | some process =>
    rw [← samePids]
    exact List.mem_map.mpr ⟨_, Dictionary.mem_of_lookup found, rfl⟩

theorem remembers_getStatus
    (agent : SessionManager)
    (input : ReportInput)
    (told : List Told) :
    Remembers (agent.getStatus input).2
      ((agent.found input).map (tellSession input.sync told)) := by
  refine ⟨_, 0, (List.append_nil _).symm, ?_⟩
  rw [reportedPids_getStatus, List.forall₂_map_left_iff,
    List.forall₂_map_right_iff, List.forall₂_same]
  intro presented member pid isTold
  exact isSome_content?_tellSession (agent.pids_found input member) isTold

variable
    {before after : Replication}
    {input : ReportInput}
    {systemMetrics : Option JsonObject}

theorem held_beat
    {now : Int}
    (taken :
      before.step? setting (.beat input systemMetrics now) = some after) :
    after.agent = (before.agent.getStatus input).2 ∧
      after.told =
        some
          ((before.agent.found input).map
            (tellSession input.sync (before.told.getD []))) ∧
      after.held setting =
        (Agents.mergeAgentState setting.text
          (Replication.heartbeat setting before.agent input systemMetrics)
          now (before.held setting)).changed := by
  unfold Replication.step? at taken
  dsimp only at taken
  split at taken
  · cases taken
  · cases taken
    refine ⟨rfl, rfl, ?_⟩
    have merged :=
      (Agents.runtime_mergeHeartbeat setting.text
        (Replication.heartbeat setting before.agent input systemMetrics) now
        before.server).1
    unfold Replication.held Agents.AgentRuntime.stateOf
    dsimp only
    rw [merged]
    exact congrArg (fun found => Option.getD found [])
      (Dictionary.lookup_set_self _ _ _)

theorem told_of_difference
    {now : Int}
    (taken : before.step? setting (.beat input systemMetrics now) = some after)
    (isDifference : input.sync = false) :
    before.told = some (before.told.getD []) := by
  cases isTold : before.told with
  | none =>
    simp [Replication.step?, isTold, isDifference] at taken
  | some told =>
    rfl

theorem tracks_step
    {action : ReplicaAction}
    (taken : before.step? setting action = some after)
    (tells : TellsAll shows before action)
    (tracks : Tracks shows setting before) :
    Tracks shows setting after := by
  cases action with
  | act action =>
    cases taken
    refine ⟨tracks.sessions, fun told isTold => ?_⟩
    obtain ⟨holds, remembers⟩ := tracks.told told isTold
    exact ⟨holds, remembers.act setting.system action⟩
  | beat input systemMetrics now =>
    obtain ⟨keeps, tellsProcesses⟩ := tells
    obtain ⟨isAgent, isTold, isHeld⟩ := held_beat taken
    have known :
        input.sync = false →
        HoldsTold shows (before.held setting) (before.told.getD []) ∧
          Remembers before.agent (before.told.getD []) :=
      fun isDifference =>
        tracks.told _ (told_of_difference taken isDifference)
    have holds :=
      @holdsTold_merged shows setting.text before.agent input _ keeps
        (fun isDifference => (known isDifference).2) tellsProcesses
        _ tracks.sessions (fun isDifference => (known isDifference).1)
        (Replication.heartbeat setting before.agent input systemMetrics)
        rfl rfl now
    have sessions :=
      tracks.sessions.mergeAgentState setting.text
        (Replication.heartbeat setting before.agent input systemMetrics)
        now
    rw [← isHeld] at holds sessions
    refine ⟨sessions, fun told isNow => ?_⟩
    rw [isTold] at isNow
    cases isNow
    rw [isAgent]
    exact ⟨holds, remembers_getStatus _ _ _⟩

theorem tracks_of_run
    {condition : Replication → ReplicaAction → Prop}
    (tells :
      ∀ replication action,
        condition replication action → TellsAll shows replication action)
    {start after : Replication}
    {actions : List ReplicaAction}
    (run :
      Run (Guarded (Fires (Replication.step? setting)) condition) start
        actions after)
    (tracks : Tracks shows setting start) :
    Tracks shows setting after := by
  have preserved :
      ∀ before action after,
        Guarded (Fires (Replication.step? setting)) condition before action
          after →
        Tracks shows setting before →
        Tracks shows setting after :=
    fun before action _ taken holds =>
      tracks_step taken.1 (tells before action taken.2) holds
  exact run.preserves preserved tracks

/--
After the last heartbeat of a run that begins with a full sync, the server
holds what that heartbeat has told it.
-/
theorem holdsTold_of_run
    {condition : Replication → ReplicaAction → Prop}
    (tells :
      ∀ replication action,
        condition replication action → TellsAll shows replication action)
    {start after : Replication}
    (untold : start.told = none)
    (sessions : Agents.HoldsSessions (start.held setting))
    {actions : List ReplicaAction}
    {now : Int}
    (run :
      Run (Guarded (Fires (Replication.step? setting)) condition) start
        (actions ++ [.beat input systemMetrics now]) after) :
    ∃ before,
      condition before (.beat input systemMetrics now) ∧
        after.agent = (before.agent.getStatus input).2 ∧
        HoldsTold shows (after.held setting)
          ((before.agent.found input).map
            (tellSession input.sync (before.told.getD []))) := by
  obtain ⟨before, earlier, last⟩ := run.split
  have tracksStart : Tracks shows setting start :=
    ⟨sessions, fun told isTold => by rw [untold] at isTold; cases isTold⟩
  have tracks := tracks_of_run tells earlier tracksStart
  cases last with
  | cons taken nothing =>
    cases nothing
    obtain ⟨fired, meets⟩ := taken
    obtain ⟨isAgent, isTold, _⟩ := held_beat fired
    have tracksAfter := tracks_step fired (tells _ _ meets) tracks
    exact ⟨before, meets, isAgent, (tracksAfter.told _ isTold).1⟩

end Runs

end RpaPlatform.Replica
