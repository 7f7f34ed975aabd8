import RpaPlatform.AgentLifecycle

namespace RpaPlatform.Agents

open Tasks (Json)
open Transition

/-!
# The connection flag of an agent

`active_agents` says which agents have a connection, and the connection record
in `latest_stats` says so as well.  `register_agent`, `unregister_agent`,
`timeout_agent`, `merge_heartbeat` and `remove_agent` change one or both.  A
timeout takes the agent's connection off, awaits its closing and resets the
record only then, and a heartbeat marks the agent it names as connected,
whether it has a connection or not.
-/

/-! ### The operations -/

/-- Whether a connection record says that the agent is connected. -/
def recordSaysConnected (connection : JsonObject) : Bool :=
  match connection.lookup "connected" with
  | some (.bool connected) => connected
  | _ => false

/-- Whether the state of an agent says that it is connected. -/
def stateSaysConnected (state : JsonObject) : Bool :=
  match state.lookup "__agent_connection" with
  | some (.obj connection) => recordSaysConnected connection
  | _ => false

namespace AgentRuntime

def saysConnected (runtime : AgentRuntime) (agentId : String) : Bool :=
  (runtime.latestStats.lookup agentId).any stateSaysConnected

def isActive (runtime : AgentRuntime) (agentId : String) : Bool :=
  (runtime.activeAgents.lookup agentId).isSome

/-- `unregister_agent`, with or without a connection. -/
def unregister
    (runtime : AgentRuntime)
    (clientId : Option String)
    (socket : Option Nat)
    (now : Int) : AgentRuntime :=
  let current :=
    clientId.bind fun agentId => runtime.activeAgents.lookup agentId
  (runtime.unregisterAgent clientId ((socket.or current).getD 0) now).1.changed

def removeAgent
    (runtime : AgentRuntime)
    (agentId : String) : AgentRuntime where
  activeAgents := Dictionary.erase agentId runtime.activeAgents
  latestStats := Dictionary.erase agentId runtime.latestStats
  prevProcessStates := Dictionary.erase agentId runtime.prevProcessStates

end AgentRuntime

/-- The runtime, and the operations that await the closing of a connection. -/
structure PresenceSystem where
  monitoring : Monitoring := {}
  /-- Registrations, after an earlier connection was replaced. -/
  registering : Nat := 0
  /-- The agents whose timeouts have taken the connection off. -/
  timingOut : List String := []

inductive PresenceAction where
  | registerAgent (agentId : String) (socket : Nat) (now : Int)
  /-- A registration ends. -/
  | registered
  | unregisterAgent
      (clientId : Option String)
      (socket : Option Nat)
      (now : Int)
  | timeoutAgent (agentId : String)
  /-- A timeout ends. -/
  | timedOut (position : Nat) (now : Int)
  /-- A timeout is cancelled while it awaits. -/
  | timeoutCancelled (position : Nat)
  | mergeHeartbeat (payload : HeartbeatData) (now : Int)
  | removeAgent (agentId : String)

namespace PresenceSystem

variable (sys : PresenceSystem)

def runtime : AgentRuntime :=
  sys.monitoring.runtime

def withRuntime (runtime : AgentRuntime) : PresenceSystem :=
  { sys with monitoring := { sys.monitoring with runtime } }

/-- `register_agent`, up to where it closes an earlier connection. -/
def registerAgent
    (agentId : String)
    (socket : Nat)
    (now : Int) : PresenceSystem :=
  let registered :=
    sys.withRuntime (sys.runtime.registerAgent agentId socket now)
  match sys.runtime.activeAgents.lookup agentId with
  | none =>
    registered
  | some previous =>
    if previous = socket then
      registered
    else
      { registered with registering := sys.registering + 1 }

/-- `timeout_agent`, up to where it closes the connection. -/
def timeoutAgent (agentId : String) : PresenceSystem :=
  match sys.runtime.activeAgents.lookup agentId with
  | none =>
    sys
  | some _ =>
    { sys.withRuntime
        { sys.runtime with
          activeAgents :=
            Dictionary.erase agentId sys.runtime.activeAgents } with
      timingOut := sys.timingOut ++ [agentId] }

def quiet : Prop :=
  sys.registering = 0 ∧ sys.timingOut = []

end PresenceSystem

open PresenceSystem in
/-- Take a step, if it can be taken. -/
def presenceStep?
    (library : TextLibrary)
    (sys : PresenceSystem) : PresenceAction → Option PresenceSystem
  | .registerAgent agentId socket now =>
    some (sys.registerAgent agentId socket now)
  | .registered =>
    if sys.registering = 0 then
      none
    else
      some { sys with registering := sys.registering - 1 }
  | .unregisterAgent clientId socket now =>
    some (sys.withRuntime (sys.runtime.unregister clientId socket now))
  | .timeoutAgent agentId =>
    some (sys.timeoutAgent agentId)
  | .timedOut position now =>
    sys.timingOut[position]?.map fun agentId =>
      { sys.withRuntime
          (sys.runtime.resetAgentRuntimeState agentId now).changed with
        timingOut := sys.timingOut.eraseIdx position }
  | .timeoutCancelled position =>
    sys.timingOut[position]?.map fun _ =>
      { sys with timingOut := sys.timingOut.eraseIdx position }
  | .mergeHeartbeat payload now =>
    some
      { sys with
        monitoring :=
          (mergeHeartbeat library payload now sys.monitoring).changed }
  | .removeAgent agentId =>
    some (sys.withRuntime (sys.runtime.removeAgent agentId))

/--
In every state that is reached in which no operation is in progress, an agent
that is known has a connection if and only if its record says so.
-/
def FlagsConnections
    (step : PresenceSystem → PresenceAction → PresenceSystem → Prop) :
    Prop :=
  ∀ {final : PresenceSystem} {actions : List PresenceAction},
    Run step {} actions final →
    final.quiet →
    ∀ agentId,
      (final.runtime.latestStats.lookup agentId).isSome = true →
      (final.runtime.saysConnected agentId = true ↔
        final.runtime.isActive agentId = true)

/-! ### The condition -/

/-- The sessions of a heartbeat do not contain another connection flag. -/
def HeartbeatData.leavesFlag (payload : HeartbeatData) : Prop :=
  ∀ session ∈ payload.agentStatus.getD [],
    session.1 = "__agent_connection" →
    ∀ data,
      session.2 = .obj data →
      ∀ field ∈ data, field.1 = "connected" → field.2 = .bool true

/--
The condition under which records and connections agree.  Heartbeats name
agents that have a connection, and bring no connection flag of their own; no
timeout resets an agent that has a connection again; and none is cancelled
while the record of an agent without connection says that it is connected.
-/
def KeepsFlags (sys : PresenceSystem) : PresenceAction → Prop
  | .mergeHeartbeat payload _ =>
    sys.runtime.isActive payload.agentId = true ∧ payload.leavesFlag
  | .timedOut position _ =>
    ∀ agentId ∈ sys.timingOut[position]?, sys.runtime.isActive agentId = false
  | .timeoutCancelled position =>
    ∀ agentId ∈ sys.timingOut[position]?,
      sys.runtime.saysConnected agentId = true →
      sys.runtime.isActive agentId = true
  | _ => True

/-! ### What the operations do to the flags -/

section Flags

variable
    {library : TextLibrary}
    {runtime : AgentRuntime}
    {agentId : String}
    {now : Int}

theorem recordSaysConnected_iff
    {connection : JsonObject} :
    recordSaysConnected connection = true ↔
      connection.lookup "connected" = some (.bool true) := by
  unfold recordSaysConnected
  split
  · rename_i connected found
    rw [found]
    simp
  · rename_i other
    constructor
    · exact nofun
    · intro found
      exact (other true found).elim

theorem stateSaysConnected_iff
    {state : JsonObject} :
    stateSaysConnected state = true ↔
      ∃ connection,
        state.lookup "__agent_connection" = some (.obj connection) ∧
          recordSaysConnected connection = true := by
  unfold stateSaysConnected
  split
  · rename_i connection found
    simp [found]
  · rename_i other
    constructor
    · exact nofun
    · rintro ⟨connection, found, _⟩
      exact (other connection found).elim

theorem AgentRuntime.SpareOthers.flags
    {owner : String}
    {before after : AgentRuntime}
    (spares : SpareOthers owner before after)
    (other : agentId ≠ owner) :
    after.saysConnected agentId = before.saysConnected agentId ∧
      after.isActive agentId = before.isActive agentId := by
  unfold AgentRuntime.saysConnected AgentRuntime.isActive
  rw [spares.latestStats other, spares.activeAgents other]
  exact ⟨rfl, rfl⟩

theorem flags_registerAgent (socket : Nat) :
    (runtime.registerAgent agentId socket now).saysConnected agentId =
        true ∧
      (runtime.registerAgent agentId socket now).isActive agentId = true := by
  constructor
  · unfold AgentRuntime.saysConnected AgentRuntime.registerAgent
      AgentRuntime.markConnected
    rw [Dictionary.lookup_set_self]
    refine stateSaysConnected_iff.mpr ⟨_, Dictionary.lookup_set_self _ _ _, ?_⟩
    rfl
  · unfold AgentRuntime.isActive AgentRuntime.registerAgent
      AgentRuntime.markConnected
    rw [Dictionary.lookup_set_self]
    rfl

theorem activeAgents_resetAgentRuntimeState :
    (runtime.resetAgentRuntimeState agentId now).changed.activeAgents =
      runtime.activeAgents := by
  unfold AgentRuntime.resetAgentRuntimeState
  dsimp only
  split
  · rfl
  · split
    · rfl
    · rfl
    · rfl

theorem saysConnected_resetAgentRuntimeState :
    (runtime.resetAgentRuntimeState agentId now).changed.saysConnected
        agentId =
      false := by
  rw [Bool.eq_false_iff]
  intro flagged
  unfold AgentRuntime.saysConnected
    AgentRuntime.resetAgentRuntimeState at flagged
  dsimp only at flagged
  split at flagged
  · rename_i unknown
    rw [unknown] at flagged
    cases flagged
  · rename_i state known
    split at flagged
    · rw [Dictionary.lookup_set_self] at flagged
      obtain ⟨connection, found, _⟩ := stateSaysConnected_iff.mp flagged
      split at found
      · cases found
      · cases found
    · rename_i connection present
      rw [Dictionary.lookup_set_self] at flagged
      obtain ⟨kept, found, connected⟩ := stateSaysConnected_iff.mp flagged
      split at found
      · cases found
        rw [recordSaysConnected_iff,
          Dictionary.lookup_set_other (by decide),
          Dictionary.lookup_set_self] at connected
        cases connected
      · cases found
    · rename_i value notObject present
      rw [known] at flagged
      obtain ⟨connection, found, _⟩ := stateSaysConnected_iff.mp flagged
      rw [found] at present
      cases present
      exact notObject connection rfl

theorem unregisterAgent_cases
    (runtime : AgentRuntime)
    (clientId : Option String)
    (socket : Nat)
    (now : Int) :
    (runtime.unregisterAgent clientId socket now).1.changed = runtime ∨
      ∃ agentId,
        clientId = some agentId ∧
          (runtime.unregisterAgent clientId socket now).1.changed.isActive
              agentId =
            false ∧
          (runtime.unregisterAgent clientId socket
              now).1.changed.saysConnected agentId =
            false := by
  unfold AgentRuntime.unregisterAgent
  split
  · exact .inl rfl
  · rename_i agentId named
    have same := (Option.filter_eq_some_iff.mp named).1
    split
    · rename_i inactive
      refine .inr ⟨agentId, same, ?_, saysConnected_resetAgentRuntimeState⟩
      unfold AgentRuntime.isActive
      rw [activeAgents_resetAgentRuntimeState, inactive]
      rfl
    · split
      · exact .inl rfl
      · refine .inr ⟨agentId, same, ?_, saysConnected_resetAgentRuntimeState⟩
        unfold AgentRuntime.isActive
        rw [activeAgents_resetAgentRuntimeState, Dictionary.lookup_erase_self]
        rfl

/-! ### Heartbeats -/

theorem connected_update
    {target data : JsonObject}
    (connected : target.lookup "connected" = some (.bool true))
    (leaves : ∀ field ∈ data, field.1 = "connected" → field.2 = .bool true) :
    (Dictionary.update target data).lookup "connected" = some (.bool true) := by
  induction data generalizing target with
  | nil =>
    exact connected
  | cons field rest inductionHypothesis =>
    obtain ⟨first, later⟩ := List.forall_mem_cons.mp leaves
    refine inductionHypothesis ?_ later
    dsimp only
    by_cases same : field.1 = "connected"
    · rw [same, Dictionary.lookup_set_self, first same]
    · rw [Dictionary.lookup_set_other (Ne.symm same)]
      exact connected

theorem connected_setProcesses
    {target : JsonObject}
    (connected : target.lookup "connected" = some (.bool true))
    (processes : Json) :
    (Dictionary.set "processes" processes target).lookup "connected" =
      some (.bool true) := by
  rw [Dictionary.lookup_set_other (by decide)]
  exact connected

theorem connected_mergeDifference
    {target : JsonObject}
    (connected : target.lookup "connected" = some (.bool true))
    (data : JsonObject)
    (incoming : Json) :
    (mergeDifference library target data incoming).changed.lookup
        "connected" =
      some (.bool true) := by
  have started :=
    connected_setProcesses connected
      ((target.lookup "processes").getD (.obj []))
  unfold mergeDifference
  dsimp only
  split
  · split
    · exact connected_setProcesses started _
    · exact connected_setProcesses started _
    · exact started
  · split
    · exact connected_setProcesses started _
    · exact started

theorem connected_mergeSession
    {target data : JsonObject}
    (isSync : Bool)
    (connected : target.lookup "connected" = some (.bool true))
    (leaves : ∀ field ∈ data, field.1 = "connected" → field.2 = .bool true) :
    (mergeSession library isSync target data).changed.lookup "connected" =
      some (.bool true) := by
  have updated :
      (Dictionary.update target
        (data.filter fun field => field.1 ≠ "processes")).lookup "connected" =
        some (.bool true) :=
    connected_update connected fun field member =>
      leaves field (List.mem_of_mem_filter member)
  unfold mergeSession
  dsimp only
  split
  · split
    · exact connected_setProcesses updated _
    · exact updated
  · exact connected_mergeDifference updated _ _

/-- Sessions that bring no flag leave the one there is. -/
theorem flag_mergeSessions
    {isSync : Bool}
    {state sessions : JsonObject}
    (flagged : stateSaysConnected state = true)
    (leaves :
      ∀ session ∈ sessions,
        session.1 = "__agent_connection" →
        ∀ data,
          session.2 = .obj data →
          ∀ field ∈ data, field.1 = "connected" → field.2 = .bool true) :
    stateSaysConnected
        (mergeSessions library isSync state sessions).changed =
      true := by
  induction sessions generalizing state with
  | nil =>
    exact flagged
  | cons session rest inductionHypothesis =>
    obtain ⟨key, value⟩ := session
    obtain ⟨first, later⟩ := List.forall_mem_cons.mp leaves
    cases value with
    | obj data =>
      rw [mergeSessions]
      split
      · rename_i target found
        have merged :
            stateSaysConnected
                (Dictionary.set key
                  (.obj (mergeSession library isSync target
                    data).changed) state) =
              true := by
          obtain ⟨connection, kept, connected⟩ :=
            stateSaysConnected_iff.mp flagged
          by_cases same : key = "__agent_connection"
          · subst key
            rw [kept] at found
            cases found
            refine stateSaysConnected_iff.mpr
              ⟨_, Dictionary.lookup_set_self _ _ _, ?_⟩
            exact recordSaysConnected_iff.mpr <|
              connected_mergeSession isSync
                (recordSaysConnected_iff.mp connected)
                (first rfl data rfl)
          · refine stateSaysConnected_iff.mpr ⟨connection, ?_, connected⟩
            rw [Dictionary.lookup_set_other (Ne.symm same)]
            exact kept
        dsimp only
        split
        · exact merged
        · exact inductionHypothesis merged later
      · exact flagged
    | _ =>
      exact inductionHypothesis flagged later

theorem flag_mergeAgentState
    {payload : HeartbeatData}
    (leaves : payload.leavesFlag)
    (state : JsonObject) :
    stateSaysConnected
        (mergeAgentState library payload now state).changed =
      true := by
  refine flag_mergeSessions ?_ leaves
  refine stateSaysConnected_iff.mpr
    ⟨[("connected", Json.bool true), ("last_seen", Json.num now)], ?_, rfl⟩
  have marked :
      (Dictionary.set "__agent_connection" (connectionState true now)
          state).lookup "__agent_connection" =
        some (connectionState true now) :=
    Dictionary.lookup_set_self _ _ _
  have measured :
      (withMetrics payload
          (Dictionary.set "__agent_connection" (connectionState true now)
            state)).lookup "__agent_connection" =
        some (connectionState true now) :=
    (lookup_withMetrics payload (by decide) _).trans marked
  split
  · unfold dropStale
    rw [Dictionary.lookup_filter]
    · exact measured
    · intro value
      have internal : "__agent_connection".startsWith "__" = true := by
        decide +kernel
      exact Bool.or_eq_true_iff.mpr (.inl internal)
  · exact measured

theorem runtime_detectEvents
    (state : JsonObject)
    (monitoring : Monitoring) :
    (detectEvents library agentId now state
          monitoring).changed.runtime.latestStats =
        monitoring.runtime.latestStats ∧
      (detectEvents library agentId now state
          monitoring).changed.runtime.activeAgents =
        monitoring.runtime.activeAgents := by
  unfold detectEvents
  dsimp only
  split
  · exact ⟨rfl, rfl⟩
  · split
    · exact ⟨rfl, rfl⟩
    · exact ⟨rfl, rfl⟩

theorem runtime_mergeHeartbeat
    (library : TextLibrary)
    (payload : HeartbeatData)
    (now : Int)
    (monitoring : Monitoring) :
    (mergeHeartbeat library payload now
          monitoring).changed.runtime.latestStats =
        Dictionary.set payload.agentId
          (mergeAgentState library payload now
            ((monitoring.runtime.latestStats.lookup
              payload.agentId).getD [])).changed
          monitoring.runtime.latestStats ∧
      (mergeHeartbeat library payload now
          monitoring).changed.runtime.activeAgents =
        monitoring.runtime.activeAgents := by
  unfold mergeHeartbeat
  dsimp only
  split
  · exact ⟨rfl, rfl⟩
  · split
    · exact ⟨rfl, rfl⟩
    · exact runtime_detectEvents _ _

end Flags

/-! ### Runs -/

/--
An agent with a connection is said to be connected, and another one at most
while a timeout has not reset it yet.
-/
def FlagsSound (sys : PresenceSystem) : Prop :=
  ∀ agentId,
    (sys.runtime.isActive agentId = true →
        sys.runtime.saysConnected agentId = true) ∧
      (sys.runtime.saysConnected agentId = true →
        sys.runtime.isActive agentId = true ∨ agentId ∈ sys.timingOut)

theorem FlagsSound.operate
    {before after : PresenceSystem}
    (sound : FlagsSound before)
    {owner : String}
    (spares : before.runtime.SpareOthers owner after.runtime)
    (waits :
      ∀ agentId,
        agentId ≠ owner →
        agentId ∈ before.timingOut →
        agentId ∈ after.timingOut)
    (active :
      after.runtime.isActive owner = true →
        after.runtime.saysConnected owner = true)
    (flagged :
      after.runtime.saysConnected owner = true →
        after.runtime.isActive owner = true ∨ owner ∈ after.timingOut) :
    FlagsSound after := by
  intro agentId
  by_cases same : agentId = owner
  · subst agentId
    exact ⟨active, flagged⟩
  · obtain ⟨flags, connections⟩ := spares.flags same
    rw [flags, connections]
    obtain ⟨first, second⟩ := sound agentId
    exact ⟨first, fun known =>
      (second known).imp_right (waits agentId same)⟩

section Steps

variable
    {before : PresenceSystem}
    {agentId : String}

variable {position : Nat}

theorem mem_timingOut_eraseIdx
    {owner : String}
    (isFound : before.timingOut[position]? = some owner)
    (other : agentId ≠ owner)
    (member : agentId ∈ before.timingOut) :
    agentId ∈ before.timingOut.eraseIdx position := by
  obtain ⟨elsewhere, found⟩ := List.mem_iff_getElem?.mp member
  refine List.mem_eraseIdx_iff_getElem?.mpr ⟨elsewhere, ?_, found⟩
  rintro rfl
  rw [isFound] at found
  exact other (Option.some.inj found).symm

section Keeping

variable
    (sound : FlagsSound before)
include sound

theorem FlagsSound.register
    (agentId : String)
    (socket : Nat)
    (now : Int) :
    FlagsSound (before.registerAgent agentId socket now) := by
  obtain ⟨flagged, active⟩ :
      (before.runtime.registerAgent agentId socket now).saysConnected
            agentId =
          true ∧
        (before.runtime.registerAgent agentId socket now).isActive
            agentId =
          true :=
    flags_registerAgent socket
  have registered :
      FlagsSound
        (before.withRuntime
          (before.runtime.registerAgent agentId socket now)) :=
    sound.operate (registerAgent_spareOthers _ socket)
      (fun _ _ => id) (fun _ => flagged) (fun _ => .inl active)
  unfold PresenceSystem.registerAgent
  split
  · exact registered
  · split
    · exact registered
    · exact registered

theorem FlagsSound.unregister
    (clientId : Option String)
    (socket : Option Nat)
    (now : Int) :
    FlagsSound
      (before.withRuntime (before.runtime.unregister clientId socket now)) := by
  unfold AgentRuntime.unregister
  rcases unregisterAgent_cases before.runtime clientId _ now with
    same | ⟨agentId, rfl, inactive, unflagged⟩
  · rw [same]
    exact sound
  · refine sound.operate (unregisterAgent_spareOthers _ _) (fun _ _ => id) ?_ ?_
    · intro active
      rw [PresenceSystem.runtime, PresenceSystem.withRuntime,
        inactive] at active
      cases active
    · intro flagged
      rw [PresenceSystem.runtime, PresenceSystem.withRuntime,
        unflagged] at flagged
      cases flagged

theorem FlagsSound.timeout
    (agentId : String) :
    FlagsSound (before.timeoutAgent agentId) := by
  unfold PresenceSystem.timeoutAgent
  split
  · exact sound
  · refine sound.operate
      (show AgentRuntime.SpareOthers agentId _ _ from ?_) ?_ ?_ ?_
    · exact ⟨fun _ => rfl,
        fun different => Dictionary.lookup_erase_other different _,
        fun _ => rfl⟩
    · intro other _ member
      exact List.mem_append_left _ member
    · intro active
      simp [PresenceSystem.runtime, PresenceSystem.withRuntime,
        AgentRuntime.isActive] at active
    · intro _
      exact .inr (List.mem_append_right _ (List.mem_singleton.mpr rfl))

theorem FlagsSound.timedOut
    (isFound : before.timingOut[position]? = some agentId)
    (inactive : before.runtime.isActive agentId = false)
    (now : Int) :
    FlagsSound
      { before.withRuntime
          (before.runtime.resetAgentRuntimeState agentId now).changed with
        timingOut := before.timingOut.eraseIdx position } := by
  refine sound.operate (resetAgentRuntimeState_spareOthers _) ?_ ?_ ?_
  · intro other different member
    exact mem_timingOut_eraseIdx isFound different member
  · intro active
    simp only [PresenceSystem.runtime, PresenceSystem.withRuntime,
      AgentRuntime.isActive,
      activeAgents_resetAgentRuntimeState] at active inactive
    rw [inactive] at active
    cases active
  · intro flagged
    simp only [PresenceSystem.runtime, PresenceSystem.withRuntime,
      saysConnected_resetAgentRuntimeState] at flagged
    cases flagged

theorem FlagsSound.timeoutCancelled
    (isFound : before.timingOut[position]? = some agentId)
    (agrees :
      before.runtime.saysConnected agentId = true →
        before.runtime.isActive agentId = true) :
    FlagsSound
      { before with
        timingOut := before.timingOut.eraseIdx position } := by
  refine sound.operate (.refl _) ?_ (sound agentId).1 ?_
  · intro other different member
    exact mem_timingOut_eraseIdx isFound different member
  · intro flagged
    exact .inl (agrees flagged)

theorem FlagsSound.merge
    {library : TextLibrary}
    {payload : HeartbeatData}
    (active : before.runtime.isActive payload.agentId = true)
    (leaves : payload.leavesFlag)
    (now : Int) :
    FlagsSound
      { before with
        monitoring :=
          (mergeHeartbeat library payload now
            before.monitoring).changed } := by
  obtain ⟨states, connections⟩ :=
    runtime_mergeHeartbeat library payload now before.monitoring
  have flagged :
      (mergeHeartbeat library payload now
          before.monitoring).changed.runtime.saysConnected payload.agentId =
        true := by
    unfold AgentRuntime.saysConnected
    rw [states, Dictionary.lookup_set_self]
    exact flag_mergeAgentState leaves _
  refine sound.operate
    (mergeHeartbeat_spareOthers payload now before.monitoring).runtime
    (fun _ _ => id) (fun _ => flagged) ?_
  intro _
  left
  unfold AgentRuntime.isActive at active ⊢
  rw [PresenceSystem.runtime, connections]
  exact active

theorem FlagsSound.remove
    (agentId : String) :
    FlagsSound (before.withRuntime (before.runtime.removeAgent agentId)) := by
  refine sound.operate
    (show AgentRuntime.SpareOthers agentId _ _ from ?_)
    (fun _ _ => id) ?_ ?_
  · exact ⟨fun different => Dictionary.lookup_erase_other different _,
      fun different => Dictionary.lookup_erase_other different _,
      fun different => Dictionary.lookup_erase_other different _⟩
  · intro active
    simp [PresenceSystem.runtime, PresenceSystem.withRuntime,
      AgentRuntime.isActive, AgentRuntime.removeAgent] at active
  · intro flagged
    simp [PresenceSystem.runtime, PresenceSystem.withRuntime,
      AgentRuntime.saysConnected, AgentRuntime.removeAgent] at flagged

end Keeping

end Steps

theorem FlagsSound.step
    {library : TextLibrary}
    {before after : PresenceSystem}
    {action : PresenceAction}
    (sound : FlagsSound before)
    (keeps : KeepsFlags before action)
    (taken : presenceStep? library before action = some after) :
    FlagsSound after := by
  cases action with
  | registerAgent agentId socket now =>
    cases taken
    exact sound.register agentId socket now
  | registered =>
    simp only [presenceStep?] at taken
    split at taken
    · cases taken
    · cases taken
      exact sound
  | unregisterAgent clientId socket now =>
    cases taken
    exact sound.unregister clientId socket now
  | timeoutAgent agentId =>
    cases taken
    exact sound.timeout agentId
  | timedOut position now =>
    obtain ⟨agentId, isFound, rfl⟩ := Option.map_eq_some_iff.mp taken
    exact sound.timedOut isFound (keeps agentId isFound) now
  | timeoutCancelled position =>
    obtain ⟨agentId, isFound, rfl⟩ := Option.map_eq_some_iff.mp taken
    exact sound.timeoutCancelled isFound (keeps agentId isFound)
  | mergeHeartbeat payload now =>
    cases taken
    exact sound.merge keeps.1 keeps.2 now
  | removeAgent agentId =>
    cases taken
    exact sound.remove agentId

/-- Where the condition is met, records and connections agree. -/
theorem flagsConnections_of_keepsFlags (library : TextLibrary) :
    FlagsConnections (Guarded (Fires (presenceStep? library)) KeepsFlags) := by
  intro final actions run quiet agentId _
  have started : FlagsSound {} := fun _ => ⟨nofun, nofun⟩
  have sound : FlagsSound final := by
    apply run.preserves ?_ started
    rintro before action after ⟨taken, keeps⟩ sound
    exact sound.step keeps taken
  obtain ⟨first, second⟩ := sound agentId
  refine ⟨fun flagged => (second flagged).resolve_right ?_, first⟩
  rw [quiet.2]
  exact List.not_mem_nil

/-- The agent connects, sends a heartbeat, times out and connects again. -/
def reconnectAfterTimeout : List PresenceAction :=
  [.registerAgent "a" 1 0, .mergeHeartbeat { clientId := "a" } 5,
    .timeoutAgent "a", .timedOut 0 20, .registerAgent "a" 2 25]

/-- The condition, where heartbeats report no sessions. -/
def KeepsFlagsSimply (sys : PresenceSystem) : PresenceAction → Prop
  | .mergeHeartbeat payload _ =>
    sys.runtime.isActive payload.agentId = true ∧
      payload.agentStatus.isNone = true
  | .timedOut position _ =>
    ∀ agentId ∈ sys.timingOut[position]?, sys.runtime.isActive agentId = false
  | .timeoutCancelled _ => False
  | _ => True

instance (sys : PresenceSystem) (action : PresenceAction) :
    Decidable (KeepsFlagsSimply sys action) := by
  unfold KeepsFlagsSimply
  split <;> infer_instance

theorem KeepsFlagsSimply.keepsFlags
    {sys : PresenceSystem}
    {action : PresenceAction}
    (simply : KeepsFlagsSimply sys action) :
    KeepsFlags sys action := by
  cases action with
  | mergeHeartbeat payload now =>
    refine ⟨simply.1, ?_⟩
    intro session member
    rw [Option.isNone_iff_eq_none.mp simply.2] at member
    cases member
  | timeoutCancelled position =>
    exact simply.elim
  | _ =>
    exact simply

theorem reconnectAfterTimeout_flagged :
    ∃ final,
      Run (Guarded (Fires (presenceStep? asciiTextLibrary)) KeepsFlags) {}
        reconnectAfterTimeout final ∧
        final.quiet ∧
        final.runtime.isActive "a" = true ∧
        final.runtime.saysConnected "a" = true := by
  obtain ⟨final, checkedRun, reached⟩ :=
    exists_run_of_execute
      (show (execute
          (checked (presenceStep? asciiTextLibrary) KeepsFlagsSimply) {}
          reconnectAfterTimeout).any
          (fun sys : PresenceSystem =>
            sys.registering = 0 && sys.timingOut.isEmpty &&
              (sys.runtime.latestStats.lookup "a").isSome &&
              sys.runtime.isActive "a") = true by
        decide +kernel)
  simp only [Bool.and_eq_true, decide_eq_true_eq, List.isEmpty_iff] at reached
  obtain ⟨⟨⟨registered, timedOut⟩, known⟩, active⟩ := reached
  have run :=
    checkedRun.guarded_of_checked.relax fun _ _ =>
      KeepsFlagsSimply.keepsFlags
  have agrees :=
    flagsConnections_of_keepsFlags asciiTextLibrary run
      ⟨registered, timedOut⟩ "a" known
  exact ⟨final, run, ⟨registered, timedOut⟩, active, agrees.mpr active⟩

/--
Without the condition they differ: the agent connects again while its timeout
awaits the closing of the old connection, and is reset afterwards.
-/
theorem not_flagsConnections :
    ¬ FlagsConnections (Fires (presenceStep? asciiTextLibrary)) := by
  intro claimed
  obtain ⟨final, run, reached⟩ :=
    exists_run_of_execute
      (show (execute (presenceStep? asciiTextLibrary) {}
          [.registerAgent "a" 1 0, .timeoutAgent "a",
            .registerAgent "a" 2 1, .timedOut 0 2]).any
          (fun sys : PresenceSystem =>
            sys.registering = 0 && sys.timingOut.isEmpty &&
              (sys.runtime.latestStats.lookup "a").isSome &&
              sys.runtime.isActive "a" &&
              !sys.runtime.saysConnected "a") = true by
        decide)
  simp only [Bool.and_eq_true, decide_eq_true_eq, List.isEmpty_iff,
    Bool.not_eq_true'] at reached
  obtain ⟨⟨⟨⟨registered, timedOut⟩, known⟩, active⟩, unflagged⟩ := reached
  have flagged :=
    (claimed run ⟨registered, timedOut⟩ "a" known).mpr active
  rw [unflagged] at flagged
  cases flagged

end RpaPlatform.Agents
