import RpaPlatform.ProcessDetection

namespace RpaPlatform.Agents

open Tasks (Json)
open Transition

/-!
# What a bad heartbeat leaves behind

Nothing looks at a heartbeat before it is written into the stored state, so
that one that does not suit the state raises halfway, and what it has written
makes later ones raise.  As long as the heartbeats of an agent suit what is
stored of it, none raises and none spoils the well-formed ones after it.
-/

/-- A parsed heartbeat, with the time at which it is merged. -/
structure Beat where
  payload : HeartbeatData
  parsed : payload.Parsed
  now : Int

namespace Beat

def agentId (beat : Beat) : String :=
  beat.payload.agentId

/-- `merge_heartbeat` of a heartbeat. -/
def merge
    (library : TextLibrary)
    (monitoring : Monitoring)
    (beat : Beat) : Attempt Monitoring :=
  mergeHeartbeat library beat.payload beat.now monitoring

end Beat

/-- Merge the next heartbeat, of whatever agent. -/
def heartbeatStep
    (library : TextLibrary)
    (monitoring : Monitoring)
    (beat : Beat) : Option Monitoring :=
  some (beat.merge library monitoring).changed

/-- The heartbeats of an agent suit what is stored of it. -/
def SuitsAgent
    (library : TextLibrary)
    (agentId : String)
    (monitoring : Monitoring)
    (beat : Beat) : Prop :=
  beat.agentId = agentId →
    Mergeable library beat.payload beat.now monitoring.runtime

/-- The heartbeats of an agent are well formed. -/
def WellFormedFrom
    (library : TextLibrary)
    (agentId : String)
    (_ : Monitoring)
    (beat : Beat) : Prop :=
  beat.agentId = agentId → beat.payload.WellFormed library

/-- What a heartbeat is promised not to do, merged or not. -/
structure DoesNoDamage
    (library : TextLibrary)
    (monitoring : Monitoring)
    (beat : Beat) : Prop where
  /-- One that raises leaves everything as it was. -/
  unchanged :
    (beat.merge library monitoring).raised = true →
    (beat.merge library monitoring).changed.runtime.latestStats =
        monitoring.runtime.latestStats ∧
      (beat.merge library monitoring).changed.runtime.prevProcessStates =
        monitoring.runtime.prevProcessStates ∧
      (beat.merge library monitoring).changed.telemetry.samples =
        monitoring.telemetry.samples
  /-- Every later well-formed one of the agent is merged. -/
  followed :
    ∀ {later : List Beat} {after : Monitoring} {next : Beat},
      Run
        (Guarded (Fires (heartbeatStep library))
          (WellFormedFrom library beat.agentId))
        (beat.merge library monitoring).changed later after →
      next.agentId = beat.agentId →
      next.payload.WellFormed library →
      (next.merge library after).raised = false

/-! ### Healthy runs -/

section Runs

variable {library : TextLibrary} {agentId : String}

theorem healthyAgent_nothing : HealthyAgent library {} agentId :=
  ⟨fun _ => nofun, fun _ => nofun⟩

theorem Beat.merge_spareOthers
    (beat : Beat)
    (library : TextLibrary)
    (monitoring : Monitoring) :
    Monitoring.SpareOthers beat.agentId monitoring
      (beat.merge library monitoring).changed :=
  mergeHeartbeat_spareOthers beat.payload beat.now monitoring

variable
    {monitoring : Monitoring}
    {beat : Beat}

theorem stateOf_merge_other
    (other : beat.agentId ≠ agentId) :
    (beat.merge library monitoring).changed.runtime.stateOf agentId =
      monitoring.runtime.stateOf agentId :=
  congrArg (Option.getD · [])
    ((beat.merge_spareOthers library monitoring).runtime.latestStats
      (Ne.symm other))

theorem remembered_merge_other
    (other : beat.agentId ≠ agentId) :
    (beat.merge library monitoring).changed.runtime.remembered agentId =
      monitoring.runtime.remembered agentId :=
  congrArg (Option.getD · [])
    ((beat.merge_spareOthers library monitoring).runtime.prevProcessStates
      (Ne.symm other))

theorem healthyAgent_merge_other
    (other : beat.agentId ≠ agentId)
    (healthy : HealthyAgent library monitoring.runtime agentId) :
    HealthyAgent library (beat.merge library monitoring).changed.runtime
      agentId := by
  constructor
  · rw [stateOf_merge_other other]
    exact healthy.state
  · rw [remembered_merge_other other]
    exact healthy.remembered

theorem mergeable_of_wellFormed
    {runtime : AgentRuntime}
    {payload : HeartbeatData}
    (now : Int)
    (healthy : HealthyAgent library runtime payload.agentId)
    (wellFormed : payload.WellFormed library) :
    Mergeable library payload now runtime :=
  mergesSessions_of_wellFormed (healthy.state.prepareState payload now)
    wellFormed

theorem healthyAgent_of_run
    {condition : Monitoring → Beat → Prop}
    (suits :
      ∀ monitoring beat,
        HealthyAgent library monitoring.runtime agentId →
        condition monitoring beat →
        SuitsAgent library agentId monitoring beat)
    {initial final : Monitoring}
    {beats : List Beat}
    (run :
      Run (Guarded (Fires (heartbeatStep library)) condition) initial beats
        final)
    (healthy : HealthyAgent library initial.runtime agentId) :
    HealthyAgent library final.runtime agentId := by
  have stepPreserves :
      ∀ before beat after,
        Guarded (Fires (heartbeatStep library)) condition before beat after →
        HealthyAgent library before.runtime agentId →
        HealthyAgent library after.runtime agentId := by
    rintro before beat after ⟨fired, meets⟩ healthyBefore
    cases fired
    by_cases own : beat.agentId = agentId
    · have mergeable := suits before beat healthyBefore meets own
      subst own
      exact (mergeHeartbeat_merges beat.parsed healthyBefore mergeable).healthy
    · exact healthyAgent_merge_other own healthyBefore
  exact
    @Run.preserves _ _ _
      (fun monitoring => HealthyAgent library monitoring.runtime agentId)
      stepPreserves _ _ _ run healthy

/--
In every run in which the heartbeats of an agent suit what is stored of it,
each of them does no damage, whatever other agents send.
-/
theorem heartbeat_doesNoDamage
    {beats : List Beat}
    {monitoring : Monitoring}
    (run :
      Run
        (Guarded (Fires (heartbeatStep library)) (SuitsAgent library agentId))
        {} beats monitoring)
    {beat : Beat}
    (own : beat.agentId = agentId)
    (suits : SuitsAgent library agentId monitoring beat) :
    DoesNoDamage library monitoring beat := by
  subst own
  have healthy :=
    healthyAgent_of_run (fun _ _ _ meets => meets) run healthyAgent_nothing
  have merged := mergeHeartbeat_merges beat.parsed healthy (suits rfl)
  refine ⟨fun raises => ?_, fun laterRun isOwn wellFormed => ?_⟩
  · have whole : (beat.merge library monitoring).raised = false :=
      merged.whole
    rw [whole] at raises
    cases raises
  · have healthyAfter :=
      healthyAgent_of_run
        (fun _ later healthyBefore meets isLater =>
          mergeable_of_wellFormed later.now
            (show HealthyAgent library _ later.agentId from
              isLater ▸ healthyBefore)
            (meets isLater))
        laterRun merged.healthy
    rename_i next
    have sameAgent : next.payload.agentId = beat.payload.agentId := isOwn
    rw [← sameAgent] at healthyAfter
    exact
      (mergeHeartbeat_merges next.parsed healthyAfter
        (mergeable_of_wellFormed next.now healthyAfter wellFormed)).whole

end Runs

/-! ### One heartbeat that suits, and one that does not -/

/-- `int` of a text of decimal digits. -/
def decimal (text : String) : Option Int :=
  if text ≠ "" ∧ text.toList.all Char.isDigit then
    some
      (text.toList.foldl
        (fun value digit => 10 * value + (digit.toNat - '0'.toNat : Nat))
        0)
  else
    none

/-- The ASCII texts, with the numbers that are written in digits. -/
def decimalTextLibrary : TextLibrary :=
  { asciiTextLibrary with int := decimal }

/-- A heartbeat of an agent with what it says of its sessions. -/
def statusBeat
    (status : JsonObject)
    (parsed : ParsedFields status) : Beat where
  payload := { agentStatus := some status, clientId := "agent-1" }
  parsed :=
    { agentStatus := by
        intro _ reported
        obtain rfl := Option.some.inj reported
        exact parsed
      systemMetrics := nofun }
  now := 0

/-- A heartbeat of a session with one process. -/
def processBeat
    (pid : String)
    (process : JsonObject)
    (parsed : ParsedFields process) : Beat :=
  statusBeat [("s", .obj [("processes", .obj [(pid, .obj process)])])]
    (by simpa [ParsedFields, Distinct, DistinctFields] using parsed)

theorem wellFormed_processBeat
    {pid : String}
    {process : JsonObject}
    (parsed : ParsedFields process)
    (number : (decimalTextLibrary.int pid).isSome = true) :
    (processBeat pid process parsed).payload.WellFormed decimalTextLibrary := by
  have isSession : isSessionKey "s" = true := by
    decide +kernel
  intro entry member
  obtain rfl := List.mem_singleton.mp member
  refine ⟨isSession, _, rfl, _, rfl, ?_⟩
  intro reported isReported
  obtain rfl := List.mem_singleton.mp isReported
  exact ⟨rfl, number⟩

def noteBeat : Beat :=
  statusBeat [("note", .num 5)]
    (by simp [ParsedFields, Distinct, DistinctFields])

/-- After the report of a process, a note is ignored. -/
theorem noteBeat_doesNoDamage :
    ∃ monitoring,
      DoesNoDamage decimalTextLibrary monitoring noteBeat ∧
        monitoring.telemetry.samples.length = 1 := by
  let first := processBeat "7" [] .nil
  have suitsFirst : SuitsAgent decimalTextLibrary "agent-1" {} first :=
    fun _ =>
      mergeable_of_wellFormed 0 healthyAgent_nothing
        (wellFormed_processBeat .nil (by decide))
  refine
    ⟨(first.merge decimalTextLibrary {}).changed,
      @heartbeat_doesNoDamage decimalTextLibrary "agent-1" _ _
        (.single ⟨rfl, suitsFirst⟩) _ rfl ?_, ?_⟩
  · intro _ key data member
    simp [noteBeat, statusBeat] at member
  · decide +kernel

def wordBeat : Beat :=
  processBeat "explorer" [] .nil

/--
The process is stored before its name is found to be no number, and every
later heartbeat of the agent stumbles upon it.
-/
theorem not_doesNoDamage :
    ¬ DoesNoDamage decimalTextLibrary {} wordBeat := by
  intro promised
  let empty := statusBeat [] .nil
  have merges :
      (empty.merge decimalTextLibrary
        (wordBeat.merge decimalTextLibrary {}).changed).raised = false :=
    @DoesNoDamage.followed _ _ _ promised _ _ empty (.nil _) rfl fun _ => nofun
  revert merges
  decide +kernel

end RpaPlatform.Agents
