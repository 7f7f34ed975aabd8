import Mathlib.Data.List.DropRight
import Mathlib.Logic.Function.Basic
import RpaPlatform.TaskModels

namespace RpaPlatform.Dashboard

open Tasks (Json)

/-!
# Registry agents in the dashboard

The dashboard's map of agents comes from snapshots of the running agents and
from polls of the registry.  A poll adds the agents of its rows and removes
registry agents without a row; what is set of an agent it leaves as it is.
-/

/-! ### The map -/

/-- `AgentMeta`, as far as it is looked into. -/
structure AgentMeta where
  hostname : Option String := none
  others : List (String × Json) := []

/-- Where an agent is known from. -/
inductive AgentSource where
  | runtime
  | registry
deriving DecidableEq

structure AgentConnectionMeta where
  connected : Option Bool := none
  lastSeen : Option Int := none
  source : Option AgentSource := none
deriving DecidableEq

structure AgentState where
  metrics : Option AgentMeta := none
  connection : Option AgentConnectionMeta := none
  sessions : List (String × Json) := []

/-- `AgentsMap`: the state of each agent that is listed. -/
abbrev AgentsMap : Type :=
  String → Option AgentState

structure AgentRegistryRow where
  id : String
  hostname : Option String := none
  displayName : Option String := none
  connectionStatus : Option String := none
  lastSeenAt : Option Int := none

/-- White space and line ends. -/
def isBlank (character : Char) : Bool :=
  let code := character.toNat
  (9 ≤ code && code ≤ 13) || code = 32 || code = 0xa0 || code = 0x1680 ||
    (0x2000 ≤ code && code ≤ 0x200a) || code = 0x2028 || code = 0x2029 ||
    code = 0x202f || code = 0x205f || code = 0x3000 || code = 0xfeff

/-- `String.prototype.trim`. -/
def trimText (text : String) : String :=
  String.ofList ((text.toList.dropWhile isBlank).rdropWhile isBlank)

def isNamed (text : Option String) : Bool :=
  text.getD "" ≠ ""

namespace AgentRegistryRow

def agentId (row : AgentRegistryRow) : String :=
  trimText row.id

/-- The name that is shown for the agent. -/
def shownName (row : AgentRegistryRow) : String :=
  trimText <|
    if isNamed row.hostname then row.hostname.getD ""
    else row.displayName.getD ""

def online (row : AgentRegistryRow) : Bool :=
  row.connectionStatus = some "online"

end AgentRegistryRow

/-! ### Snapshots and polls -/

def stripDynamicAgentState (agents : AgentsMap) : AgentsMap := fun agentId =>
  (agents agentId).map fun state =>
    { metrics := state.metrics
      connection :=
        state.connection.map fun connection =>
          { connection with connected := some false } }

def markRuntimeAgents (snapshot : AgentsMap) : AgentsMap := fun agentId =>
  (snapshot agentId).map fun state =>
    { state with
      connection :=
        some { state.connection.getD {} with source := some .runtime } }

/-- The metrics of an agent, with the name of a row where none is set. -/
def mergedMetrics
    (metrics : Option AgentMeta)
    (row : AgentRegistryRow) : Option AgentMeta :=
  if isNamed (metrics.bind AgentMeta.hostname) || row.shownName = "" then
    metrics
  else
    some { metrics.getD {} with hostname := some row.shownName }

/-- The connection of an agent, with what a row says where nothing is set. -/
def mergedConnection
    (connection : AgentConnectionMeta)
    (row : AgentRegistryRow) : AgentConnectionMeta where
  connected := some (connection.connected.getD row.online)
  lastSeen := connection.lastSeen.or row.lastSeenAt
  source := some (connection.source.getD .registry)

/-- What the loop over the rows makes of the state of an agent. -/
def mergedState
    (state : AgentState)
    (row : AgentRegistryRow) : AgentState :=
  { state with
    metrics := mergedMetrics state.metrics row
    connection :=
      some (mergedConnection (state.connection.getD {}) row) }

/-- One turn of the loop over the rows. -/
def mergeRow (agents : AgentsMap) (row : AgentRegistryRow) : AgentsMap :=
  if row.agentId = "" then
    agents
  else
    Function.update agents row.agentId
      (some (mergedState ((agents row.agentId).getD {}) row))

def mergeRegistryAgents
    (agents : AgentsMap)
    (registryRows : List AgentRegistryRow) : AgentsMap :=
  registryRows.foldl mergeRow agents

/-- The rows of an agent; a row without an identifier is no agent's. -/
def rowsOf
    (registryRows : List AgentRegistryRow)
    (agentId : String) : List AgentRegistryRow :=
  registryRows.filter fun row =>
    row.agentId ≠ "" && row.agentId = agentId

def AgentState.source (state : AgentState) : Option AgentSource :=
  state.connection.bind AgentConnectionMeta.source

def reconcileRegistryAgents
    (agents : AgentsMap)
    (registryRows : List AgentRegistryRow) : AgentsMap := fun agentId =>
  (mergeRegistryAgents agents registryRows agentId).filter fun state =>
    !(rowsOf registryRows agentId).isEmpty || state.source ≠ some .registry

/-- The maps that snapshots, polls and lost connections lead to. -/
inductive Produced : AgentsMap → Prop where
  | nothing : Produced fun _ => none
  | snapshot
      (snapshot : AgentsMap)
      (registryRows : List AgentRegistryRow) :
      Produced
        (reconcileRegistryAgents (markRuntimeAgents snapshot) registryRows)
  | poll
      {agents : AgentsMap}
      (produced : Produced agents)
      (registryRows : List AgentRegistryRow) :
      Produced (reconcileRegistryAgents agents registryRows)
  | closed
      {agents : AgentsMap}
      (produced : Produced agents) :
      Produced (stripDynamicAgentState agents)

/-! ### What a poll has to do -/

/-- The connection of an agent; nothing is set where it is not listed. -/
def connectionOf (agents : AgentsMap) (agentId : String) : AgentConnectionMeta :=
  ((agents agentId).bind AgentState.connection).getD {}

def Shows (row : AgentRegistryRow) (connection : AgentConnectionMeta) : Prop :=
  connection.connected = some row.online ∧ connection.lastSeen = row.lastSeenAt

/-- What reconciling some agents with the rows of a poll has to do. -/
structure Reconciles
    (agents : AgentsMap)
    (registryRows : List AgentRegistryRow) : Prop where
  keepsRuntime :
    ∀ agentId,
      (connectionOf agents agentId).source = some .runtime →
      (connectionOf (reconcileRegistryAgents agents registryRows)
        agentId).source = some .runtime
  idempotent :
    reconcileRegistryAgents (reconcileRegistryAgents agents registryRows)
        registryRows =
      reconcileRegistryAgents agents registryRows
  removes :
    ∀ agentId, (agents agentId).isSome →
      (reconcileRegistryAgents agents registryRows agentId = none ↔
        (connectionOf agents agentId).source = some .registry ∧
          rowsOf registryRows agentId = [])
  shows :
    ∀ agentId,
      (connectionOf (reconcileRegistryAgents agents registryRows)
        agentId).source = some .registry →
      rowsOf registryRows agentId ≠ [] ∧
        ∀ row ∈ rowsOf registryRows agentId,
          Shows row
            (connectionOf (reconcileRegistryAgents agents registryRows) agentId)

/--
Nothing that is set of an agent, which is not a running one, differs from the
row of the agent, and an agent's rows do not differ.
-/
def UpToDate
    (agents : AgentsMap)
    (registryRows : List AgentRegistryRow) : Prop :=
  ∀ agentId, (connectionOf agents agentId).source ≠ some .runtime →
    ∀ row ∈ rowsOf registryRows agentId,
      (∀ flag ∈ (connectionOf agents agentId).connected, flag = row.online) ∧
        (∀ time ∈ (connectionOf agents agentId).lastSeen,
          row.lastSeenAt = some time) ∧
        ∀ other ∈ rowsOf registryRows agentId,
          other.online = row.online ∧ other.lastSeenAt = row.lastSeenAt

/-! ### What the rows do to one agent -/

section OneAgent

variable
    {state : AgentState}
    {connection : AgentConnectionMeta}
    {rows : List AgentRegistryRow}

/-- Nothing that a row could set is missing. -/
structure Settled (row : AgentRegistryRow) (state : AgentState) : Prop where
  named :
    isNamed (state.metrics.bind AgentMeta.hostname) = true ∨ row.shownName = ""
  connected :
    ∃ flag lastSeen source,
      state.connection = some ⟨some flag, lastSeen, some source⟩ ∧
        (lastSeen.isSome ∨ row.lastSeenAt = none)

variable {row : AgentRegistryRow}

theorem Settled.mergedState_eq
    (settled : Settled row state) :
    mergedState state row = state := by
  obtain ⟨metrics, connection, sessions⟩ := state
  obtain ⟨named, flag, lastSeen, source, rfl, time⟩ := settled
  have sameTime : lastSeen.or row.lastSeenAt = lastSeen := by
    rcases time with isSet | nothing
    · exact Option.or_of_isSome isSet
    · rw [nothing, Option.or_none]
  have sameMetrics : mergedMetrics metrics row = metrics := by
    simpa [mergedMetrics] using fun unnamed isShown =>
      (named.resolve_left (by simp [unnamed]) |> isShown).elim
  simp [mergedState, mergedConnection, sameMetrics, sameTime]

theorem settled_mergedState (row : AgentRegistryRow) :
    Settled row (mergedState state row) where
  named := by
    simp only [mergedState, mergedMetrics]
    split
    · rename_i unchanged
      simpa using unchanged
    · rename_i changed
      simp only [Bool.or_eq_true, decide_eq_true_eq, not_or] at changed
      exact .inl (decide_eq_true changed.2)
  connected := by
    refine ⟨_, _, _, rfl, ?_⟩
    cases row.lastSeenAt <;> simp

theorem Settled.mergedState
    (settled : Settled row state)
    (other : AgentRegistryRow) :
    Settled row (mergedState state other) := by
  obtain ⟨named, flag, lastSeen, source, isConnection, time⟩ := settled
  refine
    ⟨named.imp_left fun isSet => ?_, flag, lastSeen.or other.lastSeenAt,
      source, ?_, ?_⟩
  · simp [Dashboard.mergedState, mergedMetrics, isSet]
  · rw [Dashboard.mergedState, isConnection]
    rfl
  · exact time.imp_left fun isSet => by simp [Option.isSome_or, isSet]

theorem Settled.foldl
    (settled : Settled row state) :
    Settled row (rows.foldl Dashboard.mergedState state) := by
  induction rows generalizing state with
  | nil =>
    exact settled
  | cons other rest inductionHypothesis =>
    exact inductionHypothesis (settled.mergedState other)

theorem settled_foldl (state : AgentState) :
    ∀ row ∈ rows, Settled row (rows.foldl mergedState state) := by
  induction rows generalizing state with
  | nil =>
    exact nofun
  | cons first rest inductionHypothesis =>
    intro row member
    rcases List.mem_cons.mp member with rfl | later
    · exact (settled_mergedState row).foldl
    · exact inductionHypothesis _ row later

theorem foldl_mergedState_twice (state : AgentState) :
    rows.foldl mergedState (rows.foldl mergedState state) =
      rows.foldl mergedState state := by
  have settled := @settled_foldl rows state
  generalize rows.foldl mergedState state = after at settled
  induction rows with
  | nil =>
    rfl
  | cons row rest inductionHypothesis =>
    rw [List.foldl_cons, (settled row List.mem_cons_self).mergedState_eq]
    exact
      inductionHypothesis fun other member =>
        settled other (List.mem_cons_of_mem _ member)

/-! ### Flags and times -/

theorem connection_foldl (state : AgentState) :
    (rows.foldl mergedState state).connection.getD {} =
      rows.foldl mergedConnection (state.connection.getD {}) := by
  induction rows generalizing state with
  | nil =>
    rfl
  | cons row rest inductionHypothesis =>
    exact inductionHypothesis (mergedState state row)

theorem connected_foldl
    {flag : Bool}
    (isSet : connection.connected = some flag) :
    (rows.foldl mergedConnection connection).connected = some flag := by
  induction rows generalizing connection with
  | nil =>
    exact isSet
  | cons row rest inductionHypothesis =>
    exact inductionHypothesis (by simp [mergedConnection, isSet])

theorem lastSeen_foldl
    {time : Int}
    (isSet : connection.lastSeen = some time) :
    (rows.foldl mergedConnection connection).lastSeen = some time := by
  induction rows generalizing connection with
  | nil =>
    exact isSet
  | cons row rest inductionHypothesis =>
    exact inductionHypothesis (by simp [mergedConnection, isSet])

theorem source_foldl
    {source : AgentSource}
    (isSet : connection.source = some source) :
    (rows.foldl mergedConnection connection).source = some source := by
  induction rows generalizing connection with
  | nil =>
    exact isSet
  | cons row rest inductionHypothesis =>
    exact inductionHypothesis (by simp [mergedConnection, isSet])

theorem shows_foldl
    (agree :
      ∀ other ∈ rows,
        other.online = row.online ∧ other.lastSeenAt = row.lastSeenAt)
    (shows : Shows row connection) :
    Shows row (rows.foldl mergedConnection connection) := by
  induction rows generalizing connection with
  | nil =>
    exact shows
  | cons other rest inductionHypothesis =>
    obtain ⟨flag, time⟩ := shows
    obtain ⟨_, sameTime⟩ := agree other List.mem_cons_self
    exact
      inductionHypothesis
        (fun later member => agree later (List.mem_cons_of_mem _ member))
        ⟨by simp [mergedConnection, flag],
          by simp [mergedConnection, time, sameTime]⟩

theorem shows_iff :
    (∀ row ∈ rows, Shows row (rows.foldl mergedConnection connection)) ↔
      ∀ row ∈ rows,
        (∀ flag ∈ connection.connected, flag = row.online) ∧
          (∀ time ∈ connection.lastSeen, row.lastSeenAt = some time) ∧
          ∀ other ∈ rows,
            other.online = row.online ∧ other.lastSeenAt = row.lastSeenAt := by
  constructor
  · intro shows row member
    obtain ⟨flag, time⟩ := shows row member
    refine ⟨fun set isSet => ?_, fun set isSet => ?_, fun other isOther => ?_⟩
    · exact Option.some.inj ((connected_foldl isSet).symm.trans flag)
    · exact time.symm.trans (lastSeen_foldl isSet)
    · obtain ⟨otherFlag, otherTime⟩ := shows other isOther
      exact
        ⟨Option.some.inj (otherFlag.symm.trans flag), otherTime.symm.trans time⟩
  · intro upToDate row member
    obtain ⟨flag, time, agree⟩ := upToDate row member
    cases rows with
    | nil =>
      cases member
    | cons first rest =>
      obtain ⟨sameFlag, sameTime⟩ := agree first List.mem_cons_self
      show Shows row
        (rest.foldl mergedConnection (mergedConnection connection first))
      refine
        shows_foldl
          (fun other isOther => agree other (List.mem_cons_of_mem _ isOther))
          ⟨?_, ?_⟩
      · cases isSet : connection.connected with
        | none =>
          simp [mergedConnection, isSet, sameFlag]
        | some set =>
          simp [mergedConnection, isSet, flag set isSet]
      · cases isSet : connection.lastSeen with
        | none =>
          simp [mergedConnection, isSet, sameTime]
        | some set =>
          simp [mergedConnection, isSet, time set isSet]

end OneAgent

/-! ### What a poll does to the map -/

theorem AgentState.source_connection (state : AgentState) :
    (state.connection.getD {}).source = state.source := by
  unfold AgentState.source
  cases state.connection <;> rfl

section Polls

variable
    (agents : AgentsMap)
    (registryRows : List AgentRegistryRow)
    (agentId : String)

theorem mergeRegistryAgents_apply :
    mergeRegistryAgents agents registryRows agentId =
      if rowsOf registryRows agentId = [] then agents agentId
      else
        some
          ((rowsOf registryRows agentId).foldl mergedState
            ((agents agentId).getD {})) := by
  unfold mergeRegistryAgents
  induction registryRows generalizing agents with
  | nil =>
    rfl
  | cons row rest inductionHypothesis =>
    rw [List.foldl_cons, inductionHypothesis]
    by_cases nobody : row.agentId = ""
    · simp [mergeRow, rowsOf, nobody]
    · by_cases same : row.agentId = agentId
      · subst same
        have ofAgent :
            rowsOf (row :: rest) row.agentId =
              row :: rowsOf rest row.agentId := by
          simp [rowsOf, nobody]
        rw [ofAgent, if_neg (List.cons_ne_nil _ _), List.foldl_cons,
          mergeRow, if_neg nobody, Function.update_self, Option.getD_some]
        split
        · rename_i isLast
          rw [isLast]
          rfl
        · rfl
      · simp [mergeRow, rowsOf, nobody, same, Ne.symm same]

theorem reconcile_of_noRows
    (noRows : rowsOf registryRows agentId = []) :
    reconcileRegistryAgents agents registryRows agentId =
      (agents agentId).filter fun state =>
        state.source ≠ some .registry := by
  simp [reconcileRegistryAgents, mergeRegistryAgents_apply, noRows]

theorem reconcile_of_rows
    (hasRows : rowsOf registryRows agentId ≠ []) :
    reconcileRegistryAgents agents registryRows agentId =
      some
        ((rowsOf registryRows agentId).foldl mergedState
          ((agents agentId).getD {})) := by
  simp [reconcileRegistryAgents, mergeRegistryAgents_apply, hasRows]

theorem connectionOf_reconcile
    (hasRows : rowsOf registryRows agentId ≠ []) :
    connectionOf (reconcileRegistryAgents agents registryRows) agentId =
      (rowsOf registryRows agentId).foldl mergedConnection
        (connectionOf agents agentId) := by
  rw [connectionOf, reconcile_of_rows _ _ _ hasRows, Option.bind_some,
    connection_foldl]
  unfold connectionOf
  cases agents agentId <;> rfl

theorem connectionOf_of_noRows
    (noRows : rowsOf registryRows agentId = []) :
    connectionOf (reconcileRegistryAgents agents registryRows) agentId =
      if (connectionOf agents agentId).source = some .registry then {}
      else connectionOf agents agentId := by
  rw [connectionOf, connectionOf, reconcile_of_noRows _ _ _ noRows]
  cases agents agentId with
  | none =>
    simp
  | some state =>
    rw [Option.bind_some, state.source_connection]
    by_cases isRegistry : state.source = some .registry <;>
      simp [Option.filter, isRegistry]

theorem reconcile_twice :
    reconcileRegistryAgents (reconcileRegistryAgents agents registryRows)
        registryRows =
      reconcileRegistryAgents agents registryRows := by
  funext agentId
  by_cases noRows : rowsOf registryRows agentId = []
  · simp [reconcile_of_noRows _ _ _ noRows]
  · rw [reconcile_of_rows _ _ _ noRows, reconcile_of_rows _ _ _ noRows,
      Option.getD_some, foldl_mergedState_twice]

theorem source_ne_runtime_iff
    (hasRows : rowsOf registryRows agentId ≠ []) :
    (connectionOf (reconcileRegistryAgents agents registryRows)
        agentId).source = some .registry ↔
      (connectionOf agents agentId).source ≠ some .runtime := by
  rw [connectionOf_reconcile _ _ _ hasRows]
  cases isSource : (connectionOf agents agentId).source with
  | some source =>
    rw [source_foldl isSource]
    cases source <;> simp
  | none =>
    obtain ⟨row, rest, isRows⟩ := List.exists_cons_of_ne_nil hasRows
    rw [isRows, List.foldl_cons]
    exact iff_of_true
      (source_foldl (by simp [mergedConnection, isSource])) nofun

end Polls

/--
A poll keeps the running agents, does nothing when it comes again, and removes
what it has to; it shows its rows exactly where nothing else has been set.
-/
theorem reconciles_iff
    (agents : AgentsMap)
    (registryRows : List AgentRegistryRow) :
    Reconciles agents registryRows ↔ UpToDate agents registryRows := by
  constructor
  · intro reconciles agentId notRuntime row member
    have hasRows := List.ne_nil_of_mem member
    have shows :=
      (reconciles.shows agentId
        ((source_ne_runtime_iff _ _ _ hasRows).mpr notRuntime)).2
    rw [connectionOf_reconcile _ _ _ hasRows] at shows
    exact shows_iff.mp shows row member
  · intro upToDate
    refine
      ⟨fun agentId isRuntime => ?_, reconcile_twice agents registryRows,
        fun agentId isListed => ?_, fun agentId isRegistry => ?_⟩
    · by_cases noRows : rowsOf registryRows agentId = []
      · rw [connectionOf_of_noRows _ _ _ noRows, isRuntime]
        exact isRuntime
      · rw [connectionOf_reconcile _ _ _ noRows]
        exact source_foldl isRuntime
    · obtain ⟨state, listed⟩ := Option.isSome_iff_exists.mp isListed
      by_cases noRows : rowsOf registryRows agentId = []
      · rw [reconcile_of_noRows _ _ _ noRows, connectionOf, listed,
          Option.bind_some, state.source_connection]
        simp [noRows]
      · simp [reconcile_of_rows _ _ _ noRows, noRows]
    · have hasRows : rowsOf registryRows agentId ≠ [] := by
        intro noRows
        rw [connectionOf_of_noRows _ _ _ noRows] at isRegistry
        split at isRegistry
        · cases isRegistry
        · contradiction
      have notRuntime :=
        (source_ne_runtime_iff _ _ _ hasRows).mp isRegistry
      refine ⟨hasRows, ?_⟩
      rw [connectionOf_reconcile _ _ _ hasRows]
      exact shows_iff.mpr (upToDate agentId notRuntime)

def polledAgents : AgentsMap :=
  reconcileRegistryAgents (fun _ => none)
    [{ id := "vm-1", connectionStatus := some "online", lastSeenAt := some 1 }]

/-- The row of that agent at the next poll. -/
def offlineRow : AgentRegistryRow where
  id := "vm-1"
  connectionStatus := some "offline"
  lastSeenAt := some 2

theorem not_reconciles :
    ¬ ∀ agents, Produced agents →
      ∀ registryRows, Reconciles agents registryRows := by
  intro reconciles
  have isOwn : offlineRow ∈ rowsOf [offlineRow] "vm-1" :=
    List.mem_filter.mpr ⟨List.mem_singleton_self _, by decide⟩
  have shows :=
    ((reconciles polledAgents (.poll .nothing _) [offlineRow]).shows "vm-1"
      (by decide)).2 _ isOwn
  exact absurd shows.1 (by decide)

end RpaPlatform.Dashboard
