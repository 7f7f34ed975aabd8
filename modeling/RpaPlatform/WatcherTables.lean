import Mathlib.Data.Finset.Basic
import RpaPlatform.Dictionary
import RpaPlatform.Transition

namespace RpaPlatform.Watchers

open Transition

/-!
# The tables of watchers

`ProcessMonitoringNetworkHandler` keeps which frontends watch the processes of
an agent, and which agents a frontend watches.  Watch and unwatch events of
any number of frontends, and their disconnects, change both.  A handler runs
up to the next command that it sends; what other frontends do can come there.
-/

/-! ### The handler -/

/-- A call of `set_agent_window_tracking`. -/
structure TrackingCommand where
  agentId : String
  enabled : Bool
  deriving DecidableEq

/-- The two tables. -/
structure WatcherTables where
  processManagerWatchers : List (String × Finset Nat) := []
  frontendWatchedAgents : List (Nat × Finset String) := []

namespace WatcherTables

variable
    (tables : WatcherTables)
    (socket : Nat)
    (agentId : String)

def watchersOf : Finset Nat :=
  (tables.processManagerWatchers.lookup agentId).getD ∅

def watchedBy : Finset String :=
  (tables.frontendWatchedAgents.lookup socket).getD ∅

/-- The entry of an agent is set. -/
def withWatchers (watchers : Finset Nat) : WatcherTables :=
  { tables with
    processManagerWatchers :=
      Dictionary.set agentId watchers tables.processManagerWatchers }

/-- The entry of an agent is taken out. -/
def withoutWatchers : WatcherTables :=
  { tables with
    processManagerWatchers :=
      Dictionary.erase agentId tables.processManagerWatchers }

/-- The entry of a websocket is set. -/
def withWatched (watched : Finset String) : WatcherTables :=
  { tables with
    frontendWatchedAgents :=
      Dictionary.set socket watched tables.frontendWatchedAgents }

/-- The entry of a websocket is taken out. -/
def withoutWatched : WatcherTables :=
  { tables with
    frontendWatchedAgents :=
      Dictionary.erase socket tables.frontendWatchedAgents }

/-- `add_watcher`, up to the command that it sends. -/
def addWatcher : WatcherTables × List TrackingCommand :=
  if agentId = "" then
    (tables, [])
  else
    let watchedAgents := tables.watchedBy socket
    let entered := tables.withWatched socket watchedAgents
    if agentId ∈ watchedAgents then
      (entered, [])
    else
      let watchers := tables.watchersOf agentId
      ((entered.withWatchers agentId (insert socket watchers)).withWatched
          socket (insert agentId watchedAgents),
        if watchers = ∅ then [{ agentId, enabled := true }] else [])

/-- The websocket's own entry, without an agent. -/
def discardWatched : WatcherTables :=
  match tables.frontendWatchedAgents.lookup socket with
  | none => tables
  | some watchedAgents =>
    tables.withWatched socket (watchedAgents.erase agentId)

/-- `remove_watcher`, up to the command that it sends. -/
def removeWatcher : WatcherTables × List TrackingCommand :=
  if agentId = "" then
    (tables, [])
  else
    let discarded := tables.discardWatched socket agentId
    let watchers := tables.watchersOf agentId
    if watchers = ∅ then
      (discarded, [])
    else if watchers.erase socket = ∅ then
      (discarded.withoutWatchers agentId, [{ agentId, enabled := false }])
    else
      (discarded.withWatchers agentId (watchers.erase socket), [])

end WatcherTables

/-! ### The sessions -/

/-- Where `run_frontend_ws_session` is. -/
inductive SessionPoint where
  /-- The first snapshot is being sent. -/
  | showing
  | receiving
  /-- A handler sends its command. -/
  | sending
  /-- `remove_all_watchers`, with the agents that it has not come to. -/
  | leaving (agentIds : List String)
  | ended

/-- The tables, and the sessions by the order of their websockets. -/
structure WatcherServer where
  tables : WatcherTables := {}
  sessions : List SessionPoint := []

/-- What can happen next. -/
inductive WatcherAction where
  /-- A session is accepted; a snapshot is sent if there is one. -/
  | connect (snapshot : Bool)
  /-- The snapshot has been sent, or sending it raised. -/
  | shown (socket : Nat) (sent : Bool)
  | watch (socket : Nat) (agentId : String)
  | unwatch (socket : Nat) (agentId : String)
  /-- The command has been sent, or could not be. -/
  | resume (socket : Nat)
  /-- `receive_text` or a handler raises; the agents are listed. -/
  | disconnect (socket : Nat) (agentIds : List String)
  /-- `remove_all_watchers` goes on. -/
  | removeNext (socket : Nat)

namespace WatcherServer

variable
    (server : WatcherServer)
    (socket : Nat)

/-- A session goes on from another point. -/
def withSession
    (tables : WatcherTables)
    (point : SessionPoint) : WatcherServer :=
  { tables, sessions := server.sessions.set socket point }

/-- A handler has run: its session waits if a command is sent. -/
def afterHandler
    (handled : WatcherTables × List TrackingCommand) :
    WatcherServer × List TrackingCommand :=
  (server.withSession socket handled.1
      (if handled.2.isEmpty then .receiving else .sending),
    handled.2)

end WatcherServer

/-- Take a step, if it can be taken, and say which commands are sent. -/
def watcherStep? (server : WatcherServer) :
    WatcherAction → Option (WatcherServer × List TrackingCommand)
  | .connect snapshot =>
    some
      ({ tables := server.tables.withWatched server.sessions.length ∅
         sessions :=
          server.sessions ++
            [if snapshot then .showing else .receiving] },
        [])
  | .shown socket sent =>
    match server.sessions[socket]? with
    | some .showing =>
      some
        (server.withSession socket server.tables
          (if sent then .receiving else .ended), [])
    | _ => none
  | .watch socket agentId =>
    match server.sessions[socket]? with
    | some .receiving =>
      some
        (server.afterHandler socket (server.tables.addWatcher socket agentId))
    | _ => none
  | .unwatch socket agentId =>
    match server.sessions[socket]? with
    | some .receiving =>
      some
        (server.afterHandler socket
          (server.tables.removeWatcher socket agentId))
    | _ => none
  | .resume socket =>
    match server.sessions[socket]? with
    | some .sending =>
      some (server.withSession socket server.tables .receiving, [])
    | _ => none
  | .disconnect socket agentIds =>
    -- A set is listed in any order.
    let leaves :=
      if agentIds.Nodup ∧
          agentIds.toFinset = server.tables.watchedBy socket then
        some (server.withSession socket server.tables (.leaving agentIds), [])
      else
        none
    match server.sessions[socket]? with
    | some .receiving => leaves
    | some .sending => leaves
    | _ => none
  | .removeNext socket =>
    match server.sessions[socket]? with
    | some (.leaving []) =>
      some
        (server.withSession socket (server.tables.withoutWatched socket)
          .ended, [])
    | some (.leaving (agentId :: rest)) =>
      let removed := server.tables.removeWatcher socket agentId
      some (server.withSession socket removed.1 (.leaving rest), removed.2)
    | _ => none

/-- The state after a step. -/
def watcherNext?
    (server : WatcherServer)
    (action : WatcherAction) : Option WatcherServer :=
  (watcherStep? server action).map Prod.fst

/-! ### What the operations do -/

/-- The commands that an edge of an agent's set of watchers calls for. -/
def edgeCommands
    (agentId : String)
    (before after : Finset Nat) : List TrackingCommand :=
  if before = ∅ ∧ after ≠ ∅ then
    [{ agentId, enabled := true }]
  else if before ≠ ∅ ∧ after = ∅ then
    [{ agentId, enabled := false }]
  else
    []

namespace WatcherTables

variable
    (tables : WatcherTables)
    (socket : Nat)
    (agentId : String)

@[simp]
theorem watchersOf_withWatchers
    (watchers : Finset Nat) :
    (tables.withWatchers agentId watchers).watchersOf =
      Function.update tables.watchersOf agentId watchers := by
  funext other
  unfold watchersOf withWatchers
  by_cases same : other = agentId
  · subst other
    rw [Dictionary.lookup_set_self, Function.update_self]
    rfl
  · rw [Dictionary.lookup_set_other same, Function.update_of_ne same]

@[simp]
theorem watchersOf_withoutWatchers :
    (tables.withoutWatchers agentId).watchersOf =
      Function.update tables.watchersOf agentId ∅ := by
  funext other
  unfold watchersOf withoutWatchers
  by_cases same : other = agentId
  · subst other
    rw [Dictionary.lookup_erase_self, Function.update_self]
    rfl
  · rw [Dictionary.lookup_erase_other same, Function.update_of_ne same]

@[simp]
theorem watchedBy_withWatched
    (watched : Finset String) :
    (tables.withWatched socket watched).watchedBy =
      Function.update tables.watchedBy socket watched := by
  funext other
  unfold watchedBy withWatched
  by_cases same : other = socket
  · subst other
    rw [Dictionary.lookup_set_self, Function.update_self]
    rfl
  · rw [Dictionary.lookup_set_other same, Function.update_of_ne same]

@[simp]
theorem watchedBy_withoutWatched :
    (tables.withoutWatched socket).watchedBy =
      Function.update tables.watchedBy socket ∅ := by
  funext other
  unfold watchedBy withoutWatched
  by_cases same : other = socket
  · subst other
    rw [Dictionary.lookup_erase_self, Function.update_self]
    rfl
  · rw [Dictionary.lookup_erase_other same, Function.update_of_ne same]

@[simp]
theorem watchersOf_withWatched
    (watched : Finset String) :
    (tables.withWatched socket watched).watchersOf = tables.watchersOf :=
  rfl

@[simp]
theorem watchersOf_withoutWatched :
    (tables.withoutWatched socket).watchersOf = tables.watchersOf :=
  rfl

@[simp]
theorem watchedBy_withWatchers
    (watchers : Finset Nat) :
    (tables.withWatchers agentId watchers).watchedBy = tables.watchedBy :=
  rfl

@[simp]
theorem watchedBy_withoutWatchers :
    (tables.withoutWatchers agentId).watchedBy = tables.watchedBy :=
  rfl

@[simp]
theorem watchersOf_discardWatched :
    (tables.discardWatched socket agentId).watchersOf = tables.watchersOf := by
  unfold discardWatched
  split <;> rfl

@[simp]
theorem entries_discardWatched :
    (tables.discardWatched socket agentId).processManagerWatchers =
      tables.processManagerWatchers := by
  unfold discardWatched
  split <;> rfl

@[simp]
theorem watchedBy_discardWatched :
    (tables.discardWatched socket agentId).watchedBy =
      Function.update tables.watchedBy socket
        ((tables.watchedBy socket).erase agentId) := by
  unfold discardWatched
  cases found : tables.frontendWatchedAgents.lookup socket with
  | none =>
    have nothing : tables.watchedBy socket = ∅ := by
      simp [watchedBy, found]
    rw [nothing, Finset.erase_empty, ← nothing, Function.update_eq_self]
  | some watchedAgents =>
    simp [watchedBy, found]

/--
The two tables say the same, an agent without watchers has no entry, and
nobody watches an agent without a name.
-/
structure Inverse (tables : WatcherTables) : Prop where
  agree :
    ∀ socket agentId,
      socket ∈ tables.watchersOf agentId ↔ agentId ∈ tables.watchedBy socket
  stored : ∀ entry ∈ tables.processManagerWatchers, entry.2 ≠ ∅
  named : ∀ socket, "" ∉ tables.watchedBy socket

/-- What an operation for a websocket and an agent does. -/
structure Moves
    (before after : WatcherTables)
    (commands : List TrackingCommand)
    (socket : Nat)
    (agentId : String)
    (watchers : Finset Nat)
    (watched : Finset String) : Prop where
  watchersOf :
    after.watchersOf = Function.update before.watchersOf agentId watchers
  watchedBy : after.watchedBy = Function.update before.watchedBy socket watched
  entries :
    ∀ entry ∈ after.processManagerWatchers,
      entry ∈ before.processManagerWatchers ∨ entry.2 ≠ ∅
  commands :
    commands = edgeCommands agentId (before.watchersOf agentId) watchers

variable
    {tables}
    {socket}
    {agentId}

theorem moves_addWatcher
    (inverse : tables.Inverse)
    (named : agentId ≠ "") :
    Moves tables (tables.addWatcher socket agentId).1
      (tables.addWatcher socket agentId).2 socket agentId
      (insert socket (tables.watchersOf agentId))
      (insert agentId (tables.watchedBy socket)) := by
  unfold addWatcher
  rw [if_neg named]
  dsimp only
  split
  case isTrue watched =>
    have watching := (inverse.agree socket agentId).mpr watched
    have someone : tables.watchersOf agentId ≠ ∅ :=
      Finset.ne_empty_of_mem watching
    rw [Finset.insert_eq_of_mem watching, Finset.insert_eq_of_mem watched]
    exact
      { watchersOf := by simp
        watchedBy := by simp
        entries := fun _ => .inl
        commands := by simp [edgeCommands, someone] }
  case isFalse unwatched =>
    exact
      { watchersOf := by simp
        watchedBy := by simp
        entries := by
          intro entry member
          refine (Dictionary.mem_set member).symm.imp id ?_
          rintro rfl
          exact Finset.insert_ne_empty _ _
        commands := by
          by_cases nobody : tables.watchersOf agentId = ∅
          · simp [edgeCommands, nobody]
          · simp [edgeCommands, nobody] }

theorem moves_removeWatcher
    (named : agentId ≠ "") :
    Moves tables (tables.removeWatcher socket agentId).1
      (tables.removeWatcher socket agentId).2 socket agentId
      ((tables.watchersOf agentId).erase socket)
      ((tables.watchedBy socket).erase agentId) := by
  unfold removeWatcher
  rw [if_neg named]
  dsimp only
  split
  case isTrue nobody =>
    exact
      { watchersOf := by
          rw [nobody, Finset.erase_empty, ← nobody]
          simp
        watchedBy := by simp
        entries := fun entry member => .inl (by simpa using member)
        commands := by simp [edgeCommands, nobody] }
  case isFalse somebody =>
    split
    case isTrue last =>
      exact
        { watchersOf := by simp [last]
          watchedBy := by simp
          entries := by
            intro entry member
            exact .inl (by simpa using List.mem_of_mem_filter member)
          commands := by simp [edgeCommands, somebody, last] }
    case isFalse others =>
      exact
        { watchersOf := by simp
          watchedBy := by simp
          entries := by
            intro entry member
            rcases Dictionary.mem_set member with rfl | earlier
            · exact .inr others
            · exact .inl (by simpa using earlier)
          commands := by simp [edgeCommands, somebody, others] }

variable {after : WatcherTables}

section Keeping

variable
    (inverse : tables.Inverse)
include inverse

theorem Inverse.of_moves
    {commands : List TrackingCommand}
    {watchers : Finset Nat}
    {watched : Finset String}
    (moves : Moves tables after commands socket agentId watchers watched)
    (pair : socket ∈ watchers ↔ agentId ∈ watched)
    (sockets :
      ∀ other,
        other ≠ socket →
        (other ∈ watchers ↔ other ∈ tables.watchersOf agentId))
    (agents :
      ∀ other,
        other ≠ agentId →
        (other ∈ watched ↔ other ∈ tables.watchedBy socket))
    (named : "" ∉ watched) :
    after.Inverse where
  agree other otherAgent := by
    have before := inverse.agree other otherAgent
    rw [moves.watchersOf, moves.watchedBy]
    by_cases sameSocket : other = socket
    · subst other
      by_cases sameAgent : otherAgent = agentId
      · subst otherAgent
        simpa using pair
      · simpa [sameAgent, agents otherAgent sameAgent] using before
    · by_cases sameAgent : otherAgent = agentId
      · subst otherAgent
        simpa [sameSocket, sockets other sameSocket] using before
      · simpa [sameSocket, sameAgent] using before
  stored entry member :=
    (moves.entries entry member).elim (inverse.stored entry) id
  named other := by
    rw [moves.watchedBy]
    by_cases sameSocket : other = socket
    · subst other
      simpa using named
    · simpa [sameSocket] using inverse.named other

theorem Inverse.addWatcher :
    (tables.addWatcher socket agentId).1.Inverse := by
  by_cases named : agentId = ""
  · rwa [WatcherTables.addWatcher, if_pos named]
  refine inverse.of_moves (moves_addWatcher inverse named) ?_ ?_ ?_ ?_
  · simp
  · intro other different
    simp [different]
  · intro other different
    simp [different]
  · simpa [Ne.symm named] using inverse.named socket

theorem Inverse.removeWatcher :
    (tables.removeWatcher socket agentId).1.Inverse := by
  by_cases named : agentId = ""
  · rwa [WatcherTables.removeWatcher, if_pos named]
  refine inverse.of_moves (moves_removeWatcher named) ?_ ?_ ?_ ?_
  · simp
  · intro other different
    simp [different]
  · intro other different
    simp [different]
  · simp [inverse.named socket]

theorem Inverse.of_watchedBy
    {other : WatcherTables}
    (sameWatchers :
      other.processManagerWatchers = tables.processManagerWatchers)
    (sameWatched : other.watchedBy = tables.watchedBy) :
    other.Inverse where
  agree := by
    unfold watchersOf
    rw [sameWatchers, sameWatched]
    exact inverse.agree
  stored := by
    rw [sameWatchers]
    exact inverse.stored
  named := by
    rw [sameWatched]
    exact inverse.named

theorem Inverse.withoutWatched
    (nothing : tables.watchedBy socket = ∅) :
    (tables.withoutWatched socket).Inverse := by
  refine inverse.of_watchedBy rfl ?_
  rw [watchedBy_withoutWatched, ← nothing, Function.update_eq_self]

theorem Inverse.withWatched
    (nothing : tables.watchedBy socket = ∅) :
    (tables.withWatched socket ∅).Inverse := by
  refine inverse.of_watchedBy rfl ?_
  rw [watchedBy_withWatched, ← nothing, Function.update_eq_self]

end Keeping

/-- Commands are sent on the edges of the sets of watchers. -/
def Announces
    (before after : WatcherTables)
    (commands : List TrackingCommand) : Prop :=
  ∀ agentId,
    commands.filter (fun command => command.agentId = agentId) =
      edgeCommands agentId (before.watchersOf agentId)
        (after.watchersOf agentId)

@[simp]
theorem edgeCommands_self
    (watchers : Finset Nat) :
    edgeCommands agentId watchers watchers = [] := by
  unfold edgeCommands
  by_cases nobody : watchers = ∅
  · simp [nobody]
  · simp [nobody]

theorem agentId_of_mem_edgeCommands
    {before after : Finset Nat}
    {command : TrackingCommand}
    (member : command ∈ edgeCommands agentId before after) :
    command.agentId = agentId := by
  unfold edgeCommands at member
  split at member
  · rw [List.mem_singleton.mp member]
  · split at member
    · rw [List.mem_singleton.mp member]
    · cases member

theorem Announces.silent
    (same : after.watchersOf = tables.watchersOf) :
    Announces tables after [] := by
  intro agentId
  rw [same, edgeCommands_self]
  rfl

theorem Moves.announces
    {commands : List TrackingCommand}
    {watchers : Finset Nat}
    {watched : Finset String}
    (moves : Moves tables after commands socket agentId watchers watched) :
    Announces tables after commands := by
  intro other
  rw [moves.commands, moves.watchersOf]
  by_cases same : other = agentId
  · subst other
    rw [Function.update_self]
    refine List.filter_eq_self.mpr fun command member => ?_
    exact decide_eq_true (agentId_of_mem_edgeCommands member)
  · rw [Function.update_of_ne same, edgeCommands_self]
    refine List.filter_eq_nil_iff.mpr fun command member => ?_
    have itsAgent := agentId_of_mem_edgeCommands member
    simpa [itsAgent] using Ne.symm same

theorem announces_addWatcher
    (inverse : tables.Inverse) :
    Announces tables (tables.addWatcher socket agentId).1
      (tables.addWatcher socket agentId).2 := by
  by_cases named : agentId = ""
  · rw [addWatcher, if_pos named]
    exact .silent rfl
  · exact (moves_addWatcher inverse named).announces

theorem announces_removeWatcher :
    Announces tables (tables.removeWatcher socket agentId).1
      (tables.removeWatcher socket agentId).2 := by
  by_cases named : agentId = ""
  · rw [removeWatcher, if_pos named]
    exact .silent rfl
  · exact (moves_removeWatcher named).announces

theorem watchedBy_addWatcher_other
    (inverse : tables.Inverse)
    {other : Nat}
    (different : other ≠ socket) :
    (tables.addWatcher socket agentId).1.watchedBy other =
      tables.watchedBy other := by
  by_cases named : agentId = ""
  · rw [addWatcher, if_pos named]
  · rw [(moves_addWatcher inverse named).watchedBy,
      Function.update_of_ne different]

theorem watchedBy_removeWatcher_other
    {other : Nat}
    (different : other ≠ socket) :
    (tables.removeWatcher socket agentId).1.watchedBy other =
      tables.watchedBy other := by
  by_cases named : agentId = ""
  · rw [removeWatcher, if_pos named]
  · rw [(moves_removeWatcher named).watchedBy, Function.update_of_ne different]

theorem watchedBy_removeWatcher
    (inverse : tables.Inverse) :
    (tables.removeWatcher socket agentId).1.watchedBy socket =
      (tables.watchedBy socket).erase agentId := by
  by_cases named : agentId = ""
  · rw [removeWatcher, if_pos named, named,
      Finset.erase_eq_of_notMem (inverse.named socket)]
  · rw [(moves_removeWatcher named).watchedBy, Function.update_self]

end WatcherTables

/-! ### Sessions -/

/-- What every state reached meets. -/
structure Sound (server : WatcherServer) : Prop where
  inverse : server.tables.Inverse
  /-- What a leaving websocket watches is still to come. -/
  leaving :
    ∀ socket agentIds,
      server.sessions[socket]? = some (.leaving agentIds) →
        server.tables.watchedBy socket ⊆ agentIds.toFinset
  /-- Websockets that are not there yet watch nothing. -/
  unopened :
    ∀ socket,
      server.sessions[socket]? = none → server.tables.watchedBy socket = ∅

theorem sound_empty : Sound {} where
  inverse :=
    { agree := fun _ _ =>
        iff_of_false (Finset.notMem_empty _) (Finset.notMem_empty _)
      stored := fun _ member => nomatch member
      named := fun _ member => nomatch member }
  leaving _ _ point := nomatch point
  unopened _ _ := rfl

section Steps

variable
    {server after : WatcherServer}
    {action : WatcherAction}
    {commands : List TrackingCommand}

/-- What a step does. -/
inductive Effect (server : WatcherServer) :
    WatcherServer → List TrackingCommand → Prop where
  | opens
      (point : SessionPoint)
      (present : ∀ agentIds, point ≠ .leaving agentIds) :
      Effect server
        { tables := server.tables.withWatched server.sessions.length ∅
          sessions := server.sessions ++ [point] }
        []
  | goes
      {socket : Nat}
      {point next : SessionPoint}
      (there : server.sessions[socket]? = some point)
      (listed :
        ∀ agentIds,
          next = .leaving agentIds →
            server.tables.watchedBy socket ⊆ agentIds.toFinset) :
      Effect server (server.withSession socket server.tables next) []
  | adds
      {socket : Nat}
      {next : SessionPoint}
      (agentId : String)
      (there : server.sessions[socket]? = some .receiving)
      (present : ∀ agentIds, next ≠ .leaving agentIds) :
      Effect server
        (server.withSession socket
          (server.tables.addWatcher socket agentId).1 next)
        (server.tables.addWatcher socket agentId).2
  | removes
      {socket : Nat}
      {next : SessionPoint}
      (agentId : String)
      (there : server.sessions[socket]? = some .receiving)
      (present : ∀ agentIds, next ≠ .leaving agentIds) :
      Effect server
        (server.withSession socket
          (server.tables.removeWatcher socket agentId).1 next)
        (server.tables.removeWatcher socket agentId).2
  | takes
      {socket : Nat}
      {agentId : String}
      {rest : List String}
      (there : server.sessions[socket]? = some (.leaving (agentId :: rest))) :
      Effect server
        (server.withSession socket
          (server.tables.removeWatcher socket agentId).1 (.leaving rest))
        (server.tables.removeWatcher socket agentId).2
  | closes
      {socket : Nat}
      (there : server.sessions[socket]? = some (.leaving [])) :
      Effect server
        (server.withSession socket (server.tables.withoutWatched socket) .ended)
        []

/-- Every step has one of these effects. -/
theorem effect_of_step
    (taken : watcherStep? server action = some (after, commands)) :
    Effect server after commands := by
  cases action with
  | connect snapshot =>
    obtain ⟨rfl, rfl⟩ := Prod.mk.inj (Option.some.inj taken)
    exact .opens _ fun agentIds => by split <;> nofun
  | shown socket sent =>
    simp only [watcherStep?] at taken
    split at taken
    · rename_i there
      obtain ⟨rfl, rfl⟩ := Prod.mk.inj (Option.some.inj taken)
      exact .goes there fun agentIds => by split <;> nofun
    · cases taken
  | watch socket agentId =>
    simp only [watcherStep?] at taken
    split at taken
    · rename_i there
      obtain ⟨rfl, rfl⟩ := Prod.mk.inj (Option.some.inj taken)
      exact .adds agentId there fun agentIds => by split <;> nofun
    · cases taken
  | unwatch socket agentId =>
    simp only [watcherStep?] at taken
    split at taken
    · rename_i there
      obtain ⟨rfl, rfl⟩ := Prod.mk.inj (Option.some.inj taken)
      exact .removes agentId there fun agentIds => by split <;> nofun
    · cases taken
  | resume socket =>
    simp only [watcherStep?] at taken
    split at taken
    · rename_i there
      obtain ⟨rfl, rfl⟩ := Prod.mk.inj (Option.some.inj taken)
      exact .goes there nofun
    · cases taken
  | disconnect socket agentIds =>
    simp only [watcherStep?] at taken
    split at taken
    case h_3 =>
      cases taken
    all_goals
      rename_i there
      obtain ⟨listed, taken⟩ := Option.ite_none_right_eq_some.mp taken
      obtain ⟨rfl, rfl⟩ := Prod.mk.inj (Option.some.inj taken)
      refine .goes there fun others same => ?_
      obtain rfl := SessionPoint.leaving.inj same
      exact listed.2.ge
  | removeNext socket =>
    simp only [watcherStep?] at taken
    split at taken
    · rename_i there
      obtain ⟨rfl, rfl⟩ := Prod.mk.inj (Option.some.inj taken)
      exact .closes there
    · rename_i there
      obtain ⟨rfl, rfl⟩ := Prod.mk.inj (Option.some.inj taken)
      exact .takes there
    · cases taken

theorem Sound.withSession
    {socket : Nat}
    {point next : SessionPoint}
    {tables : WatcherTables}
    (sound : Sound server)
    (there : server.sessions[socket]? = some point)
    (inverse : tables.Inverse)
    (others :
      ∀ other,
        other ≠ socket → tables.watchedBy other = server.tables.watchedBy other)
    (listed :
      ∀ agentIds,
        next = .leaving agentIds →
          tables.watchedBy socket ⊆ agentIds.toFinset) :
    Sound (server.withSession socket tables next) where
  inverse := inverse
  leaving other agentIds found := by
    by_cases same : other = socket
    · subst other
      obtain ⟨inside, -⟩ := List.getElem?_eq_some_iff.mp there
      rw [WatcherServer.withSession, List.getElem?_set_self inside] at found
      exact listed agentIds (Option.some.inj found)
    · rw [WatcherServer.withSession,
        List.getElem?_set_ne (Ne.symm same)] at found
      have earlier := sound.leaving other agentIds found
      exact (others other same).symm ▸ earlier
  unopened other found := by
    have outside : server.sessions[other]? = none := by
      simpa [WatcherServer.withSession] using found
    have different : other ≠ socket := by
      rintro rfl
      rw [there] at outside
      cases outside
    exact (others other different).trans (sound.unopened other outside)

/-- Every step keeps what every state meets. -/
theorem Sound.step
    (sound : Sound server)
    (effect : Effect server after commands) :
    Sound after := by
  cases effect with
  | opens point present =>
    have nothing : server.tables.watchedBy server.sessions.length = ∅ :=
      sound.unopened _ (List.getElem?_eq_none le_rfl)
    have same :
        (server.tables.withWatched server.sessions.length ∅).watchedBy =
          server.tables.watchedBy := by
      rw [WatcherTables.watchedBy_withWatched, ← nothing,
        Function.update_eq_self]
    refine
      { inverse := sound.inverse.withWatched nothing
        leaving := fun socket agentIds found => ?_
        unopened := fun socket found => ?_ }
    · rw [same]
      rw [List.getElem?_append] at found
      split at found
      · exact sound.leaving socket agentIds found
      · exact
          absurd (List.mem_singleton.mp (List.mem_of_getElem? found)).symm
            (present agentIds)
    · rw [same]
      refine sound.unopened socket (List.getElem?_eq_none ?_)
      have outside := List.getElem?_eq_none_iff.mp found
      rw [List.length_append] at outside
      omega
  | goes there listed =>
    exact sound.withSession there sound.inverse (fun _ _ => rfl) listed
  | adds agentId there present =>
    exact
      sound.withSession there sound.inverse.addWatcher
        (fun _ =>
          WatcherTables.watchedBy_addWatcher_other sound.inverse)
        fun agentIds same => absurd same (present agentIds)
  | removes agentId there present =>
    exact
      sound.withSession there sound.inverse.removeWatcher
        (fun _ => WatcherTables.watchedBy_removeWatcher_other)
        fun agentIds same => absurd same (present agentIds)
  | @takes socket agentId rest there =>
    refine
      sound.withSession there sound.inverse.removeWatcher
        (fun _ => WatcherTables.watchedBy_removeWatcher_other)
        fun agentIds same => ?_
    obtain rfl := SessionPoint.leaving.inj same
    rw [WatcherTables.watchedBy_removeWatcher sound.inverse]
    have listed := sound.leaving socket _ there
    rw [List.toFinset_cons] at listed
    exact Finset.subset_insert_iff.mp listed
  | closes there =>
    have nothing :=
      Finset.subset_empty.mp (sound.leaving _ _ there)
    refine
      sound.withSession there (sound.inverse.withoutWatched nothing)
        (fun other different => ?_) nofun
    rw [WatcherTables.watchedBy_withoutWatched, Function.update_of_ne different]

theorem Sound.announces
    (sound : Sound server)
    (effect : Effect server after commands) :
    WatcherTables.Announces server.tables after.tables commands := by
  cases effect with
  | opens | goes | closes =>
    exact .silent rfl
  | adds =>
    exact WatcherTables.announces_addWatcher sound.inverse
  | removes | takes =>
    exact WatcherTables.announces_removeWatcher

theorem sound_of_run
    {actions : List WatcherAction}
    (run : Run (Fires watcherNext?) {} actions server) :
    Sound server := by
  refine run.preserves (fun before action after taken sound => ?_) sound_empty
  obtain ⟨⟨_, commands⟩, stepped, rfl⟩ := Option.map_eq_some_iff.mp taken
  exact sound.step (effect_of_step stepped)

theorem count_edgeCommands
    (agentId : String)
    (before after : Finset Nat) :
    (edgeCommands agentId before after).count
          { agentId, enabled := true } =
        (if before = ∅ ∧ after ≠ ∅ then 1 else 0) ∧
      (edgeCommands agentId before after).count
          { agentId, enabled := false } =
        if before ≠ ∅ ∧ after = ∅ then 1 else 0 := by
  unfold edgeCommands
  by_cases nobody : before = ∅
  · by_cases nobodyAfter : after = ∅
    · simp [nobody, nobodyAfter]
    · simp [nobody, nobodyAfter]
  · by_cases nobodyAfter : after = ∅
    · simp [nobody, nobodyAfter]
    · simp [nobody, nobodyAfter]

/--
In every state reached, a websocket is among the watchers of an agent exactly
when the agent is among those that it watches, and no stored set of watchers is
empty.  Every step sends an enabling command for an agent exactly when its set
of watchers becomes non-empty, and a disabling one exactly when it becomes
empty.
-/
theorem watcherTables_inverse
    {actions : List WatcherAction}
    (run : Run (Fires watcherNext?) {} actions server) :
    (∀ socket agentId,
      socket ∈ server.tables.watchersOf agentId ↔
        agentId ∈ server.tables.watchedBy socket) ∧
      (∀ entry ∈ server.tables.processManagerWatchers, entry.2 ≠ ∅) ∧
      ∀ action after commands,
        watcherStep? server action = some (after, commands) →
        ∀ agentId,
          let before := server.tables.watchersOf agentId
          let watchers := after.tables.watchersOf agentId
          commands.count { agentId, enabled := true } =
              (if before = ∅ ∧ watchers ≠ ∅ then 1 else 0) ∧
            commands.count { agentId, enabled := false } =
              if before ≠ ∅ ∧ watchers = ∅ then 1 else 0 := by
  have sound := sound_of_run run
  refine ⟨sound.inverse.agree, sound.inverse.stored, ?_⟩
  intro action after commands taken agentId before watchers
  have edges := sound.announces (effect_of_step taken) agentId
  have counted := count_edgeCommands agentId before watchers
  have kept :
      ∀ enabled,
        (commands.filter fun command => command.agentId = agentId).count
            { agentId, enabled } =
          commands.count { agentId, enabled } :=
    fun enabled => List.count_filter (decide_eq_true rfl)
  rw [← edges, kept, kept] at counted
  exact counted

end Steps

/--
Two websockets watch an agent, and the one that came first has left: the other
one is in both tables.
-/
theorem sharedAgent_watched :
    ∃ server,
      Run (Fires watcherNext?) {}
          [.connect false, .connect true, .shown 1 true,
            .watch 0 "agent", .resume 0, .watch 1 "agent",
            .disconnect 0 ["agent"], .removeNext 0, .removeNext 0]
          server ∧
        server.tables.watchersOf "agent" = {1} ∧
        "agent" ∈ server.tables.watchedBy 1 := by
  obtain ⟨server, run, watched⟩ :=
    exists_run_of_execute
      (show
        (execute watcherNext? {}
            [.connect false, .connect true, .shown 1 true,
              .watch 0 "agent", .resume 0, .watch 1 "agent",
              .disconnect 0 ["agent"], .removeNext 0,
              .removeNext 0]).any
          (fun server => server.tables.watchersOf "agent" = {1}) =
            true by decide)
  have watchers := of_decide_eq_true watched
  refine ⟨server, run, watchers, ?_⟩
  refine ((watcherTables_inverse run).1 1 "agent").mp ?_
  rw [watchers]
  exact Finset.mem_singleton_self 1

end RpaPlatform.Watchers
