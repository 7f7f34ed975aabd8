import RpaPlatform.AgentSocketOwner
import RpaPlatform.FrontendSockets
import RpaPlatform.Mirror

namespace RpaPlatform.Agents

open Transition

/-!
# Which agents track their windows

An agent tracks its windows while some frontend watches its processes.  The
server tells it when the first watcher comes and when the last one leaves, and
a handshake tells it again if there are watchers.  The agent keeps its flag
over its connections, and a handshake does not tell it that there are none.
-/

/-! ### What the steps of frontends say about watchers -/

namespace FrontendServer

def isWatched (server : FrontendServer) (agentId : String) : Bool :=
  !((server.watchers.lookup agentId).getD []).isEmpty

end FrontendServer

/-- The agent whose tracking a message switches, and how. -/
def FrontendOutput.tracking? : FrontendOutput → Option (String × Bool)
  | .forwarded _ agentId (.setWindowTracking enabled) =>
    some (agentId, enabled)
  | .unwatched agentId => some (agentId, false)
  | _ => none

def trackingOf (outputs : List FrontendOutput) : List (String × Bool) :=
  outputs.filterMap FrontendOutput.tracking?

/-- What a step does to the watchers, and whom it tells. -/
inductive Announces
    (server after : FrontendServer)
    (outputs : List FrontendOutput) : Prop where
  | same
      (watched : ∀ agentId, after.isWatched agentId = server.isWatched agentId)
      (silent : trackingOf outputs = [])
  | told
      {agentId : String}
      {enabled : Bool}
      (watched : after.isWatched agentId = enabled)
      (others :
        ∀ other,
          other ≠ agentId → after.isWatched other = server.isWatched other)
      (tells : trackingOf outputs = [(agentId, enabled)])
  | untold
      {agentId : String}
      (absent : server.runtime.isConnected agentId = false)
      (others :
        ∀ other,
          other ≠ agentId → after.isWatched other = server.isWatched other)
      (silent : trackingOf outputs = [])

section Frontends

variable
    {library : TextLibrary}
    {server after : FrontendServer}
    {socket : Nat}
    {frontend : FrontendSocket}
    {outputs : List FrontendOutput}
    {agentId : String}

theorem isWatched_set_other
    (server : FrontendServer)
    {other : String}
    (different : other ≠ agentId)
    (watchers : List Nat) :
    ({ server with
        watchers :=
          Dictionary.set agentId watchers server.watchers } :
      FrontendServer).isWatched other = server.isWatched other := by
  unfold FrontendServer.isWatched
  rw [Dictionary.lookup_set_other different]

theorem trackingOf_trackingOutput
    (server : FrontendServer)
    (socket : Nat)
    (agentId : String)
    (enabled : Bool) :
    trackingOf (server.trackingOutput socket agentId enabled) =
      if server.runtime.isConnected agentId then [(agentId, enabled)]
      else [] := by
  unfold FrontendServer.trackingOutput
  split <;> rfl

theorem Announces.of_trackingOutput
    {enabled : Bool}
    (watched : after.isWatched agentId = enabled)
    (others :
      ∀ other,
        other ≠ agentId → after.isWatched other = server.isWatched other) :
    Announces server after (server.trackingOutput socket agentId enabled) := by
  have tells :=
    trackingOf_trackingOutput server socket agentId enabled
  cases connected : server.runtime.isConnected agentId with
  | true =>
    rw [connected, if_pos rfl] at tells
    exact .told watched others tells
  | false =>
    rw [connected, if_neg (by decide)] at tells
    exact .untold connected others tells

theorem Announces.of_watchers
    (watchers : after.watchers = server.watchers)
    (silent : trackingOf outputs = []) :
    Announces server after outputs := by
  refine .same (fun agentId => ?_) silent
  unfold FrontendServer.isWatched
  rw [watchers]

theorem announces_addWatcher :
    Announces server (server.addWatcher socket frontend agentId).1
      (server.addWatcher socket frontend agentId).2 := by
  unfold FrontendServer.addWatcher
  dsimp only
  split
  · exact .of_watchers rfl rfl
  have isWatched :
      ({ server.withSocket socket
            { frontend with
              watched := frontend.watched ++ [agentId]
              point := .handling } with
          watchers :=
            Dictionary.set agentId
              (((server.watchers.lookup agentId).getD []).insert socket)
              server.watchers } : FrontendServer).isWatched agentId =
        true := by
    unfold FrontendServer.isWatched
    rw [Dictionary.lookup_set_self, Option.getD_some,
      Bool.not_eq_true', List.isEmpty_eq_false_iff]
    exact List.ne_nil_of_mem List.mem_insert_self
  split
  · exact .of_trackingOutput isWatched fun other different =>
      isWatched_set_other server different _
  · rename_i notFirst
    have wasWatched : server.isWatched agentId = true := by
      unfold FrontendServer.isWatched
      rw [Bool.not_eq_true']
      exact Bool.eq_false_iff.mpr notFirst
    refine .same (fun other => ?_) rfl
    by_cases same : other = agentId
    · subst other
      rw [isWatched, wasWatched]
    · exact isWatched_set_other server same _

theorem isWatched_withoutWatcher (other : String) :
    (server.withoutWatcher socket agentId).isWatched other =
      if other = agentId ∧ server.isLastWatcher socket agentId = true then
        false
      else
        server.isWatched other := by
  unfold FrontendServer.withoutWatcher FrontendServer.isWatched
  cases found : server.watchers.lookup agentId with
  | none =>
    have notLast : server.isLastWatcher socket agentId = false := by
      unfold FrontendServer.isLastWatcher
      rw [found]
    rw [if_neg fun last => by rw [notLast] at last; cases last.2]
  | some watchers =>
    have isLast :
        server.isLastWatcher socket agentId =
          (!watchers.isEmpty && (watchers.erase socket).isEmpty) := by
      unfold FrontendServer.isLastWatcher
      rw [found]
    dsimp only
    by_cases same : other = agentId
    · subst other
      cases last : server.isLastWatcher socket agentId with
      | true =>
        simp [Dictionary.lookup_erase_self]
      | false =>
        rw [last] at isLast
        simp only [Bool.false_eq_true, if_false, and_false, found,
          Dictionary.lookup_set_self, Option.getD_some]
        cases empty : watchers.isEmpty with
        | true =>
          rw [List.isEmpty_iff.mp empty]
          rfl
        | false =>
          rw [empty] at isLast
          simp only [Bool.not_false, Bool.true_and] at isLast
          rw [← isLast]
    · have elsewhere :
          ¬ (other = agentId ∧ server.isLastWatcher socket agentId = true) :=
        fun both => same both.1
      rw [if_neg elsewhere]
      split
      · rw [Dictionary.lookup_erase_other same]
      · rw [Dictionary.lookup_set_other same]

theorem Announces.of_withoutWatcher
    (watchers :
      after.watchers = (server.withoutWatcher socket agentId).watchers)
    (notLast : server.isLastWatcher socket agentId = false)
    (silent : trackingOf outputs = []) :
    Announces server after outputs := by
  refine .same (fun other => ?_) silent
  have same :
      after.isWatched other =
        (server.withoutWatcher socket agentId).isWatched other := by
    unfold FrontendServer.isWatched
    rw [watchers]
  rw [same, isWatched_withoutWatcher, notLast]
  simp

section LastWatcher

variable
    (watchers :
      after.watchers = (server.withoutWatcher socket agentId).watchers)
    (isLast : server.isLastWatcher socket agentId = true)

include watchers isLast

theorem isWatched_of_lastWatcher :
    after.isWatched agentId = false ∧
      ∀ other,
        other ≠ agentId →
        after.isWatched other = server.isWatched other := by
  have same (other : String) :
      after.isWatched other =
        (server.withoutWatcher socket agentId).isWatched other := by
    unfold FrontendServer.isWatched
    rw [watchers]
  constructor
  · rw [same, isWatched_withoutWatcher, if_pos ⟨rfl, isLast⟩]
  · intro other different
    rw [same, isWatched_withoutWatcher, if_neg fun both =>
      different both.1]

theorem Announces.of_lastWatcher
    (tells : trackingOf outputs = [(agentId, false)]) :
    Announces server after outputs :=
  have ⟨watched, others⟩ := isWatched_of_lastWatcher watchers isLast
  .told watched others tells

theorem Announces.of_lastWatcherOutput :
    Announces server after (server.trackingOutput socket agentId false) :=
  have ⟨watched, others⟩ := isWatched_of_lastWatcher watchers isLast
  .of_trackingOutput watched others

end LastWatcher

theorem announces_removeWatcher :
    Announces server (server.removeWatcher socket frontend agentId).1
      (server.removeWatcher socket frontend agentId).2 := by
  unfold FrontendServer.removeWatcher
  split
  · exact .of_watchers rfl rfl
  cases isLast : server.isLastWatcher socket agentId with
  | true =>
    exact .of_lastWatcherOutput rfl isLast
  | false =>
    exact .of_withoutWatcher rfl isLast rfl

theorem trackingOf_handleCommand (event : FrontendEvent) :
    trackingOf (server.handleCommand socket frontend library event) = [] := by
  unfold FrontendServer.handleCommand
  split
  · rfl
  · cases server.forwardTarget? event.agentId <;> rfl

theorem announces_dispatch (event : FrontendEvent) :
    Announces server (server.dispatch socket frontend library event).1
      (server.dispatch socket frontend library event).2 := by
  unfold FrontendServer.dispatch
  split
  · exact .of_watchers rfl (trackingOf_handleCommand event)
  split
  · exact announces_addWatcher
  split
  · exact announces_removeWatcher
  · exact .of_watchers rfl rfl

theorem announces_welcome :
    Announces server (server.welcome socket frontend).1
      (server.welcome socket frontend).2 := by
  unfold FrontendServer.welcome
  dsimp only
  split
  · exact .of_watchers rfl rfl
  · exact .of_watchers rfl rfl

theorem runtime_withoutWatcher :
    (server.withoutWatcher socket agentId).runtime = server.runtime := by
  unfold FrontendServer.withoutWatcher
  split <;> rfl

theorem runtime_dispatch (event : FrontendEvent) :
    (server.dispatch socket frontend library event).1.runtime =
      server.runtime := by
  unfold FrontendServer.dispatch
  split
  · rfl
  split
  · unfold FrontendServer.addWatcher
    dsimp only
    split <;> rfl
  split
  · unfold FrontendServer.removeWatcher
    split
    · rfl
    · exact runtime_withoutWatcher
  · rfl

theorem runtime_welcome :
    (server.welcome socket frontend).1.runtime = server.runtime := by
  unfold FrontendServer.welcome
  dsimp only
  split <;> rfl

/-- Every step of a websocket tells the agents of its watchers. -/
theorem announces_socketStep
    {action : FrontendAction}
    (stepped :
      frontendSocketStep? library server socket frontend action =
        some (after, outputs)) :
    after.runtime = server.runtime ∧ Announces server after outputs := by
  have watchersKept
      (runtime : after.runtime = server.runtime)
      (watchers : after.watchers = server.watchers)
      (silent : trackingOf outputs = []) :
      after.runtime = server.runtime ∧ Announces server after outputs :=
    ⟨runtime, .of_watchers watchers silent⟩
  unfold frontendSocketStep? at stepped
  split at stepped
  case h_1 _ _ accessToken =>
    split at stepped
    case h_2 =>
      cases stepped
    dsimp only at stepped
    generalize server.userSessions.getSession (strip accessToken)
      server.now = got at stepped
    split at stepped <;> cases stepped <;> exact watchersKept rfl rfl rfl
  case h_2 =>
    split at stepped
    case h_2 =>
      cases stepped
    split at stepped
    · obtain ⟨rfl, rfl⟩ := Prod.mk.inj (Option.some.inj stepped)
      exact ⟨runtime_welcome, announces_welcome⟩
    · cases stepped
      exact watchersKept rfl rfl rfl
  case h_4 _ _ event =>
    split at stepped
    case h_2 =>
      cases stepped
    obtain ⟨rfl, rfl⟩ := Prod.mk.inj (Option.some.inj stepped)
    exact ⟨runtime_dispatch event, announces_dispatch event⟩
  case h_7 =>
    split at stepped
    case h_3 =>
      cases stepped
    · cases stepped
      exact watchersKept rfl rfl rfl
    · rename_i agentId rest isPoint
      obtain ⟨rfl, rfl⟩ := Prod.mk.inj (Option.some.inj stepped)
      refine ⟨runtime_withoutWatcher, ?_⟩
      cases isLast : server.isLastWatcher socket agentId with
      | true =>
        exact .of_lastWatcher rfl isLast rfl
      | false =>
        exact .of_withoutWatcher rfl isLast rfl
  case h_8 =>
    cases stepped
  -- The other steps leave the watchers.
  all_goals
    split at stepped
    all_goals first
      | cases stepped; done
      | cases stepped; exact watchersKept rfl rfl rfl

theorem announces_deliverStep
    {position : Nat}
    {sent : Bool}
    (stepped : deliverStep? server position sent = some (after, outputs)) :
    after.runtime = server.runtime ∧ Announces server after outputs := by
  unfold deliverStep? at stepped
  obtain ⟨broadcast, _, stepped⟩ := Option.bind_eq_some_iff.mp stepped
  obtain ⟨other, _, stepped⟩ := Option.bind_eq_some_iff.mp stepped
  obtain ⟨frontend, _, stepped⟩ := Option.bind_eq_some_iff.mp stepped
  dsimp only at stepped
  split at stepped
  · cases stepped
    exact ⟨rfl, .of_watchers rfl rfl⟩
  split at stepped
  · split at stepped
    · cases stepped
      exact ⟨rfl, .of_watchers rfl rfl⟩
    · cases stepped
  · cases stepped
    exact ⟨rfl, .of_watchers rfl rfl⟩

theorem announces_frontendStep
    {action : FrontendAction}
    (stepped : frontendStep? library server action = some (after, outputs)) :
    (after.runtime = server.runtime ∨
        ∃ runtime, action = .changeRuntime runtime ∧ after.runtime = runtime) ∧
      Announces server after outputs := by
  unfold frontendStep? at stepped
  split at stepped
  · obtain ⟨frontend, _, stepped⟩ := Option.bind_eq_some_iff.mp stepped
    exact (announces_socketStep stepped).imp_left .inl
  · split at stepped
    case h_3 =>
      exact (announces_deliverStep stepped).imp_left .inl
    case h_7 =>
      split at stepped
      · cases stepped
        exact ⟨.inl rfl, .of_watchers rfl rfl⟩
      · cases stepped
    case h_8 _ runtime =>
      cases stepped
      exact ⟨.inr ⟨_, rfl, rfl⟩, .of_watchers rfl rfl⟩
    case h_9 =>
      cases stepped
    all_goals
      cases stepped
      exact ⟨.inl rfl, .of_watchers rfl rfl⟩

end Frontends

/-! ### Agents -/

/-- The agent's end of its connection, and its flag. -/
structure TrackedAgent where
  /-- `_window_tracking_enabled`, and the messages that set it. -/
  windowTracking : Mirror Bool := { held := false }
  isOpen : Bool := false
  /-- The handshake on the connection has been handled. -/
  isShaken : Bool := false

/-- The server and its frontends, and the agents' ends. -/
structure TrackingSystem where
  server : FrontendServer
  agents : String → TrackedAgent := fun _ => {}

namespace TrackingSystem

variable (sys : TrackingSystem)

def withAgent (agentId : String) (agent : TrackedAgent) : TrackingSystem :=
  { sys with agents := Function.update sys.agents agentId agent }

def reaches (agentId : String) : Bool :=
  sys.server.runtime.isConnected agentId && (sys.agents agentId).isOpen

/-- `set_agent_window_tracking`: what is sent to a lost connection is lost. -/
def setAgentWindowTracking (agentId : String) (enabled : Bool) :
    TrackingSystem :=
  if sys.reaches agentId then
    sys.withAgent agentId
      { sys.agents agentId with
        windowTracking :=
          (sys.agents agentId).windowTracking.announce enabled }
  else
    sys

def sendAll (messages : List (String × Bool)) : TrackingSystem :=
  messages.foldl
    (fun sys message => sys.setAgentWindowTracking message.1 message.2) sys

/-- The end of a handshake: an agent that is watched is told so. -/
def tellWatched (agentId : String) : TrackingSystem :=
  if sys.server.isWatched agentId then
    sys.setAgentWindowTracking agentId true
  else
    sys

end TrackingSystem

/-- What can happen next. -/
inductive TrackingAction where
  | frontend (action : FrontendAction)
  /-- A handshake is accepted, and its connection registered. -/
  | register (agentId : String) (socket : Nat) (now : Int)
  /-- The handshake on the agent's connection ends. -/
  | finishHandshake (agentId : String)
  /-- A handshake on an earlier connection of the agent ends. -/
  | finishEarlierHandshake (agentId : String)
  /-- The agent receives the next message. -/
  | deliver (agentId : String)
  /-- The agent's connection is lost. -/
  | lose (agentId : String)
  /-- The agent's program is started again. -/
  | restart (agentId : String)
  /-- The server takes the agent's connection off. -/
  | unregister (agentId : String)

namespace TrackingSystem

/-- Whether a step of a frontend leaves the agents' connections alone. -/
def LeavesConnections
    (sys : TrackingSystem) : FrontendAction → Prop
  | .changeRuntime runtime =>
    runtime.activeAgents = sys.server.runtime.activeAgents
  | _ => True

instance (sys : TrackingSystem) (action : FrontendAction) :
    Decidable (sys.LeavesConnections action) :=
  match action with
  | .changeRuntime runtime =>
    inferInstanceAs
      (Decidable (runtime.activeAgents = sys.server.runtime.activeAgents))
  | .connect | .authenticate _ _ | .greeted _ _ | .shown _ _
  | .receive _ _ | .handled _ | .leave _ | .unwatch _ | .broadcast _
  | .deliver _ _ | .createSession _ _ _ | .getSession _
  | .revokeSession _ | .tick _ =>
    inferInstanceAs (Decidable True)

/-- Take a step, if it can be taken. -/
def step?
    (library : TextLibrary)
    (sys : TrackingSystem) : TrackingAction → Option TrackingSystem
  | .frontend action =>
    if sys.LeavesConnections action then
      (frontendStep? library sys.server action).map fun stepped =>
        { sys with server := stepped.1 }.sendAll (trackingOf stepped.2)
    else
      none
  | .register agentId socket now =>
    if (sys.agents agentId).isOpen then
      none
    else
      some
        ({ sys with
            server :=
              { sys.server with
                runtime :=
                  sys.server.runtime.registerAgent agentId socket
                    now } }.withAgent agentId
          { windowTracking :=
              (sys.agents agentId).windowTracking.interrupted
            isOpen := true })
  | .finishHandshake agentId =>
    if (sys.agents agentId).isShaken then
      none
    else
      some
        ((sys.withAgent agentId
            { sys.agents agentId with isShaken := true }).tellWatched
          agentId)
  | .finishEarlierHandshake agentId =>
    some (sys.tellWatched agentId)
  | .deliver agentId =>
    if (sys.agents agentId).isOpen then
      (sys.agents agentId).windowTracking.receive?.map fun mirror =>
        sys.withAgent agentId
          { sys.agents agentId with windowTracking := mirror }
    else
      none
  | .lose agentId =>
    some (sys.withAgent agentId
        { windowTracking :=
            (sys.agents agentId).windowTracking.interrupted })
  | .restart agentId =>
    some (sys.withAgent agentId {})
  | .unregister agentId =>
    some
      { sys with
        server :=
          { sys.server with
            runtime :=
              { sys.server.runtime with
                activeAgents :=
                  Dictionary.erase agentId
                    sys.server.runtime.activeAgents } } }

/-- An agent is connected, and all that was sent to it has arrived. -/
structure Settled (sys : TrackingSystem) (agentId : String) : Prop where
  connected : sys.server.runtime.isConnected agentId = true
  isOpen : (sys.agents agentId).isOpen = true
  isShaken : (sys.agents agentId).isShaken = true
  arrived : (sys.agents agentId).windowTracking.inFlight = []

end TrackingSystem

/-- An agent that is settled tracks its windows exactly if it is watched. -/
def TrackingAgrees
    (step : TrackingSystem → TrackingAction → TrackingSystem → Prop) :
    Prop :=
  ∀ {now : Int} {actions : List TrackingAction} {reached : TrackingSystem},
    Run step { server := { now } } actions reached →
    ∀ agentId,
      reached.Settled agentId →
      ((reached.agents agentId).windowTracking.held = true ↔
        reached.server.isWatched agentId = true)

/--
The condition under which the flag agrees: an agent that is not watched when
its handshake ends has its flag off, or will have when all has arrived.
-/
def FindsTrackingOff (sys : TrackingSystem) : TrackingAction → Prop
  | .finishHandshake agentId =>
    sys.reaches agentId = true →
    sys.server.isWatched agentId = false →
    (sys.agents agentId).windowTracking.settles = false
  | _ => True

/-! ### The flag will agree -/

namespace TrackingSystem

/-- What a connected agent will hold is whether it is watched. -/
def InStep (sys : TrackingSystem) (agentId : String) : Prop :=
  sys.reaches agentId = true →
  (sys.agents agentId).isShaken = true →
  (sys.agents agentId).windowTracking.settles = sys.server.isWatched agentId

section Steps

variable
    {library : TextLibrary}
    {sys : TrackingSystem}
    {agentId : String}
    {agent : TrackedAgent}

@[simp]
theorem server_withAgent :
    (sys.withAgent agentId agent).server = sys.server :=
  rfl

@[simp]
theorem agents_withAgent :
    (sys.withAgent agentId agent).agents agentId = agent :=
  Function.update_self ..

variable {other : String}

theorem agents_withAgent_other
    (different : other ≠ agentId) :
    (sys.withAgent agentId agent).agents other = sys.agents other :=
  Function.update_of_ne different ..

theorem reaches_withAgent_other
    (different : other ≠ agentId) :
    (sys.withAgent agentId agent).reaches other = sys.reaches other := by
  unfold reaches
  rw [agents_withAgent_other different, server_withAgent]

@[simp]
theorem server_setAgentWindowTracking (enabled : Bool) :
    (sys.setAgentWindowTracking agentId enabled).server = sys.server := by
  unfold setAgentWindowTracking
  split <;> rfl

theorem agents_setAgentWindowTracking_other
    (different : other ≠ agentId)
    (enabled : Bool) :
    (sys.setAgentWindowTracking agentId enabled).agents other =
      sys.agents other := by
  unfold setAgentWindowTracking
  split
  · exact agents_withAgent_other different
  · rfl

theorem sent_setAgentWindowTracking (enabled : Bool) :
    ((sys.setAgentWindowTracking agentId enabled).agents
          agentId).isOpen =
        (sys.agents agentId).isOpen ∧
      ((sys.setAgentWindowTracking agentId enabled).agents
            agentId).isShaken =
          (sys.agents agentId).isShaken ∧
        (sys.reaches agentId = true →
          ((sys.setAgentWindowTracking agentId enabled).agents
              agentId).windowTracking.settles = enabled) := by
  unfold setAgentWindowTracking
  split
  · rw [agents_withAgent]
    exact ⟨rfl, rfl, fun _ => Mirror.settles_announce⟩
  · rename_i unreached
    exact ⟨rfl, rfl, fun reached => absurd reached unreached⟩

theorem reaches_setAgentWindowTracking (enabled : Bool) (other : String) :
    (sys.setAgentWindowTracking agentId enabled).reaches other =
      sys.reaches other := by
  unfold reaches
  rw [server_setAgentWindowTracking]
  by_cases same : other = agentId
  · subst other
    rw [(sent_setAgentWindowTracking enabled).1]
  · rw [agents_setAgentWindowTracking_other same]

theorem InStep.of_same
    {after : TrackingSystem}
    (inStep : sys.InStep agentId)
    (agents : after.agents agentId = sys.agents agentId)
    (reaches : after.reaches agentId = true → sys.reaches agentId = true)
    (watched : after.server.isWatched agentId = sys.server.isWatched agentId) :
    after.InStep agentId := by
  intro reached isShaken
  rw [agents] at isShaken ⊢
  rw [watched]
  exact inStep (reaches reached) isShaken

theorem inStep_told
    {enabled : Bool}
    (watched : sys.server.isWatched agentId = enabled) :
    (sys.setAgentWindowTracking agentId enabled).InStep agentId := by
  intro reached _
  rw [reaches_setAgentWindowTracking] at reached
  rw [server_setAgentWindowTracking, watched]
  exact (sent_setAgentWindowTracking enabled).2.2 reached

theorem InStep.told_other
    (inStep : sys.InStep other)
    (different : other ≠ agentId)
    (enabled : Bool) :
    (sys.setAgentWindowTracking agentId enabled).InStep other := by
  refine inStep.of_same ?_ ?_ ?_
  · exact agents_setAgentWindowTracking_other different enabled
  · rw [reaches_setAgentWindowTracking]
    exact id
  · rw [server_setAgentWindowTracking]

theorem InStep.withAgent_other
    (inStep : sys.InStep other)
    (different : other ≠ agentId) :
    (sys.withAgent agentId agent).InStep other := by
  refine inStep.of_same (agents_withAgent_other different) ?_ rfl
  rw [reaches_withAgent_other different]
  exact id

theorem InStep.tellWatched
    (inStep : sys.InStep other) :
    (sys.tellWatched agentId).InStep other := by
  unfold TrackingSystem.tellWatched
  cases watched : sys.server.isWatched agentId with
  | false =>
    exact inStep
  | true =>
    rw [if_pos rfl]
    by_cases same : other = agentId
    · subst other
      exact inStep_told watched
    · exact inStep.told_other same true

/-- A step of the frontends leaves every agent in step. -/
theorem InStep.frontend
    (inStep : ∀ other, sys.InStep other)
    {action : FrontendAction}
    (leaves : sys.LeavesConnections action)
    {server : FrontendServer}
    {outputs : List FrontendOutput}
    (stepped : frontendStep? library sys.server action = some (server, outputs))
    (other : String) :
    ({ sys with server }.sendAll (trackingOf outputs)).InStep other := by
  obtain ⟨runtimes, announces⟩ := announces_frontendStep stepped
  have active :
      server.runtime.activeAgents = sys.server.runtime.activeAgents := by
    rcases runtimes with same | ⟨runtime, rfl, same⟩
    · rw [same]
    · rw [same]
      exact leaves
  have connected (agentId : String) :
      server.runtime.isConnected agentId =
        sys.server.runtime.isConnected agentId := by
    unfold AgentRuntime.isConnected
    rw [active]
  have reaches (agentId : String) :
      ({ sys with server } : TrackingSystem).reaches agentId =
        sys.reaches agentId := by
    unfold TrackingSystem.reaches
    rw [connected]
  have kept
      (watched : server.isWatched other = sys.server.isWatched other) :
      ({ sys with server } : TrackingSystem).InStep other :=
    (inStep other).of_same rfl (fun reached => reaches other ▸ reached) watched
  cases announces with
  | same watched silent =>
    rw [silent]
    exact kept (watched other)
  | @told agentId enabled watched others tells =>
    rw [tells]
    by_cases same : other = agentId
    · subst other
      exact inStep_told watched
    · exact (kept (others other same)).told_other same enabled
  | @untold agentId absent others silent =>
    rw [silent]
    by_cases same : other = agentId
    · subst other
      intro reached _
      have isReached : sys.reaches agentId = true :=
        reaches agentId ▸ reached
      unfold TrackingSystem.reaches at isReached
      rw [absent] at isReached
      cases isReached
    · exact kept (others other same)

theorem isConnected_registerAgent_other
    {runtime : AgentRuntime}
    (different : other ≠ agentId)
    (socket : Nat)
    (now : Int)
    (connected :
      (runtime.registerAgent agentId socket now).isConnected other = true) :
    runtime.isConnected other = true := by
  unfold AgentRuntime.isConnected at connected ⊢
  obtain ⟨found, isFound⟩ := Option.isSome_iff_exists.mp connected
  rcases active_registerAgent_cases isFound with ⟨same, _⟩ | wasFound
  · exact absurd same different
  · rw [wasFound]
    rfl

/-- A step that meets the condition leaves every agent in step. -/
theorem InStep.step
    {action : TrackingAction}
    {after : TrackingSystem}
    (inStep : ∀ other, sys.InStep other)
    (findsOff : FindsTrackingOff sys action)
    (stepped : sys.step? library action = some after)
    (other : String) :
    after.InStep other := by
  have standing := inStep other
  cases action with
  | frontend action =>
    unfold TrackingSystem.step? at stepped
    dsimp only at stepped
    split at stepped
    · rename_i leaves
      obtain ⟨⟨server, outputs⟩, taken, rfl⟩ :=
        Option.map_eq_some_iff.mp stepped
      exact InStep.frontend inStep leaves taken other
    · cases stepped
  | register agentId socket now =>
    unfold TrackingSystem.step? at stepped
    dsimp only at stepped
    split at stepped
    · cases stepped
    cases stepped
    by_cases same : other = agentId
    · subst other
      intro _ isShaken
      rw [agents_withAgent] at isShaken
      cases isShaken
    · refine standing.of_same (agents_withAgent_other same) ?_ rfl
      intro reached
      unfold reaches at reached ⊢
      rw [agents_withAgent_other same, Bool.and_eq_true] at reached
      rw [isConnected_registerAgent_other same socket now reached.1]
      exact reached.2
  | finishHandshake agentId =>
    unfold TrackingSystem.step? at stepped
    dsimp only at stepped
    split at stepped
    · cases stepped
    cases stepped
    by_cases same : other = agentId
    · subst other
      cases watched : sys.server.isWatched agentId with
      | true =>
        unfold TrackingSystem.tellWatched
        rw [server_withAgent, watched, if_pos rfl]
        exact inStep_told watched
      | false =>
        have silent : (sys.withAgent agentId
                { sys.agents agentId with
                  isShaken := true }).tellWatched agentId =
              sys.withAgent agentId
                { sys.agents agentId with isShaken := true } := by
          unfold TrackingSystem.tellWatched
          rw [server_withAgent, watched]
          rfl
        rw [silent]
        intro reached _
        rw [agents_withAgent, server_withAgent, watched]
        unfold reaches at reached
        rw [agents_withAgent] at reached
        exact findsOff reached watched
    · exact (standing.withAgent_other same).tellWatched
  | finishEarlierHandshake agentId =>
    cases stepped
    exact standing.tellWatched
  | deliver agentId =>
    unfold TrackingSystem.step? at stepped
    dsimp only at stepped
    split at stepped
    · obtain ⟨mirror, received, rfl⟩ :=
        Option.map_eq_some_iff.mp stepped
      by_cases same : other = agentId
      · subst other
        intro reached isShaken
        unfold reaches at reached
        rw [agents_withAgent] at isShaken reached ⊢
        rw [Mirror.settles_receive received]
        exact standing reached isShaken
      · exact standing.withAgent_other same
    · cases stepped
  | lose agentId | restart agentId =>
    cases stepped
    by_cases same : other = agentId
    · subst other
      intro _ isShaken
      rw [agents_withAgent] at isShaken
      cases isShaken
    · exact standing.withAgent_other same
  | unregister agentId =>
    cases stepped
    refine standing.of_same rfl ?_ rfl
    intro reached
    unfold reaches AgentRuntime.isConnected at reached ⊢
    rw [Bool.and_eq_true] at reached
    obtain ⟨connected, isOpen⟩ := reached
    obtain ⟨found, isFound⟩ := Option.isSome_iff_exists.mp connected
    rw [(active_erase isFound).2]
    exact isOpen

end Steps

/-- Where the condition is met, the flags agree with the watchers. -/
theorem trackingAgrees_of_findsTrackingOff (library : TextLibrary) :
    TrackingAgrees (Guarded (Fires (step? library)) FindsTrackingOff) := by
  intro now actions reached run agentId settled
  have stepPreserves :
      ∀ (before : TrackingSystem) action after,
        Guarded (Fires (step? library)) FindsTrackingOff before action after →
        (∀ other, before.InStep other) →
        ∀ other, after.InStep other := by
    rintro before action after ⟨fired, findsOff⟩ inStep
    exact InStep.step inStep findsOff fired
  have started (other : String) :
      ({ server := { now } } : TrackingSystem).InStep other := by
    intro reached
    cases reached
  have inStep := run.preserves stepPreserves started agentId
  have reaches : reached.reaches agentId = true := by
    unfold TrackingSystem.reaches
    rw [settled.connected, settled.isOpen]
    rfl
  rw [Mirror.held_of_settled settled.arrived, inStep reaches settled.isShaken]

/-! ### An agent that loses its connection -/

instance (sys : TrackingSystem) (agentId : String) :
    Decidable (sys.Settled agentId) :=
  decidable_of_iff
    (sys.server.runtime.isConnected agentId = true ∧
      (sys.agents agentId).isOpen = true ∧
        (sys.agents agentId).isShaken = true ∧
          (sys.agents agentId).windowTracking.inFlight = [])
    ⟨fun ⟨connected, isOpen, isShaken, arrived⟩ =>
        ⟨connected, isOpen, isShaken, arrived⟩,
      fun ⟨connected, isOpen, isShaken, arrived⟩ =>
        ⟨connected, isOpen, isShaken, arrived⟩⟩

instance (sys : TrackingSystem) (action : TrackingAction) :
    Decidable (FindsTrackingOff sys action) :=
  match action with
  | .finishHandshake agentId =>
    inferInstanceAs
      (Decidable
        (sys.reaches agentId = true →
          sys.server.isWatched agentId = false →
          (sys.agents agentId).windowTracking.settles = false))
  | .frontend _ | .register _ _ _ | .finishEarlierHandshake _ | .deliver _
  | .lose _ | .restart _ | .unregister _ =>
    inferInstanceAs (Decidable True)

/-- A user opens the first websocket. -/
def openedFrontend : List TrackingAction :=
  [.frontend .connect,
    .frontend (.createSession "token-1" { roles := ["viewer"] } 900),
    .frontend (.authenticate 0 "token-1"), .frontend (.greeted 0 true)]

def sendsEvent (type : String) : List TrackingAction :=
  [.frontend (.receive 0 { type, agentId := "agent-1" }),
    .frontend (.handled 0)]

def connects (socket : Nat) (now : Int) : List TrackingAction :=
  [.register "agent-1" socket now, .finishHandshake "agent-1"]

/-- The connection is lost, and another one made, while it is watched. -/
def watchedAcrossConnections : List TrackingAction :=
  openedFrontend ++ connects 7 10 ++
    sendsEvent "watch_process_manager" ++
    [.deliver "agent-1", .lose "agent-1", .unregister "agent-1"] ++
    connects 8 20 ++ [.deliver "agent-1"] ++
    sendsEvent "unwatch_process_manager" ++ [.deliver "agent-1"]

theorem watchedAcrossConnections_agrees :
    ∃ reached,
      Run (Guarded (Fires (step? asciiTextLibrary)) FindsTrackingOff)
        { server := { now := 0 } } watchedAcrossConnections reached ∧
        reached.Settled "agent-1" ∧
        ((reached.agents "agent-1").windowTracking.held = true ↔
          reached.server.isWatched "agent-1" = true) := by
  obtain ⟨reached, checkedRun, isSettled⟩ :=
    exists_run_of_execute
      (show (execute (checked (step? asciiTextLibrary) FindsTrackingOff)
          { server := { now := 0 } } watchedAcrossConnections).any
          (fun sys => decide (sys.Settled "agent-1")) = true by
        decide)
  have run := checkedRun.guarded_of_checked
  have settled := of_decide_eq_true isSettled
  exact
    ⟨reached, run, settled,
      trackingAgrees_of_findsTrackingOff asciiTextLibrary run "agent-1" settled⟩

/-- The last watcher leaves while the agent has no connection. -/
theorem not_trackingAgrees :
    ¬ TrackingAgrees (Fires (step? asciiTextLibrary)) := by
  intro claimed
  obtain ⟨reached, run, holds⟩ :=
    exists_run_of_execute
      (show (execute (step? asciiTextLibrary) { server := { now := 0 } }
          (openedFrontend ++ connects 7 10 ++
            sendsEvent "watch_process_manager" ++
            [.deliver "agent-1", .lose "agent-1", .unregister "agent-1"] ++
            sendsEvent "unwatch_process_manager" ++ connects 8 20)).any
          (fun sys =>
            decide (sys.Settled "agent-1") &&
              ((sys.agents "agent-1").windowTracking.held &&
                !sys.server.isWatched "agent-1")) = true by
        decide)
  rw [Bool.and_eq_true, Bool.and_eq_true, Bool.not_eq_true',
    decide_eq_true_eq] at holds
  obtain ⟨settled, isOn, unwatched⟩ := holds
  have watched := (claimed run "agent-1" settled).mp isOn
  rw [unwatched] at watched
  cases watched

end TrackingSystem

end RpaPlatform.Agents
