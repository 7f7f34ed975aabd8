import RpaPlatform.TaskOrphans

namespace RpaPlatform.Tasks

open TaskDB Transition
open Agents (AgentConnectionStatus)

/-!
# No task is orphaned where reports are delivered

What a step of the task service does to the tasks that were sent to the agent,
on its own and when a session handles a report; with the agent's steps, every
step that meets the condition keeps the invariant.  The condition is met by the
run of a task that is executed on one connection, and a run that loses the
connection while a task is executed shows that it is needed.
-/

/-! ### Steps of the task service -/

/-- What a step of the task service does to the tasks that were sent. -/
structure ServerStep
    (server : Server)
    (action : Action)
    (before after : DeliverySystem) : Prop where
  taken : step? server before.server action = some after.server
  status : after.status = before.status
  manager : after.manager = before.manager
  reported : after.reported = before.reported
  handled : ∀ data ∈ before.handled, data ∈ after.handled
  once : after.executions.Nodup
  known : ∀ taskId ∈ after.executions, taskId ∈ after.server.dispatched
  sent :
    ∀ taskId ∈ after.sent,
      taskId ∈ before.sent ∨
        taskId ∈ after.server.dispatched ∧ after.pending taskId = true
  unread :
    ∀ data,
      data.taskStatus.terminal = true →
      before.unread data →
      after.unread data ∨ data ∈ after.handled
  pending :
    ∀ taskId ∈ before.sent,
      before.pending taskId = true →
      after.pending taskId = true ∨ after.server.ended taskId
  kept :
    ∀ taskId ∈ before.sent,
      before.server.reopens action = some taskId →
      before.settled taskId = true →
      before.pending taskId = true

variable
    {server : Server}
    {action : Action}
    {before after : DeliverySystem}
    {served : TaskSystem}
    {host : DeliveryHost}
    {found : TaskLink}
    {rest : List AgentEvent}

theorem DeliverySound.serverStep
    (sound : DeliverySound before)
    (step : ServerStep server action before after) :
    DeliverySound after where
  coherent := by
    obtain ⟨turn, begins, took⟩ := step_cases step.taken
    exact sound.coherent.step begins took
  recorded := by
    obtain ⟨turn, begins, took⟩ := step_cases step.taken
    exact sound.recorded.step sound.coherent begins took
  reading := by
    rw [step.status, step.manager]
    exact sound.reading
  once := step.once
  known := step.known
  sent := by
    intro taskId member
    rcases step.sent taskId member with earlier | ⟨dispatched, _⟩
    · exact dispatched_step step.taken (sound.sent taskId earlier)
    · exact dispatched
  reports := by
    intro data member terminal
    rw [step.reported] at member
    rcases sound.reports data member terminal with handled | isUnread
    · exact .inl (step.handled data handled)
    · exact (step.unread data terminal isUnread).symm
  coming := by
    intro taskId member
    rw [settled_iff]
    rcases step.sent taskId member with earlier | ⟨_, waits⟩
    · have stays
          (waits : before.pending taskId = true) :
          after.server.ended taskId ∨ after.pending taskId = true :=
        (step.pending taskId earlier waits).symm
      rcases sound.coming taskId earlier with settled | waits
      · by_cases reopened : before.server.reopens action = some taskId
        · exact stays (step.kept taskId earlier reopened settled)
        · exact .inl <| ended_step step.taken (settled_iff.mp settled) reopened
      · exact stays waits
    · exact .inr waits

/-- A step of the task service that sends the agent nothing to execute. -/
theorem DeliverySound.serving
    (sound : DeliverySound before)
    (taken : step? server before.server action = some served)
    {down : List ServerEvent}
    (executes :
      down.filterMap ServerEvent.executes =
        before.down.filterMap ServerEvent.executes)
    (activeAgent : Option Nat)
    (cancelSent : Nat → Bool)
    (kept :
      ∀ taskId ∈ before.sent,
        before.server.reopens action = some taskId →
        before.settled taskId = true →
        before.pending taskId = true) :
    ServerStep server action before
      { before with
        server := served
        down := down
        activeAgent := activeAgent
        cancelSent := cancelSent } := by
  have same :
      down.filterMap ServerEvent.executes ++
          before.executor.filterMap Execution.task =
        before.executions :=
    congrArg (· ++ _) executes
  exact
    { taken
      status := rfl
      manager := rfl
      reported := rfl
      handled := fun _ => id
      once := by
        show (down.filterMap _ ++ _).Nodup
        rw [same]
        exact sound.once
      known := by
        intro taskId member
        change taskId ∈ down.filterMap _ ++ _ at member
        rw [same] at member
        exact dispatched_step taken (sound.known taskId member)
      sent := fun _ => .inl
      unread := fun _ _ => .inl
      pending := by
        intro taskId _ waits
        left
        rw [DeliverySystem.pending_iff] at waits ⊢
        refine waits.imp_right (Or.imp_left ?_)
        intro inFlight
        rw [DeliverySystem.executeInFlight_iff] at inFlight ⊢
        obtain ⟨connected, event, member, named⟩ := inFlight
        refine ⟨connected, ?_⟩
        have told : taskId ∈ down.filterMap ServerEvent.executes := by
          rw [executes]
          exact List.mem_filterMap.mpr ⟨event, member, named⟩
        exact List.mem_filterMap.mp told
      kept }

namespace DeliverySystem

variable
    {sys after : DeliverySystem}
    {event : ServerEvent}
    {sent : Bool}

theorem sendToAgent_cases
    (sends : sys.sendToAgent event sent = some after) :
    ∃ down activeAgent,
      after = { sys with down := down, activeAgent := activeAgent } ∧
        (down = sys.down ∨ sent = true ∧ down = sys.down ++ [event]) := by
  unfold sendToAgent at sends
  split at sends
  · split at sends
    · cases sends
    · cases sends
      exact ⟨_, _, rfl, .inl rfl⟩
  · split at sends
    · rename_i wasSent
      split at sends
      · cases sends
        exact ⟨_, _, rfl, .inr ⟨wasSent, rfl⟩⟩
      · cases sends
        exact ⟨_, _, rfl, .inl rfl⟩
    · cases sends
      exact ⟨_, _, rfl, .inl rfl⟩

theorem sendToAgent_open
    (sends : sys.sendToAgent event true = some after)
    (isOpen : ∀ link ∈ sys.activeAgent, sys.connectedOn link = true) :
    sys.status = .connected ∧
      after = { sys with down := sys.down ++ [event] } := by
  unfold sendToAgent at sends
  split at sends
  · cases sends
  · rename_i link active
    have connected := isOpen link active
    simp only [connected, if_true, Option.some.injEq] at sends
    simp only [connectedOn, Bool.and_eq_true, decide_eq_true_eq] at connected
    exact ⟨connected.1.1, sends.symm⟩

end DeliverySystem

theorem executes_append_of_silent
    {down : List ServerEvent}
    {event : ServerEvent}
    (silent : event.executes = none) :
    (down ++ [event]).filterMap ServerEvent.executes =
      down.filterMap ServerEvent.executes := by
  simp [silent]

/-- A task that was sent on an open connection is going to be executed. -/
theorem DeliverySound.dispatching
    {slot : Nat}
    {answer : Answer}
    {task sentTask : TaskSpec}
    {refusal sentRefusal : Option (String × Nat)}
    {data : ExecuteTaskData}
    (sound : DeliverySound before)
    (taken : step? server before.server (.resume slot answer) = some served)
    (waits : before.server.frames slot = .dispatching task refusal)
    (sends : served.frames slot = .sending sentTask true sentRefusal)
    (issued : sentTask.asAgentExecution = some data)
    (connected : before.status = .connected) :
    ServerStep server (.resume slot answer) before
      { before with
        server := served
        sent := before.sent ++ [sentTask.id]
        down := before.down ++ [.executeTask data] } := by
  obtain ⟨rfl, _, _, _, dispatched⟩ := sending_step taken waits sends
  have named : data.taskId = sentTask.id := by
    obtain ⟨component, _, rfl⟩ := Option.map_eq_some_iff.mp issued
    rfl
  have unsent : sentTask.id ∉ before.server.dispatched :=
    sound.recorded.waiting slot sentTask.id (by rw [waits]; rfl)
  have executions :
      ((before.down ++ [ServerEvent.executeTask data]).filterMap
            ServerEvent.executes ++
          before.executor.filterMap Execution.task).Perm
        (sentTask.id :: before.executions) := by
    rw [← named]
    simp only [List.filterMap_append, List.append_assoc]
    exact List.perm_middle
  exact
    { taken
      status := rfl
      manager := rfl
      reported := rfl
      handled := fun _ => id
      once := by
        refine executions.nodup_iff.mpr ?_
        refine List.nodup_cons.mpr ⟨?_, sound.once⟩
        intro member
        exact unsent (sound.known _ member)
      known := by
        intro taskId member
        rcases List.mem_cons.mp (executions.subset member) with
          rfl | earlier
        · exact dispatched
        · exact dispatched_step taken (sound.known taskId earlier)
      sent := by
        intro taskId member
        rcases List.mem_append.mp member with earlier | latest
        · exact .inl earlier
        · refine .inr ?_
          rw [List.mem_singleton.mp latest]
          refine ⟨dispatched, DeliverySystem.pending_iff.mpr (.inr (.inl ?_))⟩
          refine DeliverySystem.executeInFlight_iff.mpr
            ⟨connected, .executeTask data,
              List.mem_append_right _ (List.mem_singleton.mpr rfl), ?_⟩
          exact congrArg some named
      unread := fun _ _ => .inl
      pending := by
        intro taskId _ waits
        left
        rw [DeliverySystem.pending_iff] at waits ⊢
        refine waits.imp_right (Or.imp_left ?_)
        intro inFlight
        rw [DeliverySystem.executeInFlight_iff] at inFlight ⊢
        obtain ⟨_, event, member, named⟩ := inFlight
        exact ⟨connected, event, List.mem_append_left _ member, named⟩
      kept := by
        intro taskId _ reopened
        simp only [TaskSystem.reopens, waits] at reopened
        cases reopened }

theorem DeliverySound.reopening
    (reliable : DeliversReports host before (.serve action))
    (taken : before.serve? host action = some after) :
    ∀ taskId ∈ before.sent,
      before.server.reopens action = some taskId →
      before.settled taskId = true →
      before.pending taskId = true := by
  intro taskId member reopened settled
  cases action with
  | taskStatus slot clientId data now =>
    obtain ⟨served, _, continued⟩ := Option.bind_eq_some_iff.mp taken
    simp only [TaskSystem.reopens] at reopened
    split at reopened
    · cases reopened
    · cases reopened
      simp only [if_pos member] at continued
      cases continued
  | resume slot answer =>
    simp only [DeliversReports] at reliable
    simp only [TaskSystem.reopens] at reopened
    split at reopened
    · rename_i task refusal sending
      cases reopened
      rw [sending] at reliable
      exact reliable rfl member settled
    · rename_i task refusal deploying
      cases reopened
      rw [deploying] at reliable
      exact reliable member settled
    · cases reopened
  | _ =>
    cases reopened

/-- A step of the task service keeps the invariant. -/
theorem DeliverySound.serve
    (sound : DeliverySound before)
    (reliable : DeliversReports host before (.serve action))
    (taken : before.serve? host action = some after) :
    DeliverySound after := by
  have kept := DeliverySound.reopening reliable taken
  obtain ⟨served, stepped, continued⟩ := Option.bind_eq_some_iff.mp taken
  have unsent
      {event : ServerEvent}
      {sent : Bool}
      {cancelSent : Nat → Bool}
      (silent : sent = true → event.executes = none)
      (sends :
        { before with
          server := served
          cancelSent := cancelSent }.sendToAgent event sent = some after) :
      DeliverySound after := by
    obtain ⟨down, activeAgent, rfl, same | ⟨wasSent, rfl⟩⟩ :=
      DeliverySystem.sendToAgent_cases sends
    · exact sound.serverStep <| sound.serving stepped (by rw [same]) _ _ kept
    · exact sound.serverStep <|
        sound.serving stepped
          (executes_append_of_silent (silent wasSent)) _ _ kept
  have plain
      {cancelSent : Nat → Bool} :
      DeliverySound
        { before with
          server := served
          cancelSent := cancelSent } :=
    sound.serverStep (sound.serving stepped rfl _ _ kept)
  cases action with
  | taskStatus slot clientId data now =>
    simp only at continued
    split at continued
    · cases continued
    · cases continued
      exact plain
  | resume slot answer =>
    simp only at continued
    split at continued
    · rename_i task refusal sentTask sent sentRefusal waits sends
      split at continued
      · cases continued
      · rename_i data issued
        split at continued
        · rename_i ours
          obtain ⟨rfl, wasSent, accepted, ofAgent, _⟩ :=
            sending_step stepped waits sends
          simp only [DeliversReports, waits] at reliable
          have isOpen := reliable accepted ofAgent ours
          split at continued
          · rename_i isSent
            subst isSent
            obtain ⟨connected, rfl⟩ :=
              DeliverySystem.sendToAgent_open continued (isOpen wasSent.symm)
            exact sound.serverStep <|
              sound.dispatching stepped waits sends issued connected
          · refine unsent (fun isSent => ?_) continued
            cases isSent
        · cases continued
          exact plain
    · rename_i taskId actor row refusal sent waits sends
      split at continued
      · exact unsent (fun _ => rfl) continued
      · cases continued
        exact plain
    · split at continued
      · cases continued
        exact plain
      · cases continued
    · cases continued
      exact plain
  | _ =>
    cases continued
    exact plain

/-! ### What a session reads -/

/-- A session reads a report and handles it. -/
theorem DeliverySound.handling
    {link slot : Nat}
    {data : TaskStatusData}
    {now : Int}
    (sound : DeliverySound before)
    (isFound : before.links[link]? = some found)
    (up : found.up = .taskStatus data :: rest)
    (taken :
      step? host.server before.server
        (.taskStatus slot (some host.agentId) data now) = some served)
    (reliable :
      data.taskStatus.terminal = false → before.mayReopen data.taskId) :
    ServerStep host.server
      (.taskStatus slot (some host.agentId) data now) before
      { before.updateLink link fun found => { found with up := rest } with
        server := served
        handled := before.handled ++ [data] } := by
  have isRead
      {other : TaskStatusData}
      (isUnread : before.unread other)
      (different : other ≠ data) :
      (before.updateLink link fun found =>
        { found with up := rest }).unread other := by
    refine DeliverySystem.unread_updateLink isUnread ?_
    intro known same isOpen member
    rw [isFound] at same
    cases same
    rw [up] at member
    rcases List.mem_cons.mp member with latest | later
    · cases latest
      exact (different rfl).elim
    · exact ⟨isOpen, later⟩
  exact
    { taken
      status := rfl
      manager := rfl
      reported := rfl
      handled := fun _ => List.mem_append_left _
      once := sound.once
      known := by
        intro taskId member
        exact dispatched_step taken (sound.known taskId member)
      sent := fun _ => .inl
      unread := by
        intro other _ isUnread
        by_cases same : other = data
        · right
          rw [same]
          exact List.mem_append_right _ (List.mem_singleton.mpr rfl)
        · exact .inl (isRead isUnread same)
      pending := by
        intro taskId member waits
        rw [DeliverySystem.pending_iff] at waits ⊢
        rcases waits with
          reports | inFlight | ⟨other, isUnread, named, terminal⟩
        · exact .inl (.inl reports)
        · exact .inl (.inr (.inl inFlight))
        · by_cases same : other = data
          · subst other
            subst taskId
            have stored :=
              sound.recorded.dispatched _ (sound.sent _ member)
            exact .inr (ended_of_report taken stored terminal)
          · exact .inl <| .inr <| .inr
              ⟨other, isRead isUnread same, named, terminal⟩
      kept := by
        intro taskId member reopened settled
        simp only [TaskSystem.reopens] at reopened
        split at reopened
        · cases reopened
        · rename_i isOpen
          cases reopened
          exact reliable (Bool.eq_false_of_not_eq_true isOpen) member
            settled }

namespace DeliverySystem

variable
    {sys : DeliverySystem}
    {link : Nat}
    {found : TaskLink}
    {event : AgentEvent}
    {rest : List AgentEvent}
    {data : TaskStatusData}

theorem unread_read
    (isFound : sys.links[link]? = some found)
    (up : found.up = event :: rest)
    (silent : event.isFinal = false)
    (terminal : data.taskStatus.terminal = true)
    (isUnread : sys.unread data) :
    (sys.updateLink link fun found =>
      { found with up := rest }).unread data := by
  refine unread_updateLink isUnread ?_
  intro known same isOpen member
  rw [isFound] at same
  cases same
  rw [up] at member
  rcases List.mem_cons.mp member with rfl | later
  · simp only [AgentEvent.isFinal, terminal] at silent
    cases silent
  · exact ⟨isOpen, later⟩

theorem nothingFinal_read
    (isFound : sys.links[link]? = some found)
    (nothing : ∀ event ∈ rest, event.isFinal = false) :
    (sys.updateLink link fun found =>
      { found with up := rest }).nothingFinal link := by
  intro known same _ event member
  rw [updateLink_self isFound] at same
  cases same
  exact nothing event member

theorem registerAgent_eq
    (sys : DeliverySystem)
    (link : Nat) :
    ∃ links,
      sys.registerAgent link =
        { sys with links := links, activeAgent := some link } := by
  unfold registerAgent
  split
  · exact ⟨_, rfl⟩
  · split
    · exact ⟨_, rfl⟩
    · exact ⟨_, rfl⟩

theorem unread_registerAgent
    (nothing :
      ∀ previous ∈ sys.activeAgent, previous ≠ link → sys.nothingFinal previous)
    (terminal : data.taskStatus.terminal = true)
    (isUnread : sys.unread data) :
    (sys.registerAgent link).unread data := by
  have registered :
      (sys.updateLink link fun found =>
        { found with authenticated := true }).unread data :=
    unread_updateLink isUnread fun _ _ isOpen member => ⟨isOpen, member⟩
  unfold registerAgent
  split
  · exact registered
  · rename_i previous active
    split
    · exact registered
    · rename_i other
      refine unread_closeLink registered terminal ?_
      intro known same
      refine nothing previous active other known ?_
      exact (updateLink_other other).symm.trans same

end DeliverySystem

theorem DeliverySound.dropping
    {link : Nat}
    {event : AgentEvent}
    (sound : DeliverySound before)
    (isFound : before.links[link]? = some found)
    (up : found.up = event :: rest)
    (silent : event.isFinal = false)
    (nothing : ∀ event ∈ rest, event.isFinal = false) :
    AgentStep before
      ((before.updateLink link fun found =>
        { found with up := rest }).closeLink link) := by
  apply sound.relinking
  intro data terminal isUnread
  exact DeliverySystem.unread_closeLink
    (DeliverySystem.unread_read isFound up silent terminal isUnread)
    terminal (DeliverySystem.nothingFinal_read isFound nothing)

theorem DeliverySound.registering
    {link : Nat}
    (sound : DeliverySound before)
    (isFound : before.links[link]? = some found)
    (up : found.up = .handshake :: rest)
    (nothing :
      ∀ previous ∈ before.activeAgent,
        previous ≠ link → before.nothingFinal previous) :
    AgentStep before
      ((before.updateLink link fun found =>
        { found with up := rest }).registerAgent link) := by
  have unread
      (data : TaskStatusData)
      (terminal : data.taskStatus.terminal = true)
      (isUnread : before.unread data) :
      ((before.updateLink link fun found =>
        { found with up := rest }).registerAgent link).unread data := by
    refine DeliverySystem.unread_registerAgent ?_ terminal
      (DeliverySystem.unread_read isFound up rfl terminal isUnread)
    intro previous active other known same
    refine nothing previous active other known ?_
    exact (DeliverySystem.updateLink_other other).symm.trans same
  obtain ⟨links, same⟩ :=
    (before.updateLink link fun found =>
      { found with up := rest }).registerAgent_eq link
  rw [same] at unread ⊢
  exact sound.relinking unread

theorem DeliverySound.receive
    {link slot : Nat}
    {accepted : Bool}
    {now : Int}
    (sound : DeliverySound before)
    (reliable : DeliversReports host before (.receive link slot accepted now))
    (taken : before.receive? host link slot accepted now = some after) :
    DeliverySound after := by
  unfold DeliverySystem.receive? at taken
  split at taken
  · cases taken
  · rename_i found isFound
    split at taken
    · cases taken
    · rename_i isOpen
      have reads :=
        reliable found isFound (Bool.eq_false_of_not_eq_true isOpen)
      split at taken
      · cases taken
      · rename_i event rest up
        rw [up] at reads
        cases event with
        | handshake =>
          cases accepted with
          | true =>
            cases taken
            exact sound.agentStep (sound.registering isFound up reads)
          | false =>
            cases taken
            exact sound.agentStep (sound.dropping isFound up rfl reads)
        | taskStatus data =>
          simp only at taken
          split at taken
          · rename_i authenticated
            obtain ⟨served, stepped, rfl⟩ :=
              Option.map_eq_some_iff.mp taken
            simp only [DeliverySystem.readsReliably, authenticated,
              if_true] at reads
            exact sound.serverStep (sound.handling isFound up stepped reads)
          · rename_i unauthenticated
            cases taken
            simp only [DeliverySystem.readsReliably, unauthenticated,
              Bool.false_eq_true, if_false] at reads
            obtain ⟨silent, later⟩ := List.forall_mem_cons.mp reads
            exact sound.agentStep (sound.dropping isFound up silent later)

/-! ### Runs -/

/-- A step that meets the condition keeps the invariant. -/
theorem DeliverySound.step
    {action : DeliveryAction}
    (sound : DeliverySound before)
    (reliable : DeliversReports host before action)
    (taken : deliveryStep? host before action = some after) :
    DeliverySound after := by
  cases action with
  | serve action =>
    exact sound.serve reliable taken
  | receive link slot accepted now =>
    exact sound.receive reliable taken
  | closeSession link =>
    cases taken
    exact sound.agentStep (sound.closing reliable before.activeAgent)
  | cleanupConnection link =>
    obtain ⟨_, checked⟩ := Option.ite_none_right_eq_some.mp taken
    obtain ⟨_, closed⟩ := Option.ite_none_right_eq_some.mp checked
    cases closed
    exact sound.agentStep (sound.relinking fun _ _ => id)
  | timeoutAgent =>
    obtain ⟨link, active, rfl⟩ := Option.map_eq_some_iff.mp taken
    exact sound.agentStep (sound.closing (reliable link active) none)
  | startOpening =>
    obtain ⟨top, started⟩ := Option.ite_none_right_eq_some.mp taken
    cases started
    exact sound.agentStep (sound.starting top)
  | socketClosed =>
    obtain ⟨closing, closed⟩ :=
      Option.ite_none_right_eq_some.mp taken
    cases closed
    refine sound.agentStep (sound.managing ?_ ?_ ?_ _ _)
    · exact closing.symm ▸ nofun
    · exact nofun
    · exact nofun
  | connect =>
    obtain ⟨opening, opened⟩ :=
      Option.ite_none_right_eq_some.mp taken
    cases opened
    exact sound.agentStep (sound.connecting opening)
  | openFails =>
    obtain ⟨waiting, failed⟩ := Option.ite_none_right_eq_some.mp taken
    cases failed
    refine sound.agentStep (sound.managing ?_ ?_ ?_ _ _)
    · rcases waiting with closing | opening
      · exact closing.symm ▸ nofun
      · exact opening.symm ▸ nofun
    · exact nofun
    · exact nofun
  | readEvent sessionFound =>
    obtain ⟨_, reads⟩ := Option.ite_none_right_eq_some.mp taken
    split at reads
    · cases reads
    · rename_i event rest down
      cases reads
      exact sound.agentStep (sound.readingEvent down reliable)
  | endReadLoop fatal =>
    obtain ⟨_, ended⟩ := Option.ite_none_right_eq_some.mp taken
    cases ended
    have ends :
        (if fatal then AgentConnectionStatus.stop else .error) ≠
          .connected := by
      cases fatal <;> exact nofun
    exact sound.agentStep (.disconnecting reliable ends)
  | resumeManager =>
    obtain ⟨ended, resumed⟩ := Option.ite_none_right_eq_some.mp taken
    cases resumed
    exact sound.agentStep (sound.resuming ended)
  | delayOver =>
    obtain ⟨delaying, waited⟩ := Option.ite_none_right_eq_some.mp taken
    cases waited
    have elsewhere : before.manager ≠ .reading := by
      rw [delaying]
      exact nofun
    have offline : before.status ≠ .connected :=
      fun connected => elsewhere (sound.reading.mp connected)
    refine sound.agentStep (sound.managing elsewhere offline ?_ _ _)
    exact nofun
  | resumeExecutor position outcome =>
    exact sound.agentStep (sound.executing reliable taken)

theorem not_unread_of_quiet
    {sys : DeliverySystem}
    (quiet : sys.quiet)
    (data : TaskStatusData) :
    ¬ sys.unread data := by
  rintro ⟨number, link, isFound, isOpen, member⟩
  rw [quiet.2 link (List.mem_of_getElem? isFound) isOpen] at member
  cases member

theorem notPending_of_quiet
    {sys : DeliverySystem}
    {taskId : String}
    (quiet : sys.quiet)
    (idle : sys.executes taskId = false) :
    sys.pending taskId ≠ true := by
  intro waits
  rcases DeliverySystem.pending_iff.mp waits with
    ⟨execution, member, reports⟩ | inFlight | ⟨data, isUnread, _⟩
  · have isIdle := List.any_eq_false.mp idle execution member
    refine isIdle (decide_eq_true ?_)
    cases execution with
    | scheduled data =>
      exact congrArg some (of_decide_eq_true reports)
    | running found pid cancelled =>
      have same := (Bool.and_eq_true_iff.mp reports).1
      exact congrArg some (of_decide_eq_true same)
    | cancelling found =>
      cases reports
  · obtain ⟨_, event, member, _⟩ :=
      DeliverySystem.executeInFlight_iff.mp inFlight
    rw [quiet.1] at member
    cases member
  · exact not_unread_of_quiet quiet data isUnread

/-- Where reports are delivered, no task is orphaned. -/
theorem noTaskOrphaned_of_deliversReports (host : DeliveryHost) :
    NoTaskOrphaned
      (Guarded (Fires (deliveryStep? host)) (DeliversReports host)) := by
  intro files final actions run _ quiet
  have sound : DeliverySound final := by
    apply run.preserves ?_ (deliverySound_started files)
    rintro before action after ⟨taken, reliable⟩ sound
    exact sound.step reliable taken
  constructor
  · intro taskId member idle
    exact (sound.coming taskId member).resolve_right
      (notPending_of_quiet quiet idle)
  · intro data member terminal
    exact (sound.reports data member terminal).resolve_right
      (not_unread_of_quiet quiet data)

/-! ### A task that is executed while the connection is kept, or lost -/

theorem quiet_iff
    {sys : DeliverySystem} :
    sys.quiet ↔
      (sys.down.isEmpty &&
        sys.links.all fun link =>
          link.closed || link.up.isEmpty) = true := by
  simp only [DeliverySystem.quiet, Bool.and_eq_true,
    List.isEmpty_iff, List.all_eq_true, Bool.or_eq_true]
  refine and_congr_right fun _ => ?_
  refine forall₂_congr fun link _ => ?_
  cases link.closed <;> simp

instance (sys : DeliverySystem) : Decidable sys.quiet :=
  decidable_of_iff' _ quiet_iff

instance (sys : DeliverySystem) : Decidable sys.connected := by
  unfold DeliverySystem.connected
  infer_instance

/-- A server with agent `a`. -/
def exampleHost : DeliveryHost where
  server := exampleServer
  agentId := "a"

/-- The agent connects, and task `t` is sent to it and launched. -/
def launchOnAgent : List DeliveryAction :=
  [.startOpening, .connect, .readEvent true, .receive 0 0 true 0,
    .serve (.createTask 0 exampleTaskRequest "" "t" 0),
    .serve (.resume 0 {}), .serve (.resume 0 {}), .readEvent true,
    .resumeExecutor 0 (.launched 7), .receive 0 0 true 1,
    .serve (.resume 0 {})]

def endConnected : List DeliveryAction :=
  [.resumeExecutor 0 (.exits 0), .receive 0 0 true 2]

/-- The process ends while the agent reconnects. -/
def endDisconnected : List DeliveryAction :=
  [.endReadLoop false, .resumeExecutor 0 (.exits 0), .resumeManager,
    .delayOver, .startOpening, .socketClosed, .connect,
    .readEvent true, .receive 1 0 true 3]

/-- A task whose process ends while the agent is connected is settled. -/
theorem connectedTask_settled :
    ∃ final,
      Run
        (Guarded (Fires (deliveryStep? exampleHost))
          (DeliversReports exampleHost))
        (.started fun _ => none) (launchOnAgent ++ endConnected) final ∧
        final.connected ∧
        final.quiet ∧
        "t" ∈ final.sent ∧
        final.settled "t" = true := by
  obtain ⟨final, checkedRun, reached⟩ :=
    exists_run_of_execute
      (show (execute
          (checked (deliveryStep? exampleHost) (DeliversReports exampleHost))
          (.started fun _ => none)
          (launchOnAgent ++ endConnected)).any
          (fun sys : DeliverySystem =>
            decide sys.connected && decide sys.quiet &&
              decide ("t" ∈ sys.sent) && !sys.executes "t") = true by
        decide)
  simp only [Bool.and_eq_true, decide_eq_true_eq, Bool.not_eq_true'] at reached
  obtain ⟨⟨⟨connected, quiet⟩, sent⟩, idle⟩ := reached
  have run := checkedRun.guarded_of_checked
  have settled :=
    noTaskOrphaned_of_deliversReports exampleHost run connected quiet
  exact ⟨final, run, connected, quiet, sent, settled.1 "t" sent idle⟩

/--
Without the condition a task is orphaned: its process ends while the agent has
no connection, and nothing is sent about it once the agent is back.
-/
theorem not_noTaskOrphaned :
    ¬ NoTaskOrphaned (Fires (deliveryStep? exampleHost)) := by
  intro claimed
  obtain ⟨final, run, reached⟩ :=
    exists_run_of_execute
      (show (execute (deliveryStep? exampleHost)
          (.started fun _ => none)
          (launchOnAgent ++ endDisconnected)).any
          (fun sys : DeliverySystem =>
            decide sys.connected && decide sys.quiet &&
              decide ("t" ∈ sys.sent) && !sys.executes "t" &&
                !sys.settled "t") = true by
        decide)
  simp only [Bool.and_eq_true, decide_eq_true_eq, Bool.not_eq_true'] at reached
  obtain ⟨⟨⟨⟨connected, quiet⟩, sent⟩, idle⟩, unsettled⟩ := reached
  have settled := (claimed run connected quiet).1 "t" sent idle
  rw [unsettled] at settled
  cases settled

end RpaPlatform.Tasks
