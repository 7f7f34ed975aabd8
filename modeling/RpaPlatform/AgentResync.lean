import RpaPlatform.AgentReconnect

namespace RpaPlatform.Agents

open ReconnectSystem Transition

/-!
# Resynchronisation on reconnect

The first heartbeat on a connection is a full one when the main loop has come
round between the reset of `init` and the server's greeting.  The manager does
not wait for that, and a connection that opens quickly starts with a
difference.
-/

/-- Every connection, and every reset, is followed by a full heartbeat. -/
structure Resynchronised (sys : ReconnectSystem) : Prop where
  links :
    ∀ {number : Nat} {link : Link},
      sys.links[number]? = some link →
      link.merged.head? ≠ some false
  resets : ∀ sync ∈ sys.firsts, sync = true

/-- In every run, the agent and the server resynchronise. -/
def Resynchronises
    (step : ReconnectSystem → ReconnectAction → ReconnectSystem → Prop) :
    Prop :=
  ∀ {final : ReconnectSystem} {actions : List ReconnectAction},
    Run step {} actions final →
    Resynchronised final

/--
The main loop has noticed that `init` was reset when the greeting sets it
again, and a timeout is not completed while a newer connection is registered.
-/
def NoticesReconnect (sys : ReconnectSystem) : ReconnectAction → Prop
  | .greet =>
    sys.init = false → sys.syncSentForCurrentConnection = false
  | .endTimeout => sys.activeAgent = none
  | _ => True

instance (sys : ReconnectSystem) (action : ReconnectAction) :
    Decidable (NoticesReconnect sys action) := by
  unfold NoticesReconnect
  split <;> infer_instance

/-- What the agent knows of its latest connection. -/
structure AgentInStep (sys : ReconnectSystem) : Prop where
  opening :
    sys.manager = .closing ∨ sys.manager = .opening → sys.init = false
  connected : sys.status = .connected ↔ sys.manager = .reading
  merged :
    ∀ {number : Nat} {link : Link},
      sys.links[number]? = some link →
      link.merged.head? ≠ some false
  sent :
    ∀ {number : Nat} {link : Link},
      sys.links[number]? = some link →
      link.closed = false →
      link.heartbeats.head? ≠ some false
  pending :
    ∀ {link : Link},
      sys.manager = .reading →
      sys.init = true →
      sys.links[sys.current]? = some link →
      link.closed = false →
      link.heartbeats = [] →
      sys.syncSentForCurrentConnection = false

/-- What the server knows of the connections it reads. -/
structure ServerInStep (sys : ReconnectSystem) : Prop where
  registered :
    ∀ {number : Nat} {link : Link},
      sys.links[number]? = some link →
      link.authenticated = true →
      link.closed = false →
      sys.activeAgent = some number
  unauthenticated :
    ∀ {number : Nat} {link : Link},
      sys.links[number]? = some link →
      link.authenticated = false →
      link.merged = []
  unmerged :
    ∀ {number : Nat} {link : Link},
      sys.fresh = true →
      sys.links[number]? = some link →
      link.closed = false →
      link.merged = []
  firsts : ∀ sync ∈ sys.firsts, sync = true

section Links

variable
    {sys : ReconnectSystem}
    {changed : Nat}
    {change : Link → Link}

theorem updateLink_cases
    {number : Nat}
    {link : Link}
    (isFound : (sys.updateLink changed change).links[number]? = some link) :
    number = changed ∧
        (∃ before, sys.links[number]? = some before ∧ link = change before) ∨
      number ≠ changed ∧ sys.links[number]? = some link := by
  unfold updateLink at isFound
  dsimp only at isFound
  rw [List.getElem?_modify] at isFound
  split at isFound
  · rename_i same
    left
    obtain ⟨before, wasFound, isChanged⟩ := Option.map_eq_some_iff.mp isFound
    exact ⟨same.symm, before, wasFound, isChanged.symm⟩
  · rename_i different
    right
    refine ⟨fun same => different same.symm, ?_⟩
    simpa using isFound

theorem updateLink_found
    {link : Link}
    (isFound : sys.links[changed]? = some link) :
    (sys.updateLink changed change).links[changed]? = some (change link) := by
  simp [updateLink, isFound]

theorem length_updateLink :
    (sys.updateLink changed change).links.length = sys.links.length := by
  simp [updateLink]

theorem current_updateLink :
    (sys.updateLink changed change).current = sys.current := by
  simp [updateLink, current]

theorem updateLink_updateLink (later : Link → Link) :
    (sys.updateLink changed change).updateLink changed later =
      sys.updateLink changed (later ∘ change) := by
  simp [updateLink, List.modify_modify_eq]

end Links

/-! ### Steps of the server -/

/-- What a step of the server leaves of a connection. -/
structure LinkKept (before after : Link) : Prop where
  heartbeats :
    after.closed = false →
    before.closed = false ∧ after.heartbeats = before.heartbeats
  merged :
    after.merged.head? = some false →
    before.merged.head? = some false ∨
      before.closed = false ∧ before.heartbeats.head? = some false

theorem LinkKept.of_closed
    {before after : Link}
    (closed : after.closed = true)
    (merged : after.merged = before.merged) :
    LinkKept before after where
  heartbeats := by
    intro isOpen
    rw [closed] at isOpen
    cases isOpen
  merged := by
    rw [merged]
    exact .inl

theorem LinkKept.of_same
    {before after : Link}
    (closed : after.closed = before.closed)
    (merged : after.merged = before.merged)
    (heartbeats : after.heartbeats = before.heartbeats) :
    LinkKept before after where
  heartbeats := by
    rw [closed]
    exact fun isOpen => ⟨isOpen, heartbeats⟩
  merged := by
    rw [merged]
    exact .inl

theorem LinkKept.trans
    {first second third : Link}
    (earlier : LinkKept first second)
    (later : LinkKept second third) :
    LinkKept first third where
  heartbeats := by
    intro isOpen
    obtain ⟨wasOpen, same⟩ := later.heartbeats isOpen
    obtain ⟨wasOpen, earlierSame⟩ := earlier.heartbeats wasOpen
    exact ⟨wasOpen, same.trans earlierSame⟩
  merged := by
    intro isDelta
    rcases later.merged isDelta with wasDelta | ⟨wasOpen, wasDelta⟩
    · exact earlier.merged wasDelta
    · obtain ⟨isOpen, same⟩ := earlier.heartbeats wasOpen
      rw [same] at wasDelta
      exact .inr ⟨isOpen, wasDelta⟩

/-- A step of the server leaves the agent as it is. -/
structure ServerStep (before after : ReconnectSystem) : Prop where
  status : after.status = before.status
  manager : after.manager = before.manager
  init : after.init = before.init
  syncSent :
    after.syncSentForCurrentConnection = before.syncSentForCurrentConnection
  length : after.links.length = before.links.length
  links :
    ∀ {number : Nat} {link : Link},
      after.links[number]? = some link →
      ∃ old, before.links[number]? = some old ∧ LinkKept old link

namespace ServerStep

variable {before middle after : ReconnectSystem}

theorem trans
    (first : ServerStep before middle)
    (second : ServerStep middle after) :
    ServerStep before after where
  status := second.status.trans first.status
  manager := second.manager.trans first.manager
  init := second.init.trans first.init
  syncSent := second.syncSent.trans first.syncSent
  length := second.length.trans first.length
  links := by
    intro number link isFound
    obtain ⟨found, wasFound, kept⟩ := second.links isFound
    obtain ⟨old, oldFound, earlierKept⟩ := first.links wasFound
    exact ⟨old, oldFound, earlierKept.trans kept⟩

theorem updateLink
    {changed : Nat}
    {change : Link → Link}
    (kept :
      ∀ {link : Link},
        before.links[changed]? = some link →
        LinkKept link (change link)) :
    ServerStep before (before.updateLink changed change) where
  status := rfl
  manager := rfl
  init := rfl
  syncSent := rfl
  length := length_updateLink
  links := by
    intro number link isFound
    rcases updateLink_cases isFound with
      ⟨rfl, old, wasFound, rfl⟩ | ⟨_, isFound⟩
    · exact ⟨old, wasFound, kept wasFound⟩
    · exact ⟨link, isFound, .of_same rfl rfl rfl⟩

theorem of_links
    (step : ServerStep before middle)
    (status : after.status = middle.status)
    (manager : after.manager = middle.manager)
    (init : after.init = middle.init)
    (syncSent :
      after.syncSentForCurrentConnection = middle.syncSentForCurrentConnection)
    (links : after.links = middle.links) :
    ServerStep before after where
  status := status.trans step.status
  manager := manager.trans step.manager
  init := init.trans step.init
  syncSent := syncSent.trans step.syncSent
  length := by
    rw [links]
    exact step.length
  links := by
    rw [links]
    exact step.links

theorem refl (sys : ReconnectSystem) : ServerStep sys sys where
  status := rfl
  manager := rfl
  init := rfl
  syncSent := rfl
  length := rfl
  links := by
    intro number link isFound
    exact ⟨link, isFound, .of_same rfl rfl rfl⟩

theorem closeLink (closed : Nat) :
    ServerStep before (before.closeLink closed) :=
  updateLink fun _ => .of_closed rfl rfl

theorem unregisterAgent (link : Nat) :
    ServerStep before (before.unregisterAgent link) := by
  unfold ReconnectSystem.unregisterAgent
  split
  · exact (refl before).of_links rfl rfl rfl rfl rfl
  · split
    · exact (refl before).of_links rfl rfl rfl rfl rfl
    · exact refl before

theorem registerAgent (link : Nat) :
    ServerStep before (before.registerAgent link) := by
  have authenticated :
      ServerStep before
        (before.updateLink link fun found =>
          { found with authenticated := true }) :=
    updateLink fun _ => .of_same rfl rfl rfl
  unfold ReconnectSystem.registerAgent
  dsimp only
  split
  · exact authenticated.of_links rfl rfl rfl rfl rfl
  · split
    · exact authenticated.of_links rfl rfl rfl rfl rfl
    · refine ServerStep.trans ?_ (closeLink _)
      exact authenticated.of_links rfl rfl rfl rfl rfl

variable {number : Nat}

theorem readHandshake
    {found : Link}
    {rest : List AgentMessage}
    (isFound : before.links[number]? = some found)
    (wire : found.wire = .handshake :: rest) :
    ServerStep before
      (before.updateLink number fun link => { link with wire := rest }) := by
  refine updateLink ?_
  intro link sameFound
  cases isFound.symm.trans sameFound
  refine .of_same rfl rfl ?_
  unfold Link.heartbeats
  rw [wire]
  rfl

theorem readHeartbeat
    {found : Link}
    {sync : Bool}
    {rest : List AgentMessage}
    (isFound : before.links[number]? = some found)
    (isOpen : found.closed = false)
    (wire : found.wire = .heartbeat sync :: rest) :
    ServerStep before
      ((before.updateLink number fun link =>
        { link with wire := rest }).mergeHeartbeat number sync) := by
  have merged :
      ServerStep before
        ((before.updateLink number fun link =>
          { link with wire := rest }).updateLink number fun link =>
            { link with merged := link.merged ++ [sync] }) := by
    rw [updateLink_updateLink]
    refine updateLink ?_
    intro link sameFound
    cases isFound.symm.trans sameFound
    have same :
        found.merged ++ [sync] ++ rest.filterMap AgentMessage.sync? =
          found.heartbeats := by
      unfold Link.heartbeats
      rw [wire, List.append_assoc]
      rfl
    constructor
    · intro _
      exact ⟨isOpen, same⟩
    · intro isDelta
      right
      refine ⟨isOpen, ?_⟩
      have isFirst : (found.merged ++ [sync]).head? = some false :=
        isDelta
      rw [← same, List.head?_append, isFirst]
      rfl
  exact merged.of_links rfl rfl rfl rfl rfl

theorem refuseHeartbeat
    (number : Nat)
    (rest : List AgentMessage) :
    ServerStep before
      ((before.updateLink number fun link =>
        { link with wire := rest }).closeLink number) := by
  unfold ReconnectSystem.closeLink
  rw [updateLink_updateLink]
  exact updateLink fun _ => .of_closed rfl rfl

theorem receive
    {accepted : Bool}
    (taken : before.receive? number accepted = some after) :
    ServerStep before after := by
  unfold ReconnectSystem.receive? at taken
  split at taken
  · cases taken
  · rename_i found isFound
    split at taken
    · cases taken
    · rename_i isOpen
      rw [Bool.not_eq_true] at isOpen
      split at taken
      · cases taken
      · rename_i message rest wire
        cases taken
        cases message with
        | handshake =>
          have read := readHandshake isFound wire
          dsimp only [ReconnectSystem.handle]
          split
          · exact read.trans (registerAgent number)
          · exact read.trans (closeLink number)
        | heartbeat sync =>
          dsimp only [ReconnectSystem.handle]
          split
          · exact readHeartbeat isFound isOpen wire
          · exact refuseHeartbeat number rest

theorem cleanupConnection
    (taken : before.cleanupConnection? number = some after) :
    ServerStep before after := by
  unfold ReconnectSystem.cleanupConnection? at taken
  split at taken
  · cases taken
  · split at taken
    · have cleaned :
          ServerStep before
            (before.updateLink number fun found =>
              { found with cleanedUp := true }) :=
        updateLink fun _ => .of_same rfl rfl rfl
      dsimp only at taken
      split at taken
      · cases taken
        exact cleaned.trans (unregisterAgent number)
      · cases taken
        exact cleaned
    · cases taken

end ServerStep

theorem AgentInStep.serverStep
    {before after : ReconnectSystem}
    (inStep : AgentInStep before)
    (step : ServerStep before after) :
    AgentInStep after where
  opening := by
    rw [step.manager, step.init]
    exact inStep.opening
  connected := by
    rw [step.status, step.manager]
    exact inStep.connected
  merged := by
    intro number link isFound isDelta
    obtain ⟨old, wasFound, kept⟩ := step.links isFound
    rcases kept.merged isDelta with wasDelta | ⟨wasOpen, wasDelta⟩
    · exact inStep.merged wasFound wasDelta
    · exact inStep.sent wasFound wasOpen wasDelta
  sent := by
    intro number link isFound isOpen
    obtain ⟨old, wasFound, kept⟩ := step.links isFound
    obtain ⟨wasOpen, same⟩ := kept.heartbeats isOpen
    rw [same]
    exact inStep.sent wasFound wasOpen
  pending := by
    intro link reading initialized isFound isOpen none
    rw [step.manager] at reading
    rw [step.init] at initialized
    rw [current, step.length] at isFound
    obtain ⟨old, wasFound, kept⟩ := step.links isFound
    obtain ⟨wasOpen, same⟩ := kept.heartbeats isOpen
    rw [same] at none
    rw [step.syncSent]
    exact inStep.pending reading initialized wasFound wasOpen none

/-! ### Steps of the agent -/

namespace AgentInStep

variable {sys : ReconnectSystem}

/-- The agent sends a heartbeat, a full one if it is the first. -/
theorem heartbeat
    (inStep : AgentInStep sys)
    (syncSent tracking : Bool)
    {sync : Bool}
    (first :
      ∀ {link : Link},
        sys.manager = .reading →
        sys.links[sys.current]? = some link →
        link.closed = false →
        link.heartbeats = [] →
        sync = true) :
    AgentInStep
      ({ sys with
        syncSentForCurrentConnection := syncSent
        windowTrackingEnabled := tracking }.heartbeat sync) := by
  unfold ReconnectSystem.heartbeat sendEvent
  by_cases connected : sys.status = .connected
  · have reading := inStep.connected.mp connected
    have appended :
        ∀ {link : Link},
          Link.heartbeats
              { link with wire := link.wire ++ [.heartbeat sync] } =
            link.heartbeats ++ [sync] := by
      intro link
      simp [Link.heartbeats, AgentMessage.sync?]
    dsimp only
    rw [if_pos connected]
    constructor
    · exact inStep.opening
    · exact inStep.connected
    · intro number link isFound
      rcases updateLink_cases isFound with
        ⟨rfl, old, wasFound, rfl⟩ | ⟨_, isFound⟩
      · show old.merged.head? ≠ some false
        exact inStep.merged wasFound
      · exact inStep.merged isFound
    · intro number link isFound isOpen
      rcases updateLink_cases isFound with
        ⟨rfl, old, wasFound, rfl⟩ | ⟨_, isFound⟩
      · rw [appended]
        cases sent : old.heartbeats with
        | nil =>
          rw [first reading wasFound isOpen sent]
          simp
        | cons earlier rest =>
          have earlierSent := inStep.sent wasFound isOpen
          rw [sent] at earlierSent
          exact earlierSent
      · exact inStep.sent isFound isOpen
    · intro link _ _ isFound isOpen none
      rw [current_updateLink] at isFound
      rcases updateLink_cases isFound with
        ⟨_, old, wasFound, rfl⟩ | ⟨different, _⟩
      · rw [appended] at none
        simp at none
      · exact absurd rfl different
  · dsimp only
    rw [if_neg connected]
    constructor
    · exact inStep.opening
    · exact inStep.connected
    · exact inStep.merged
    · exact inStep.sent
    · intro link reading
      exact absurd (inStep.connected.mpr reading) connected

theorem mainLoop_of_init (initialized : sys.init = true) :
    sys.mainLoop =
      { sys with
        syncSentForCurrentConnection := true
        windowTrackingEnabled := sys.windowTrackingEnabled }.heartbeat
          (!sys.syncSentForCurrentConnection) := by
  obtain ⟨status, manager, hasSocket, init, sent⟩ := sys
  subst initialized
  cases sent <;> rfl

theorem mainLoop (inStep : AgentInStep sys) :
    AgentInStep sys.mainLoop := by
  by_cases initialized : sys.init = true
  · rw [mainLoop_of_init initialized]
    apply inStep.heartbeat true sys.windowTrackingEnabled
    intro link reading isFound isOpen none
    rw [inStep.pending reading initialized isFound isOpen none]
    rfl
  · unfold ReconnectSystem.mainLoop
    rw [if_neg initialized]
    exact
      { opening := inStep.opening
        connected := inStep.connected
        merged := inStep.merged
        sent := inStep.sent
        pending := fun _ isInit => absurd isInit initialized }

section Keeping

variable
    (inStep : AgentInStep sys)
include inStep

theorem setWindowTracking
    (enabled refreshed : Bool) :
    AgentInStep (sys.setWindowTracking enabled refreshed) := by
  unfold ReconnectSystem.setWindowTracking
  split
  · exact inStep
  · dsimp only
    split
    · exact inStep.heartbeat sys.syncSentForCurrentConnection enabled
        fun _ _ _ _ => rfl
    · exact
        { opening := inStep.opening
          connected := inStep.connected
          merged := inStep.merged
          sent := inStep.sent
          pending := inStep.pending }

theorem greet
    (reading : sys.manager = .reading)
    (noticed : sys.init = false → sys.syncSentForCurrentConnection = false) :
    AgentInStep sys.greet := by
  have greeted :
      AgentInStep
        (sys.updateLink sys.current fun link =>
          { link with greeting := false }) :=
    inStep.serverStep (.updateLink fun _ => .of_same rfl rfl rfl)
  unfold ReconnectSystem.greet
  dsimp only
  split
  · exact greeted
  · rename_i uninitialized
    have unsent := noticed (Bool.eq_false_iff.mpr uninitialized)
    have initialized :
        AgentInStep
          { sys.updateLink sys.current fun link =>
              { link with greeting := false } with
            init := true } := by
      constructor
      · intro opening
        have isReading :
            sys.manager = .closing ∨ sys.manager = .opening := opening
        rw [reading] at isReading
        rcases isReading with isClosing | isOpening
        · cases isClosing
        · cases isOpening
      · exact greeted.connected
      · exact greeted.merged
      · exact greeted.sent
      · intro link _ _ _ _ _
        exact unsent
    unfold sendEvent
    split
    · refine initialized.serverStep (.updateLink ?_)
      intro link _
      refine .of_same rfl rfl ?_
      simp [Link.heartbeats, AgentMessage.sync?]
    · exact initialized

theorem between
    {after : ReconnectSystem}
    (links : after.links = sys.links)
    (notConnected : after.status ≠ .connected)
    (notReading : after.manager ≠ .reading)
    (opening :
      after.manager = .closing ∨ after.manager = .opening →
        after.init = false) :
    AgentInStep after where
  opening := opening
  connected :=
    ⟨fun connected => absurd connected notConnected,
      fun reading => absurd reading notReading⟩
  merged := by
    rw [links]
    exact inStep.merged
  sent := by
    rw [links]
    exact inStep.sent
  pending := fun reading => absurd reading notReading

theorem startOpening
    (top : sys.manager = .top) :
    AgentInStep sys.startOpening := by
  have notConnected : sys.status ≠ .connected := by
    rw [Ne, inStep.connected, top]
    decide
  unfold ReconnectSystem.startOpening
  dsimp only
  rw [if_neg notConnected]
  split
  · exact inStep.between rfl notConnected (by simp) fun _ => rfl
  · exact inStep.between rfl (by simp) (by simp) fun _ => rfl

theorem connect
    (isOpening : sys.manager = .opening) :
    AgentInStep
      { sys with
        hasSocket := true
        status := .connected
        manager := .reading
        links := sys.links ++ [{}] } := by
  have earlier :
      ∀ {number : Nat} {link : Link},
        (sys.links ++ [({} : Link)])[number]? = some link →
        sys.links[number]? = some link ∨ link = {} := by
    intro number link isFound
    rw [List.getElem?_append] at isFound
    split at isFound
    · exact .inl isFound
    · right
      rw [List.getElem?_singleton] at isFound
      split at isFound
      · exact (Option.some.inj isFound).symm
      · cases isFound
  constructor
  · intro opening
    rcases opening with closing | opening
    · cases closing
    · cases opening
  · exact ⟨fun _ => rfl, fun _ => rfl⟩
  · intro number link isFound
    rcases earlier isFound with isFound | rfl
    · exact inStep.merged isFound
    · simp
  · intro number link isFound isOpen
    rcases earlier isFound with isFound | rfl
    · exact inStep.sent isFound isOpen
    · simp [Link.heartbeats]
  · intro link _ initialized
    have uninitialized := inStep.opening (.inr isOpening)
    rw [show sys.init = true from initialized] at uninitialized
    cases uninitialized

theorem resumeManager
    (ended : sys.manager = .ended) :
    AgentInStep sys.resumeManager := by
  have notConnected : sys.status ≠ .connected := by
    rw [Ne, inStep.connected, ended]
    decide
  unfold ReconnectSystem.resumeManager
  split
  · exact inStep.between rfl notConnected (by simp) (by simp)
  · rename_i connected
    exact absurd connected notConnected
  · exact inStep.between rfl (by simp) (by simp) (by simp)

/-- A step keeps the agent in step with its connection. -/
theorem step
    {action : ReconnectAction}
    {after : ReconnectSystem}
    (taken : reconnectStep? sys action = some after)
    (notices : NoticesReconnect sys action) :
    AgentInStep after := by
  unfold reconnectStep? at taken
  cases action with
  | mainLoop =>
    dsimp only at taken
    split at taken
    · cases taken
    · cases taken
      exact inStep.mainLoop
  | startOpening =>
    dsimp only at taken
    split at taken
    · rename_i top
      cases taken
      exact inStep.startOpening top
    · cases taken
  | socketClosed =>
    dsimp only at taken
    split at taken
    · rename_i closing
      cases taken
      exact inStep.between rfl (by simp) (by simp)
        fun _ => inStep.opening (.inl closing)
    · cases taken
  | connect =>
    dsimp only at taken
    split at taken
    · rename_i isOpening
      cases taken
      exact inStep.connect isOpening
    · cases taken
  | openFails =>
    dsimp only at taken
    split at taken
    · cases taken
      exact inStep.between rfl (by simp) (by simp) (by simp)
    · cases taken
  | greet =>
    dsimp only at taken
    split at taken
    · cases taken
    · split at taken
      · rename_i greeted
        cases taken
        exact inStep.greet greeted.1 notices
      · cases taken
  | setWindowTracking enabled refreshed =>
    dsimp only at taken
    split at taken
    · cases taken
      exact inStep.setWindowTracking enabled refreshed
    · cases taken
  | endReadLoop fatal =>
    dsimp only at taken
    split at taken
    · cases taken
      refine inStep.between rfl ?_ (by simp) (by simp)
      cases fatal <;> simp
    · cases taken
  | resumeManager =>
    dsimp only at taken
    split at taken
    · rename_i ended
      cases taken
      exact inStep.resumeManager ended
    · cases taken
  | delayOver =>
    dsimp only at taken
    split at taken
    · rename_i delaying
      cases taken
      have notConnected : sys.status ≠ .connected := by
        rw [Ne, inStep.connected, delaying]
        decide
      exact inStep.between rfl notConnected (by simp) (by simp)
    · cases taken
  | restart =>
    cases taken
    exact inStep.between rfl (by simp) (by simp) (by simp)
  | receive link accepted =>
    exact inStep.serverStep (.receive taken)
  | closeSession link =>
    cases taken
    exact inStep.serverStep (.closeLink link)
  | cleanupConnection link =>
    exact inStep.serverStep (.cleanupConnection taken)
  | sendFails =>
    obtain ⟨link, _, rfl⟩ := Option.map_eq_some_iff.mp taken
    exact inStep.serverStep
      ((ServerStep.closeLink link).trans (.unregisterAgent link))
  | startTimeout =>
    obtain ⟨link, _, rfl⟩ := Option.map_eq_some_iff.mp taken
    exact inStep.serverStep
      ((ServerStep.closeLink link).of_links rfl rfl rfl rfl rfl)
  | endTimeout =>
    dsimp only at taken
    split at taken
    · cases taken
    · cases taken
      exact inStep.serverStep
        ((ServerStep.refl sys).of_links rfl rfl rfl rfl rfl)

end Keeping

end AgentInStep

/-! ### What the server merges -/

namespace ServerInStep

variable {before after : ReconnectSystem}

section Resyncing

variable
    (inStep : ServerInStep before)
include inStep

theorem weaken
    (activeAgent : after.activeAgent = before.activeAgent)
    (fresh : after.fresh = before.fresh)
    (firsts : after.firsts = before.firsts)
    (links :
      ∀ {number : Nat} {link : Link},
        after.links[number]? = some link →
        link = {} ∨
          ∃ old,
            before.links[number]? = some old ∧
              link.authenticated = old.authenticated ∧
              link.merged = old.merged ∧
              (link.closed = false → old.closed = false)) :
    ServerInStep after where
  registered := by
    intro number link isFound authenticated isOpen
    rw [activeAgent]
    rcases links isFound with rfl | ⟨old, wasFound, same, _, wasOpen⟩
    · cases authenticated
    · rw [same] at authenticated
      exact inStep.registered wasFound authenticated (wasOpen isOpen)
  unauthenticated := by
    intro number link isFound unauthenticated
    rcases links isFound with rfl | ⟨old, wasFound, same, merged, _⟩
    · rfl
    · rw [same] at unauthenticated
      rw [merged]
      exact inStep.unauthenticated wasFound unauthenticated
  unmerged := by
    intro number link isFresh isFound isOpen
    rw [fresh] at isFresh
    rcases links isFound with rfl | ⟨old, wasFound, _, merged, wasOpen⟩
    · rfl
    · rw [merged]
      exact inStep.unmerged isFresh wasFound (wasOpen isOpen)
  firsts := by
    rw [firsts]
    exact inStep.firsts

theorem updateLink
    (changed : Nat)
    {change : Link → Link}
    (authenticated : ∀ link, (change link).authenticated = link.authenticated)
    (merged : ∀ link, (change link).merged = link.merged)
    (closed : ∀ link, (change link).closed = false → link.closed = false) :
    ServerInStep (before.updateLink changed change) := by
  refine inStep.weaken rfl rfl rfl ?_
  intro number link isFound
  right
  rcases updateLink_cases isFound with
    ⟨rfl, old, wasFound, rfl⟩ | ⟨_, isFound⟩
  · exact ⟨old, wasFound, authenticated old, merged old, closed old⟩
  · exact ⟨link, isFound, rfl, rfl, id⟩

theorem closeLink
    (link : Nat) :
    ServerInStep (before.closeLink link) :=
  inStep.updateLink link (fun _ => rfl) (fun _ => rfl) nofun

theorem reset
    (unregistered :
      ∀ {number : Nat} {link : Link},
        before.activeAgent = some number →
        before.links[number]? = some link →
        link.closed = true)
    (links : after.links = before.links)
    (firsts : after.firsts = before.firsts) :
    ServerInStep after := by
  have unread :
      ∀ {number : Nat} {link : Link},
        before.links[number]? = some link →
        link.closed = false →
        link.authenticated = false := by
    intro number link isFound isOpen
    rw [← Bool.not_eq_true]
    intro authenticated
    have active := inStep.registered isFound authenticated isOpen
    rw [unregistered active isFound] at isOpen
    cases isOpen
  constructor
  · intro number link isFound authenticated isOpen
    rw [links] at isFound
    rw [unread isFound isOpen] at authenticated
    cases authenticated
  · rw [links]
    exact inStep.unauthenticated
  · intro number link _ isFound isOpen
    rw [links] at isFound
    exact inStep.unauthenticated isFound (unread isFound isOpen)
  · rw [firsts]
    exact inStep.firsts

theorem unregisterAgent
    {closed : Nat}
    (isClosed :
      ∀ {link : Link}, before.links[closed]? = some link → link.closed = true) :
    ServerInStep (before.unregisterAgent closed) := by
  unfold ReconnectSystem.unregisterAgent
  split
  · rename_i unregistered
    refine inStep.reset ?_ rfl rfl
    intro number link active
    rw [unregistered] at active
    cases active
  · rename_i active isActive
    split
    · rename_i same
      subst active
      refine inStep.reset ?_ rfl rfl
      intro number link registered isFound
      cases isActive.symm.trans registered
      exact isClosed isFound
    · exact inStep

/-- The connection registered before is closed. -/
theorem registerAgent
    (link : Nat) :
    ServerInStep (before.registerAgent link) := by
  let authenticated :=
    before.updateLink link fun found => { found with authenticated := true }
  have readers :
      ∀ {number : Nat} {found : Link},
        authenticated.links[number]? = some found →
        found.authenticated = true →
        found.closed = false →
        number = link ∨ before.activeAgent = some number := by
    intro number found isFound isAuthenticated isOpen
    rcases updateLink_cases isFound with
      ⟨same, _, _, _⟩ | ⟨_, isFound⟩
    · exact .inl same
    · exact .inr (inStep.registered isFound isAuthenticated isOpen)
  have unauthenticated :
      ∀ {number : Nat} {found : Link},
        authenticated.links[number]? = some found →
        found.authenticated = false →
        found.merged = [] := by
    intro number found isFound isUnauthenticated
    rcases updateLink_cases isFound with
      ⟨_, old, _, rfl⟩ | ⟨_, isFound⟩
    · cases isUnauthenticated
    · exact inStep.unauthenticated isFound isUnauthenticated
  have unmerged :
      ∀ {number : Nat} {found : Link},
        before.fresh = true →
        authenticated.links[number]? = some found →
        found.closed = false →
        found.merged = [] := by
    intro number found isFresh isFound isOpen
    rcases updateLink_cases isFound with
      ⟨_, old, wasFound, rfl⟩ | ⟨_, isFound⟩
    · show old.merged = []
      exact inStep.unmerged isFresh wasFound isOpen
    · exact inStep.unmerged isFresh isFound isOpen
  have alone :
      (∀ {number : Nat}, before.activeAgent = some number → number = link) →
      ServerInStep { authenticated with activeAgent := some link } := by
    intro noOther
    refine ⟨?_, unauthenticated, unmerged, inStep.firsts⟩
    intro number found isFound isAuthenticated isOpen
    rcases readers isFound isAuthenticated isOpen with rfl | active
    · rfl
    · rw [noOther active]
  unfold ReconnectSystem.registerAgent
  dsimp only
  split
  · rename_i unregistered
    apply alone
    intro number active
    rw [unregistered] at active
    cases active
  · rename_i previous isActive
    split
    · rename_i same
      apply alone
      intro number active
      cases isActive.symm.trans active
      exact same
    · constructor
      · intro number found isFound isAuthenticated isOpen
        rcases updateLink_cases isFound with
          ⟨_, old, _, rfl⟩ | ⟨different, isFound⟩
        · cases isOpen
        · rcases readers isFound isAuthenticated isOpen with rfl | active
          · rfl
          · cases isActive.symm.trans active
            exact absurd rfl different
      · intro number found isFound isUnauthenticated
        rcases updateLink_cases isFound with
          ⟨_, old, wasFound, rfl⟩ | ⟨_, isFound⟩
        · show old.merged = []
          exact unauthenticated wasFound isUnauthenticated
        · exact unauthenticated isFound isUnauthenticated
      · intro number found isFresh isFound isOpen
        rcases updateLink_cases isFound with
          ⟨_, old, _, rfl⟩ | ⟨_, isFound⟩
        · cases isOpen
        · exact unmerged isFresh isFound isOpen
      · exact inStep.firsts

end Resyncing

variable {number : Nat}

theorem mergeHeartbeat
    (inStep : ServerInStep before)
    {found : Link}
    {sync : Bool}
    (isFound : before.links[number]? = some found)
    (authenticated : found.authenticated = true)
    (full : before.fresh = true → sync = true) :
    ServerInStep (before.mergeHeartbeat number sync) := by
  unfold ReconnectSystem.mergeHeartbeat
  constructor
  · intro other link isLink isAuthenticated isOpen
    rcases updateLink_cases isLink with
      ⟨rfl, old, wasFound, rfl⟩ | ⟨_, wasFound⟩
    · exact inStep.registered wasFound isAuthenticated isOpen
    · exact inStep.registered wasFound isAuthenticated isOpen
  · intro other link isLink isUnauthenticated
    rcases updateLink_cases isLink with
      ⟨rfl, old, wasFound, rfl⟩ | ⟨_, wasFound⟩
    · cases isFound.symm.trans wasFound
      have isFalse : found.authenticated = false := isUnauthenticated
      rw [authenticated] at isFalse
      cases isFalse
    · exact inStep.unauthenticated wasFound isUnauthenticated
  · intro other link isFresh
    cases isFresh
  · dsimp only
    split
    · rename_i isFresh
      intro first member
      rcases List.mem_append.mp member with member | member
      · exact inStep.firsts first member
      · rw [List.mem_singleton.mp member]
        exact full isFresh
    · exact inStep.firsts

theorem receive
    (inStep : ServerInStep before)
    (agent : AgentInStep before)
    {accepted : Bool}
    (taken : before.receive? number accepted = some after) :
    ServerInStep after := by
  unfold ReconnectSystem.receive? at taken
  split at taken
  · cases taken
  · rename_i found isFound
    split at taken
    · cases taken
    · rename_i isOpen
      rw [Bool.not_eq_true] at isOpen
      split at taken
      · cases taken
      · rename_i message rest wire
        cases taken
        have read :
            ServerInStep
              (before.updateLink number fun link =>
                { link with wire := rest }) :=
          inStep.updateLink number (fun _ => rfl) (fun _ => rfl) fun _ => id
        cases message with
        | handshake =>
          dsimp only [ReconnectSystem.handle]
          split
          · exact read.registerAgent number
          · exact read.closeLink number
        | heartbeat sync =>
          dsimp only [ReconnectSystem.handle]
          split
          · rename_i authenticated
            refine read.mergeHeartbeat (updateLink_found isFound)
              authenticated ?_
            intro isFresh
            have unmerged := inStep.unmerged isFresh isFound isOpen
            have sent := agent.sent isFound isOpen
            unfold Link.heartbeats at sent
            rw [unmerged, wire] at sent
            simpa [AgentMessage.sync?] using sent
          · exact read.closeLink number

theorem cleanupConnection
    (inStep : ServerInStep before)
    (taken : before.cleanupConnection? number = some after) :
    ServerInStep after := by
  unfold ReconnectSystem.cleanupConnection? at taken
  split at taken
  · cases taken
  · rename_i found isFound
    split at taken
    · rename_i closed
      rw [Bool.and_eq_true] at closed
      have cleaned :
          ServerInStep
            (before.updateLink number fun link =>
              { link with cleanedUp := true }) :=
        inStep.updateLink number (fun _ => rfl) (fun _ => rfl) fun _ => id
      dsimp only at taken
      split at taken
      · cases taken
        apply cleaned.unregisterAgent
        intro link isLink
        rcases updateLink_cases isLink with
          ⟨_, old, wasFound, rfl⟩ | ⟨different, _⟩
        · cases isFound.symm.trans wasFound
          exact closed.1
        · exact absurd rfl different
      · cases taken
        exact cleaned
    · cases taken

theorem sendEvent
    (inStep : ServerInStep before)
    (message : AgentMessage) :
    ServerInStep (before.sendEvent message) := by
  unfold ReconnectSystem.sendEvent
  split
  · exact inStep.updateLink _ (fun _ => rfl) (fun _ => rfl) fun _ => id
  · exact inStep

theorem of_links
    (inStep : ServerInStep before)
    (activeAgent : after.activeAgent = before.activeAgent)
    (fresh : after.fresh = before.fresh)
    (firsts : after.firsts = before.firsts)
    (links : after.links = before.links) :
    ServerInStep after := by
  refine inStep.weaken activeAgent fresh firsts ?_
  intro number link isFound
  rw [links] at isFound
  exact .inr ⟨link, isFound, rfl, rfl, id⟩

theorem mainLoop (inStep : ServerInStep before) :
    ServerInStep before.mainLoop := by
  unfold ReconnectSystem.mainLoop consumePendingSync
  split
  · apply sendEvent
    split
    · exact inStep.of_links rfl rfl rfl rfl
    · exact inStep
  · exact inStep.of_links rfl rfl rfl rfl

theorem setWindowTracking
    (inStep : ServerInStep before)
    (enabled refreshed : Bool) :
    ServerInStep (before.setWindowTracking enabled refreshed) := by
  unfold ReconnectSystem.setWindowTracking
  split
  · exact inStep
  · dsimp only
    split
    · apply sendEvent
      exact inStep.of_links rfl rfl rfl rfl
    · exact inStep.of_links rfl rfl rfl rfl

theorem greet (inStep : ServerInStep before) :
    ServerInStep before.greet := by
  have greeted :
      ServerInStep
        (before.updateLink before.current fun link =>
          { link with greeting := false }) :=
    inStep.updateLink _ (fun _ => rfl) (fun _ => rfl) fun _ => id
  unfold ReconnectSystem.greet
  dsimp only
  split
  · exact greeted
  · apply sendEvent
    exact greeted.of_links rfl rfl rfl rfl

theorem startOpening (inStep : ServerInStep before) :
    ServerInStep before.startOpening := by
  unfold ReconnectSystem.startOpening
  dsimp only
  split
  · split <;> exact inStep.of_links rfl rfl rfl rfl
  · exact inStep.of_links rfl rfl rfl rfl

theorem resumeManager (inStep : ServerInStep before) :
    ServerInStep before.resumeManager := by
  unfold ReconnectSystem.resumeManager
  split <;> exact inStep.of_links rfl rfl rfl rfl

/-- A step keeps the server in step with the connections it reads. -/
theorem step
    (inStep : ServerInStep before)
    (agent : AgentInStep before)
    {action : ReconnectAction}
    (taken : reconnectStep? before action = some after)
    (notices : NoticesReconnect before action) :
    ServerInStep after := by
  unfold reconnectStep? at taken
  cases action with
  | mainLoop =>
    dsimp only at taken
    split at taken
    · cases taken
    · cases taken
      exact inStep.mainLoop
  | startOpening =>
    dsimp only at taken
    split at taken
    · cases taken
      exact inStep.startOpening
    · cases taken
  | socketClosed | openFails | endReadLoop fatal | delayOver =>
    dsimp only at taken
    split at taken
    · cases taken
      exact inStep.of_links rfl rfl rfl rfl
    · cases taken
  | connect =>
    dsimp only at taken
    split at taken
    · cases taken
      refine inStep.weaken rfl rfl rfl ?_
      intro number link isFound
      rw [List.getElem?_append] at isFound
      split at isFound
      · exact .inr ⟨link, isFound, rfl, rfl, id⟩
      · left
        rw [List.getElem?_singleton] at isFound
        split at isFound
        · exact (Option.some.inj isFound).symm
        · cases isFound
    · cases taken
  | greet =>
    dsimp only at taken
    split at taken
    · cases taken
    · split at taken
      · cases taken
        exact inStep.greet
      · cases taken
  | setWindowTracking enabled refreshed =>
    dsimp only at taken
    split at taken
    · cases taken
      exact inStep.setWindowTracking enabled refreshed
    · cases taken
  | resumeManager =>
    dsimp only at taken
    split at taken
    · cases taken
      exact inStep.resumeManager
    · cases taken
  | restart =>
    cases taken
    exact inStep.of_links rfl rfl rfl rfl
  | receive link accepted =>
    exact inStep.receive agent taken
  | closeSession link =>
    cases taken
    exact inStep.closeLink link
  | cleanupConnection link =>
    exact inStep.cleanupConnection taken
  | sendFails =>
    obtain ⟨link, _, rfl⟩ := Option.map_eq_some_iff.mp taken
    apply (inStep.closeLink link).unregisterAgent
    intro found isFound
    rcases updateLink_cases isFound with
      ⟨_, old, _, rfl⟩ | ⟨different, _⟩
    · rfl
    · exact absurd rfl different
  | startTimeout =>
    obtain ⟨link, isActive, rfl⟩ := Option.map_eq_some_iff.mp taken
    have closed := inStep.closeLink link
    refine ⟨?_, closed.unauthenticated, closed.unmerged, closed.firsts⟩
    intro number found isFound authenticated isOpen
    have active := closed.registered isFound authenticated isOpen
    cases isActive.symm.trans active
    rcases updateLink_cases isFound with
      ⟨_, old, _, rfl⟩ | ⟨different, _⟩
    · cases isOpen
    · exact absurd rfl different
  | endTimeout =>
    dsimp only at taken
    split at taken
    · cases taken
    · cases taken
      refine inStep.reset ?_ rfl rfl
      intro number link isActive
      rw [show before.activeAgent = none from notices] at isActive
      cases isActive

end ServerInStep

/-! ### Runs -/

theorem agentInStep_started : AgentInStep {} where
  opening := fun _ => rfl
  connected := by decide
  merged := nofun
  sent := nofun
  pending := nofun

theorem serverInStep_started : ServerInStep {} where
  registered := nofun
  unauthenticated := nofun
  unmerged := nofun
  firsts := nofun

/-- The agent resynchronises whenever its main loop notices a reconnect. -/
theorem resynchronises_of_noticesReconnect
    {final : ReconnectSystem}
    {actions : List ReconnectAction}
    (run :
      Run (Guarded (Fires reconnectStep?) NoticesReconnect) {} actions final) :
    Resynchronised final := by
  let inStep : ReconnectSystem → Prop :=
    fun sys => AgentInStep sys ∧ ServerInStep sys
  have start : inStep {} := ⟨agentInStep_started, serverInStep_started⟩
  have kept : inStep final := by
    refine run.preserves ?_ start
    rintro before action after ⟨taken, notices⟩ ⟨agent, server⟩
    exact ⟨agent.step taken notices, server.step agent taken notices⟩
  exact ⟨kept.1.merged, kept.2.firsts⟩

/-! ### A quick reconnect -/

def firstConnection : List ReconnectAction :=
  [.startOpening, .connect, .mainLoop, .greet, .mainLoop, .mainLoop,
    .receive 0 true, .receive 0 true]

def connectionLost : List ReconnectAction :=
  [.endReadLoop false, .resumeManager, .closeSession 0,
    .cleanupConnection 0, .mainLoop, .delayOver]

def quickReconnect : List ReconnectAction :=
  [.startOpening, .socketClosed, .connect, .greet, .mainLoop,
    .receive 1 true, .receive 1 true]

/-- The agent reconnects, and its main loop comes round in between. -/
def slowReconnect : List ReconnectAction :=
  [.startOpening, .socketClosed, .mainLoop, .connect, .greet, .mainLoop,
    .receive 1 true, .receive 1 true]

/-- After a slow reconnect, the server is sent everything anew. -/
theorem slowReconnect_resynchronised :
    ∃ final,
      Run (Guarded (Fires reconnectStep?) NoticesReconnect) {}
          (firstConnection ++ connectionLost ++ slowReconnect) final ∧
        final.firsts.length = 2 ∧ Resynchronised final := by
  obtain ⟨final, run, reached⟩ :=
    exists_run_of_execute
      (show
        (execute (checked reconnectStep? NoticesReconnect) {}
            (firstConnection ++ connectionLost ++ slowReconnect)).any
          (fun sys => decide (sys.firsts.length = 2)) =
        true by decide)
  have guarded := run.guarded_of_checked
  exact ⟨final, guarded, of_decide_eq_true reached,
    resynchronises_of_noticesReconnect guarded⟩

/-- After a quick reconnect, the server merges a difference first. -/
theorem not_resynchronises :
    ¬ Resynchronises (Fires reconnectStep?) := by
  intro resynchronises
  obtain ⟨final, run, reached⟩ :=
    exists_run_of_execute
      (show
        (execute reconnectStep? {}
            (firstConnection ++ connectionLost ++ quickReconnect)).any
          (fun sys => decide (sys.firsts = [true, false])) =
        true by decide)
  have full := (resynchronises run).resets false
  rw [of_decide_eq_true reached] at full
  have isFull : false = true := full (by simp)
  cases isFull

end RpaPlatform.Agents
