import RpaPlatform.ClientSessions
import RpaPlatform.ProvisioningRuns
import RpaPlatform.RecordingHints

namespace RpaPlatform.Agents

open Tasks (Json)
open FindOrCreate (Inventory Item)

/-!
# The connection of a client session

A request that matches a session on the machine is meant for the connection of
that session's user.  The connection is looked up once more, after the
candidates of the agent's mapping, and the first candidate that names a
connection of the group decides.
-/

/-! ### The first that is named -/

section Named

variable
    (library : TextLibrary)
    (group : String)

/-- A candidate is the identifier or the name of a connection in a group;
without a group, of any connection. -/
def Names
    (candidate : String)
    (item : Item Identifier StoredConnection) : Prop :=
  (group = "" ∨
      cleanField library item.body.fields "parentIdentifier" = group) ∧
    (candidate = library.casefold item.identifier.val ∨
      candidate = library.casefold (cleanField library item.body.fields "name"))

instance
    (candidate : String)
    (item : Item Identifier StoredConnection) :
    Decidable (Names library group candidate item) :=
  inferInstanceAs (Decidable (_ ∧ _))

/--
The first candidate that names any connection of the group names this one, and
none that is listed before it.
-/
def FirstNamed
    (candidates : List String)
    (connections : Inventory Identifier StoredConnection)
    (item : Item Identifier StoredConnection) : Prop :=
  ∃ earlier candidate later,
    candidates = earlier ++ candidate :: later ∧
      (∀ other ∈ connections.rows, ∀ text ∈ earlier,
        ¬ Names library group text other) ∧
      ∃ before after,
        connections.rows = before ++ item :: after ∧
          Names library group candidate item ∧
          ∀ other ∈ before, ¬ Names library group candidate other

end Named

section Lookups

variable
    {library : TextLibrary}
    {group : String}
    {connections : Inventory Identifier StoredConnection}

/-- Connections that are looked up in a group, and not written. -/
def lookupKind (group : String) :
    UpsertKind StoredConnection StoredConnection where
  kind := .connections
  fieldsOf := StoredConnection.fields
  parentIdentifier := group
  blank := {}
  payload := fun _ _ existing => existing
  payloadMatches := fun _ _ => true
  stored := id
  reportedName := fun name _ => name

theorem inParent_lookupKind (item : Item Identifier StoredConnection) :
    (lookupKind group).inParent library item = true ↔
      group = "" ∨
        cleanField library item.body.fields "parentIdentifier" = group := by
  unfold UpsertKind.inParent
  rw [Bool.or_eq_true, decide_eq_true_iff, decide_eq_true_iff]
  rfl

/-- A connection as it is listed. -/
def listedConnection
    (library : TextLibrary)
    (item : Item Identifier StoredConnection) : ListedItem where
  values :=
    [library.casefold item.identifier.val,
      library.casefold (cleanField library item.body.fields "name"),
      library.casefold item.identifier.val]
  identifier := item.identifier.val
  name := cleanField library item.body.fields "name"

theorem listedItem?_connection (item : Item Identifier StoredConnection) :
    listedItem? library group
        (item.identifier.val,
          .obj
            (Dictionary.set "identifier" (.str item.identifier.val)
              item.body.fields)) =
      if group = "" ∨
          cleanField library item.body.fields "parentIdentifier" = group
      then
        some (listedConnection library item)
      else
        none := by
  have listed :=
    @UpsertKind.listedItem?_listing library _ _ (lookupKind group) item
  refine Eq.trans listed ?_
  simp only [inParent_lookupKind]
  rfl

theorem mem_values_listedConnection
    (candidate : String)
    (item : Item Identifier StoredConnection) :
    candidate ∈ (listedConnection library item).values ↔
      candidate = library.casefold item.identifier.val ∨
        candidate =
          library.casefold (cleanField library item.body.fields "name") := by
  simp only [listedConnection, List.mem_cons, List.not_mem_nil, or_false]
  tauto

theorem find?_listed (candidate : String) :
    ((listing StoredConnection.fields connections).filterMap
        (listedItem? library group)).find?
        (fun item => decide (candidate ∈ item.values)) =
      (connections.rows.find? fun item =>
        decide (Names library group candidate item)).map
        (listedConnection library) := by
  unfold listing
  rw [List.filterMap_map]
  refine UpsertKind.find?_filterMap_shown listedItem?_connection
    (fun item => ?_) _
  rw [decide_eq_true_iff, decide_eq_true_iff, mem_values_listedConnection]
  rfl

/-- The connection that candidates lead to. -/
def lookedUp
    (library : TextLibrary)
    (group : String)
    (candidates : List String)
    (connections : Inventory Identifier StoredConnection) :
    Option (Item Identifier StoredConnection) :=
  candidates.findSome? fun candidate =>
    connections.rows.find? fun item =>
      decide (Names library group candidate item)

theorem resolveIdentifier_eq (candidates : List String) :
    resolveIdentifier library
        (listing StoredConnection.fields connections) candidates group =
      match
          lookedUp library group (normalizedCandidates library candidates)
            connections with
      | some item =>
        (item.identifier.val, cleanField library item.body.fields "name")
      | none => ("", "") := by
  unfold resolveIdentifier lookedUp
  dsimp only
  simp only [find?_listed]
  have mapped :
      ((normalizedCandidates library candidates).findSome?
          fun candidate =>
            (connections.rows.find? fun item =>
              decide (Names library group candidate item)).map
              (listedConnection library)) =
        ((normalizedCandidates library candidates).findSome?
          fun candidate =>
            connections.rows.find? fun item =>
              decide (Names library group candidate item)).map
          (listedConnection library) := by
    rw [List.map_findSome?]
    rfl
  rw [mapped]
  cases
    (normalizedCandidates library candidates).findSome? fun candidate =>
      connections.rows.find? fun item =>
        decide (Names library group candidate item) with
  | none => rfl
  | some item => rfl

theorem lookedUp_eq_some_iff
    {candidates : List String}
    {item : Item Identifier StoredConnection} :
    lookedUp library group candidates connections = some item ↔
      FirstNamed library group candidates connections item := by
  unfold lookedUp FirstNamed
  rw [List.findSome?_eq_some_iff]
  simp only [List.find?_eq_some_iff_append, List.find?_eq_none,
    decide_eq_true_iff, Bool.not_eq_true', decide_eq_false_iff_not]
  constructor
  · rintro ⟨earlier, candidate, later, isSplit,
      ⟨names, before, after, rows, none⟩, absent⟩
    exact
      ⟨earlier, candidate, later, isSplit,
        fun other member text isEarlier =>
          absent text isEarlier other member,
        before, after, rows, names, none⟩
  · rintro ⟨earlier, candidate, later, isSplit, absent, before, after,
      rows, names, none⟩
    exact
      ⟨earlier, candidate, later, isSplit,
        ⟨names, before, after, rows, none⟩,
        fun text isEarlier other member =>
          absent other member text isEarlier⟩

end Lookups

/-! ### The claim and the condition -/

/-- A connection is one that a request asks for, among the sessions that are
listed. -/
structure Suits
    (library : ClaimsLibrary)
    (request : SelectionRequest)
    (sessions : List VmUserSession)
    (connectionId : String) : Prop where
  /-- It is that of the session that is matched. -/
  matched :
    ∀ session,
      matchedSession library request sessions = some session →
      strip session.connectionId ≠ "" →
      connectionId = strip session.connectionId
  /-- It is nobody else's, where the user is not logged on. -/
  unmatched :
    strip request.vmUsername ≠ "" →
    (∀ session ∈ sessions,
      sharesVariant library.toTextLibrary (strip request.vmUsername)
          session.username =
        false) →
    ∀ session ∈ sessions,
      strip session.connectionId ≠ "" →
      connectionId ≠ strip session.connectionId

namespace ClientSessionService

variable
    (service : ClientSessionService)
    (agentId : String)
    (state : AgentState)
    (guacamole : Guacamole)
    (request : SelectionRequest)

/-- A client session is opened on a connection that the request asks for. -/
def SelectsConnection : Prop :=
  ∀ connectionId label,
    service.createClientSession agentId state guacamole request =
      some (.ready connectionId label) →
    Suits service.library request
      (service.sessionInventory agentId state guacamole).1 connectionId

/-- Sessions are opened: there is a target, and Guacamole issues a token. -/
structure Serves (target : ResolvedTarget) : Prop where
  enabled : service.access.bridgeEnabled = true
  targeted : target.connectionId ≠ ""
  username : service.access.username ≠ ""
  password : service.access.password ≠ ""
  token : service.replies.sessionToken = true

/-- The target of a request, after the sessions have been listed. -/
def requestTarget (target : ResolvedTarget) : ResolvedTarget :=
  selectTarget service.library request
    (matchedSession service.library request
      (service.sessionInventory agentId state guacamole).1)
    target

/--
The first candidate that names a connection of the group names one that the
request asks for.  Where the lookups fail, the target itself is one.
-/
def LeadsToAsked (target : ResolvedTarget) : Prop :=
  let sessions := (service.sessionInventory agentId state guacamole).1
  let listed := (service.sessionInventory agentId state guacamole).2
  let library := service.library.toTextLibrary
  if service.replies.lookupsAnswered then
    ∀ group candidates item,
      sessionGroup library target.mapping listed = some group →
      sessionCandidates library agentId target = some candidates →
      FirstNamed library group (normalizedCandidates library candidates)
        listed.connections item →
      Suits service.library request sessions item.identifier.val
  else
    Suits service.library request sessions target.connectionId

variable
    {service : ClientSessionService}
    {agentId : String}
    {state : AgentState}
    {guacamole : Guacamole}
    {request : SelectionRequest}

variable {target : ResolvedTarget}

theorem lookupSession_eq_ready_iff
    {library : TextLibrary}
    (connectionId : String) :
    (∃ label,
        lookupSession library agentId target guacamole =
          some (.ready connectionId label)) ↔
      ∃ group candidates item,
        sessionGroup library target.mapping guacamole = some group ∧
          sessionCandidates library agentId target = some candidates ∧
          FirstNamed library group (normalizedCandidates library candidates)
              guacamole.connections item ∧
            item.identifier.val = connectionId := by
  unfold lookupSession
  cases isGroup : sessionGroup library target.mapping guacamole with
  | none =>
    simp
  | some group =>
    cases isCandidates : sessionCandidates library agentId target with
    | none =>
      simp
    | some candidates =>
      simp only [Option.bind_eq_bind, Option.bind_some,
        resolveIdentifier_eq, Option.some.injEq,
        ← lookedUp_eq_some_iff]
      cases found :
          lookedUp library group
            (normalizedCandidates library candidates)
            guacamole.connections with
      | none =>
        simp [found]
      | some item =>
        have nonempty := item.identifier.property.1
        simp [found, nonempty, orText_of_ne]

theorem createClientSession_of_requested
    (requested :
      ¬ (strip request.connectionId = "" ∧ strip request.vmUsername = ""))
    {target : ResolvedTarget}
    (isTarget :
      resolveTarget service.library service.config service.bridge agentId
          state =
        some target) :
    service.createClientSession agentId state guacamole request =
      openSession service.library.toTextLibrary agentId service.access
        service.replies
        (service.requestTarget agentId state guacamole request target)
        (service.sessionInventory agentId state guacamole).2 := by
  unfold createClientSession
  rw [isTarget]
  have isRequested :
      ¬ (decide (strip request.connectionId = "") &&
          decide (strip request.vmUsername = "")) =
        true := by
    simpa using requested
  simp only [Option.bind_eq_bind, Option.bind_some, if_neg isRequested]
  rfl

theorem openSession_of_serves
    (serves : service.Serves target)
    (guacamole : Guacamole) :
    openSession service.library.toTextLibrary agentId service.access
        service.replies target guacamole =
      if service.replies.lookupsAnswered then
        lookupSession service.library.toTextLibrary agentId target guacamole
      else
        some
          (.ready target.connectionId
            (orText target.connectionLabel target.connectionId)) := by
  unfold openSession
  simp only [serves.enabled, serves.targeted, serves.username,
    serves.password, serves.token]
  cases service.replies.lookupsAnswered with
  | true => rfl
  | false => rfl

theorem serves_of_openSession
    {connectionId label : String}
    (opened :
      openSession service.library.toTextLibrary agentId service.access
          service.replies target guacamole =
        some (.ready connectionId label)) :
    service.Serves target := by
  unfold openSession at opened
  by_cases unset :
      (!service.access.bridgeEnabled ||
          decide (target.connectionId = "")) =
        true
  · rw [if_pos unset] at opened
    cases opened
  rw [if_neg unset] at opened
  by_cases noAccess :
      (decide (service.access.username = "") ||
          decide (service.access.password = "")) =
        true
  · rw [if_pos noAccess] at opened
    cases opened
  rw [if_neg noAccess] at opened
  by_cases noToken : (!service.replies.sessionToken) = true
  · rw [if_pos noToken] at opened
    cases opened
  simp only [Bool.or_eq_true, Bool.not_eq_true', decide_eq_true_iff, not_or,
    Bool.not_eq_false] at unset noAccess noToken
  exact ⟨unset.1, unset.2, noAccess.1, noAccess.2, noToken⟩

theorem suits_of_not_requested
    (unrequested :
      strip request.connectionId = "" ∧ strip request.vmUsername = "")
    (sessions : List VmUserSession)
    (connectionId : String) :
    Suits service.library request sessions connectionId := by
  obtain ⟨noConnection, noUser⟩ := unrequested
  have noMatch : matchedSession service.library request sessions = none := by
    unfold matchedSession
    rw [noConnection, noUser, if_pos rfl, Option.or_none]
    refine List.find?_eq_none.mpr fun session _ => ?_
    exact Bool.false_ne_true
  refine ⟨fun session isMatch => ?_, fun isUser => absurd noUser isUser⟩
  rw [noMatch] at isMatch
  cases isMatch

/--
The connection that was asked for is selected exactly where the first candidate
that names a connection leads to it.
-/
theorem selectsConnection_iff
    (service : ClientSessionService)
    (agentId : String)
    (state : AgentState)
    (guacamole : Guacamole)
    (request : SelectionRequest) :
    service.SelectsConnection agentId state guacamole request ↔
      ∀ resolved,
        resolveTarget service.library service.config service.bridge agentId
            state =
          some resolved →
        let target :=
          service.requestTarget agentId state guacamole request resolved
        service.Serves target →
        service.LeadsToAsked agentId state guacamole request target := by
  by_cases unrequested :
      strip request.connectionId = "" ∧ strip request.vmUsername = ""
  · have suits :=
      @suits_of_not_requested service request unrequested
        (service.sessionInventory agentId state guacamole).1
    refine iff_of_true (fun connectionId _ _ => suits connectionId) ?_
    intro resolved _ target _
    unfold LeadsToAsked
    dsimp only
    cases service.replies.lookupsAnswered with
    | true => exact fun _ _ item _ _ _ => suits item.identifier.val
    | false => exact suits target.connectionId
  · constructor
    · intro selects resolved isTarget target serves
      have created :=
        @createClientSession_of_requested service agentId state guacamole
          request unrequested resolved isTarget
      rw [openSession_of_serves serves] at created
      unfold LeadsToAsked
      dsimp only
      cases answered : service.replies.lookupsAnswered with
      | true =>
        rw [answered, if_pos rfl] at created
        intro group candidates item isGroup areCandidates isFirst
        obtain ⟨label, opened⟩ :=
          (lookupSession_eq_ready_iff item.identifier.val).mpr
            ⟨group, candidates, item, isGroup, areCandidates, isFirst, rfl⟩
        exact selects _ label (created.trans opened)
      | false =>
        rw [answered] at created
        exact selects _ _ created
    · intro leads connectionId label isCreated
      cases isTarget :
          resolveTarget service.library service.config service.bridge
            agentId state with
      | none =>
        unfold createClientSession at isCreated
        rw [isTarget] at isCreated
        cases isCreated
      | some resolved =>
        rw [createClientSession_of_requested unrequested isTarget] at isCreated
        have serves := serves_of_openSession isCreated
        have leadsTo := leads resolved isTarget serves
        rw [openSession_of_serves serves] at isCreated
        unfold LeadsToAsked at leadsTo
        dsimp only at leadsTo
        cases answered : service.replies.lookupsAnswered with
        | true =>
          rw [answered, if_pos rfl] at isCreated leadsTo
          obtain ⟨group, candidates, item, isGroup, areCandidates,
              isFirst, isItem⟩ :=
            (lookupSession_eq_ready_iff connectionId).mp ⟨label, isCreated⟩
          rw [← isItem]
          exact leadsTo group candidates item isGroup areCandidates isFirst
        | false =>
          rw [answered] at isCreated leadsTo
          simp only [Bool.false_eq_true, if_false, Option.some.injEq,
            ClientOutcome.ready.injEq] at isCreated leadsTo
          rw [← isCreated.1]
          exact leadsTo

end ClientSessionService

/-! ### The agent's own connection -/

theorem isIdentifier_one : "1" ≠ "" ∧ strip "1" = "1" := by
  decide +kernel

theorem isIdentifier_two : "2" ≠ "" ∧ strip "2" = "2" := by
  decide +kernel

/-- A service for agents whose connections are named after their hosts. -/
def plainService : ClientSessionService where
  library := { asciiTextLibrary with floatInt := fun _ => none }
  config := { templates := { formatMap := formatPlain } }
  access := { username := "admin", password := "secret" }
  supply :=
    { group := fun _ => ⟨"2", isIdentifier_two⟩
      connection := fun _ => ⟨"2", isIdentifier_two⟩ }
  timestamp := "1700000000"

/-- One user is logged on to a machine. -/
def loggedOn : AgentState where
  record :=
    { id := "vm-7", hostname := "host-7", createdAt := 0, updatedAt := 0 }
  metrics := [("hostname", .str "host-7")]
  entries :=
    [("session-2",
      .obj
        [("username", .str "alice"), ("status", .str "Active"),
          ("session_id", .num 2)])]

/-- The agent's group and its connection, as they have been provisioned. -/
def provisionedAgent : Guacamole where
  groups :=
    KeyedTable.empty.replace
      { identifier := ⟨"1", isIdentifier_one⟩
        body :=
          [("name", .str "vm-7"), ("type", .str "ORGANIZATIONAL"),
            ("parentIdentifier", .str "ROOT")] }
  connections :=
    KeyedTable.empty.replace
      { identifier := ⟨"1", isIdentifier_one⟩
        body :=
          { fields :=
              [("name", .str "host-7"), ("parentIdentifier", .str "1"),
                ("protocol", .str "rdp")] } }

/-- Whatever is asked for is selected. -/
def ConnectionsSelected : Prop :=
  ∀ (service : ClientSessionService)
    (agentId : String)
    (state : AgentState)
    (guacamole : Guacamole)
    (request : SelectionRequest),
    service.SelectsConnection agentId state guacamole request

/-- The user's session is opened on the agent's own connection. -/
theorem not_connectionsSelected : ¬ ConnectionsSelected := by
  intro selected
  have opened :
      plainService.createClientSession "vm-7" loggedOn provisionedAgent
          { vmUsername := "alice" } =
        some (.ready "1" "host-7") := by
    decide +kernel
  have suits :=
    selected plainService "vm-7" loggedOn provisionedAgent
      { vmUsername := "alice" } "1" "host-7" opened
  have isMatched :
      ((matchedSession plainService.library { vmUsername := "alice" }
          (plainService.sessionInventory "vm-7" loggedOn
            provisionedAgent).1).map VmUserSession.connectionId) =
        some "2" := by
    decide +kernel
  obtain ⟨session, isSession, isConnection⟩ :=
    Option.map_eq_some_iff.mp isMatched
  have isOwn := suits.matched session isSession
  rw [isConnection] at isOwn
  have isStripped : strip "2" = "2" := by decide +kernel
  rw [isStripped] at isOwn
  exact absurd (isOwn (by decide)) (by decide)

end RpaPlatform.Agents
