import RpaPlatform.GuacamoleProvisioning
import RpaPlatform.MicrosoftLogin

namespace RpaPlatform.Agents

open Tasks (Json)
open FindOrCreate (Inventory)

/-!
# The users who are logged on to an agent

An agent's state holds the sessions on its machine.  Each user who is logged on
is given a connection of their own in the agent's group, and the sessions are
listed with the connections of their users.
-/

/-! ### The state of an agent -/

/-- What is known of an agent: its record, its metrics and the rest. -/
structure AgentState where
  record : AgentRecord
  metrics : JsonObject := []
  /-- The other entries; sessions are among them. -/
  entries : JsonObject := []

/-- A session on the machine of an agent. -/
structure VmUserSession where
  sessionKey : String
  sessionId : Int := 0
  sessionName : String
  username : String
  status : String := "Unknown"
  type : String := "user_session"
  processCount : Int := 0
  isPreferred : Bool := false
  isActive : Bool := false
  /-- The connection that the user has. -/
  groupIdentifier : String := ""
  groupName : String := ""
  connectionId : String := ""
  connectionName : String := ""

section Extraction

variable (library : ClaimsLibrary)

/-- `int(value or 0)`, or zero where that raises. -/
def intOrZero (value : Json) : Int :=
  (intOf library (orValue value (.num 0))).getD 0

/-- The entries that are sessions of users. -/
def sessionEntries (state : AgentState) : List (String × JsonObject) :=
  state.entries.filterMap fun entry =>
    match entry.2 with
    | .obj fields =>
      let username := cleanField library.toTextLibrary fields "username"
      if entry.1.startsWith "__" || username = "" ||
          library.casefold username ∈
            ["unknown", "system", "nt authority\\system"]
      then
        none
      else
        some (entry.1, fields)
    | _ => none

/-- How active a session is, and whether it is one that a user works in. -/
def sessionScore (status type : String) (sessionId : Int) : List Int :=
  let status := library.casefold status
  [if status = "active" then 2
    else if status ∈ ["connected", "up"] then 1 else 0,
    if library.casefold type ∈ ["interactive", "user_session"] then 1
    else 0,
    if 0 < sessionId then 1 else 0]

def extractPreferredSessionUsername (state : AgentState) : String :=
  let field := cleanField library.toTextLibrary
  let best :=
    (sessionEntries library state).foldl
      (fun (best : List Int × String) entry =>
        let score :=
          sessionScore library (field entry.2 "status")
            (field entry.2 "type")
            (intOrZero library (getField entry.2 "session_id"))
        if best.1 < score then (score, field entry.2 "username") else best)
      ([-1, -1, -1], "")
  best.2

/-- The order of sessions in a list. -/
def sessionBefore (first second : VmUserSession) : Bool :=
  if first.isPreferred != second.isPreferred then
    first.isPreferred
  else if first.isActive != second.isActive then
    first.isActive
  else
    let firstName := library.casefold first.username
    let secondName := library.casefold second.username
    if firstName = secondName then
      first.sessionId ≤ second.sessionId
    else
      firstName < secondName

def extractVmUserSessionEntries (state : AgentState) :
    List VmUserSession :=
  let field := cleanField library.toTextLibrary
  let preferred := extractPreferredSessionUsername library state
  let sessions :=
    (sessionEntries library state).map fun entry =>
      let status := orText (field entry.2 "status") "Unknown"
      let username := field entry.2 "username"
      { sessionKey := entry.1
        sessionId := intOrZero library (getField entry.2 "session_id")
        sessionName := orText (field entry.2 "session_name") entry.1
        username
        status
        type := orText (field entry.2 "type") "user_session"
        processCount :=
          intOrZero library (getField entry.2 "process_count")
        isPreferred := username = preferred
        isActive := library.casefold status = "active" : VmUserSession }
  sessions.insertionSort fun first second =>
    sessionBefore library first second = true

def scoreVmSession (session : VmUserSession) : List Int :=
  sessionScore library session.status session.type session.sessionId ++
    [session.processCount]

/-- The best session of each user, by the user's name. -/
def bestByUsername (sessions : List VmUserSession) :
    List (String × VmUserSession) :=
  sessions.foldl
    (fun best session =>
      let key := library.casefold (strip session.username)
      let isBetter :=
        (best.lookup key).all fun current =>
          decide (scoreVmSession library current <
            scoreVmSession library session)
      if key ≠ "" && isBetter then
        Dictionary.set key session best
      else
        best)
    []

end Extraction

/-! ### Listing -/

/-- The identifiers that Guacamole gives next, given what there is. -/
structure IdentifierSupply where
  group : Inventory Identifier JsonObject → Identifier
  connection : Inventory Identifier StoredConnection → Identifier

/-- The connection that was made for a user. -/
structure UserConnection where
  groupIdentifier : String
  groupName : String
  connectionId : String
  connectionName : String

/-- A session with the connection of its user. -/
def VmUserSession.connect
    (session : VmUserSession)
    (connection : UserConnection) : VmUserSession :=
  { session with
    groupIdentifier := connection.groupIdentifier
    groupName := connection.groupName
    connectionId := connection.connectionId
    connectionName := connection.connectionName }

section Listing

variable
    (library : ClaimsLibrary)
    (config : ProvisioningConfig)
    (agentId : String)

def AgentState.view (state : AgentState) : AgentView where
  metrics := state.metrics
  preferredUsername := extractPreferredSessionUsername library state

/-- Make the connection of one user, and note it. -/
def connectUser
    (hostname displayName : String)
    (base : JsonObject)
    (supply : IdentifierSupply)
    (timestamp : String)
    (made :
      Inventory Identifier StoredConnection ×
        Option (List (String × UserConnection)))
    (user : String × VmUserSession) :
    Inventory Identifier StoredConnection ×
      Option (List (String × UserConnection)) :=
  match made.2 with
  | none =>
    made
  | some resolved =>
    let field := cleanField library.toTextLibrary base
    let mapping :=
      buildVmUserConnectionMapping library.toTextLibrary config agentId
        hostname displayName base
        { username := user.2.username
          sessionName := user.2.sessionName
          sessionId := toString user.2.sessionId }
    match mapping with
    | none =>
      (made.1, none)
    | some mapping =>
      let upserted :=
        upsertConnection library.toTextLibrary config made.1
          (supply.connection made.1) agentId mapping hostname {} none
          timestamp
      let connection := fun result : UpsertResult =>
        { groupIdentifier := field "group_identifier"
          groupName := field "group_name"
          connectionId := strip result.identifier
          connectionName :=
            orText (strip result.name)
              (displayVmUsername library.toTextLibrary user.2.username
                [hostname, displayName, agentId]) : UserConnection }
      (upserted.inventory,
        upserted.result.map fun result =>
          resolved ++ [(user.1, connection result.2)])

/--
`list_vm_user_sessions`, without identities and tracked sessions.  The second
flag says whether Guacamole issues a token.  What an upsert raises is caught.
-/
def listVmUserSessions
    (access : ProvisioningAccess)
    (maintainConnections tokenIssued : Bool)
    (state : AgentState)
    (guacamole : Guacamole)
    (supply : IdentifierSupply)
    (timestamp : String) : Option (List VmUserSession × Guacamole) := do
  let base ←
    extractGuacamoleMapping library.toTextLibrary config agentId
      state.record (state.view library)
  let field := cleanField library.toTextLibrary
  let sessions := extractVmUserSessionEntries library state
  let hostname :=
    orText (field state.metrics "hostname")
      (orText (field base "target_host") agentId)
  let displayName :=
    orText (strip state.record.displayName) (orText hostname agentId)
  let groupName :=
    orText agentId
      (orText (field base "group_name") (orText displayName hostname))
  let base := Dictionary.set "group_name" (.str groupName) base
  if sessions.isEmpty then
    some ([], guacamole)
  else if !maintainConnections || !access.autoProvision ||
      !access.bridgeEnabled || access.username = "" ||
      access.password = ""
  then
    let connected := fun session : VmUserSession =>
      session.connect
        { groupIdentifier := field base "group_identifier"
          groupName
          connectionId := ""
          connectionName :=
            displayVmUsername library.toTextLibrary session.username
              [hostname, displayName, agentId] }
    some (sessions.map connected, guacamole)
  else if !tokenIssued then
    some (sessions, guacamole)
  else
    let groups :=
      upsertGroup library.toTextLibrary config guacamole.groups
        (supply.group guacamole.groups) base
    match groups.result with
    | none =>
      some (sessions, { guacamole with groups := groups.inventory })
    | some (_, group) =>
      let (connections, resolved) :=
        (bestByUsername library sessions).foldl
          (connectUser library config agentId hostname displayName
            (noteGroup group base) supply timestamp)
          (guacamole.connections, some [])
      let connected := fun session : VmUserSession =>
        let key := library.casefold (strip session.username)
        match (resolved.getD []).lookup key with
        | some connection => session.connect connection
        | none => session
      some (sessions.map connected,
          { groups := groups.inventory
            connections })

end Listing

end RpaPlatform.Agents
