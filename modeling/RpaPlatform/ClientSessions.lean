import RpaPlatform.VmUserSessions

namespace RpaPlatform.Agents

open Tasks (Json)

/-!
# Client sessions

A client session is opened on a connection of Guacamole.  The connection is
that of the agent, unless a user or a connection is asked for and is found
among the sessions on the machine; what has been chosen is then looked up once
more, after the candidates in the mapping.
-/

/-! ### The target -/

/-- Where connections are found that no mapping names. -/
structure BridgeConfig where
  connectionMap : List (String × String) := []
  defaultConnectionMode : String := "hostname"

/-- What a session is opened on. -/
structure ResolvedTarget where
  connectionId : String
  connectionLabel : String
  mapping : JsonObject
  /-- The resolved fields that are candidates. -/
  targetHost : String
  hostname : String

section Targets

variable
    (library : ClaimsLibrary)
    (config : ProvisioningConfig)
    (bridge : BridgeConfig)
    (agentId : String)

def resolveConnectionId (metrics mapping : JsonObject) : String :=
  let metric := cleanField library.toTextLibrary metrics
  let mapped := cleanField library.toTextLibrary mapping
  let candidates :=
    [agentId, mapped "target_host", metric "hostname",
      metric "azure_vm_name", metric "azure_public_ip",
      metric "azure_private_ip"]
  let byMode :=
    match bridge.defaultConnectionMode with
    | "agent_id" => agentId
    | "azure_vm_name" => metric "azure_vm_name"
    | "public_ip" => metric "azure_public_ip"
    | "private_ip" => metric "azure_private_ip"
    | _ => ""
  let byMap :=
    candidates.findSome? fun candidate =>
      if candidate = "" then none
      else bridge.connectionMap.lookup candidate
  orText (mapped "connection_identifier")
    (orText (mapped "connection_name")
      (byMap.getD (orText byMode (orText (metric "hostname") agentId))))

/-- `_resolve_target`; it raises where the mapping cannot be extracted. -/
def resolveTarget (state : AgentState) : Option ResolvedTarget := do
  let mapping ←
    extractGuacamoleMapping library.toTextLibrary config agentId
      state.record (state.view library)
  let hostname :=
    cleanField library.toTextLibrary state.metrics "hostname"
  let connectionId :=
    resolveConnectionId library bridge agentId state.metrics mapping
  some
    { connectionId
      connectionLabel := orText connectionId (orText hostname agentId)
      mapping
      targetHost :=
        orText (cleanField library.toTextLibrary mapping "target_host") hostname
      hostname }

/-- `_reconcile_provisioned_target`, where Guacamole may issue no token. -/
def reconcileProvisionedTarget
    (access : ProvisioningAccess)
    (tokenIssued : Bool)
    (target : ResolvedTarget)
    (guacamole : Guacamole)
    (supply : IdentifierSupply)
    (timestamp : String) : ResolvedTarget × Guacamole :=
  if !access.autoProvision || !access.bridgeEnabled ||
      target.mapping.isEmpty || target.hostname = "" ||
      access.username = "" || access.password = "" || !tokenIssued
  then
    (target, guacamole)
  else
    let unused : NextIdentifiers :=
      { group := supply.group guacamole.groups
        connection := supply.connection guacamole.connections }
    let provisioned :=
      provision library.toTextLibrary config access guacamole unused agentId
        target.hostname target.mapping {} timestamp
    match provisioned.mapping with
    | none =>
      (target, provisioned.guacamole)
    | some refreshed =>
      let field := cleanField library.toTextLibrary refreshed
      ({ connectionId :=
          orText (field "connection_identifier") target.connectionId
         connectionLabel :=
          orText (field "connection_name") target.connectionLabel
         mapping := refreshed
         targetHost := orText (field "target_host") target.hostname
         hostname := target.hostname },
        provisioned.guacamole)

end Targets

/-! ### The request -/

/-- One more variant of a name, if there is one. -/
def addVariant
    (library : TextLibrary)
    (part : Option String)
    (variants : List String) : List String :=
  match part with
  | none => variants
  | some text => uniqueStrings library ((variants ++ [text]).map .str)

/-- `_build_username_variants`, of a text that has been cleaned. -/
def cleanUsernameVariants
    (library : TextLibrary)
    (clean : String) : List String :=
  if clean = "" then
    []
  else
    addVariant library ((splitOnce '@' clean).map Prod.fst)
      (addVariant library ((rsplitOnce '\\' clean).map Prod.snd)
        (uniqueStrings library [.str clean]))

def buildUsernameVariants
    (library : TextLibrary)
    (value : String) : List String :=
  cleanUsernameVariants library (strip value)

def foldedVariants (library : TextLibrary) (value : String) :
    List String :=
  (buildUsernameVariants library value).map library.casefold

/-- Whether two names have a variant in common. -/
def sharesVariant
    (library : TextLibrary)
    (first second : String) : Bool :=
  (foldedVariants library first).any (· ∈ foldedVariants library second)

/-- What a client session is asked for. -/
structure SelectionRequest where
  connectionId : String := ""
  vmUsername : String := ""

section Requests

variable
    (library : ClaimsLibrary)
    (request : SelectionRequest)

/-- The session that a request matches: by the user, or else by the
connection. -/
def matchedSession (sessions : List VmUserSession) :
    Option VmUserSession :=
  (sessions.find? fun session =>
      sharesVariant library.toTextLibrary (strip request.vmUsername)
        session.username).or
    (if strip request.connectionId = "" then
      none
    else
      sessions.find? fun session =>
        strip session.connectionId = strip request.connectionId)

/-- The target of a request, given the session that it matches. -/
def selectTarget
    (matched : Option VmUserSession)
    (target : ResolvedTarget) : ResolvedTarget :=
  match matched with
  | some session =>
    { target with
      connectionId :=
        orText (strip session.connectionId)
          (orText (strip request.connectionId) target.connectionId)
      connectionLabel :=
        orText (strip session.connectionName)
          (orText (strip session.username) target.connectionLabel)
      mapping :=
        matchMapping library.toTextLibrary
          { username := session.username
            groupIdentifier := session.groupIdentifier
            groupName := session.groupName
            connectionIdentifier := session.connectionId
            connectionName := session.connectionName }
          target.mapping }
  | none =>
    if strip request.connectionId ≠ "" && strip request.vmUsername = ""
    then
      { target with connectionId := strip request.connectionId }
    else
      target

end Requests

/-! ### Opening a session -/

/-- What comes of a request for a session. -/
inductive ClientOutcome where
  | needsConfiguration
  | authFailed
  /-- The connection of the client session, and its label. -/
  | ready (connectionId connectionLabel : String)
  deriving DecidableEq, Repr

/-- Whether Guacamole issues tokens, and answers the lookups of a session. -/
structure GuacamoleReplies where
  listingToken : Bool := true
  sessionToken : Bool := true
  lookupsAnswered : Bool := true

section Sessions

variable
    (library : TextLibrary)
    (agentId : String)

/-- The group that the connection is looked up in; it may be any. -/
def sessionGroup (mapping : JsonObject) (guacamole : Guacamole) :
    Option String :=
  let given := cleanField library mapping "group_identifier"
  if given = "" then
    (candidatesOf mapping "group_candidates").map fun candidates =>
      (resolveIdentifier library (listing id guacamole.groups) candidates "").1
  else
    some given

/-- The texts that the connection is looked up under. -/
def sessionCandidates (target : ResolvedTarget) : Option (List String) :=
  (listItems (getField target.mapping "connection_candidates")).map
    fun candidates =>
      uniqueStrings library
        (candidates ++
          [.str target.connectionId, .str target.connectionLabel,
            .str (strip target.targetHost), .str (strip target.hostname),
            .str agentId])

/-- The lookup of a session's connection, and what comes of it. -/
def lookupSession
    (target : ResolvedTarget)
    (guacamole : Guacamole) : Option ClientOutcome := do
  let group ← sessionGroup library target.mapping guacamole
  let candidates ← sessionCandidates library agentId target
  let (lookupId, lookupName) :=
    resolveIdentifier library
      (listing StoredConnection.fields guacamole.connections) candidates
      group
  let connectionId := orText lookupId target.connectionId
  let name := orText lookupName target.connectionLabel
  if lookupName = "" && lookupId = "" then
    some .needsConfiguration
  else
    some
      (.ready connectionId
        (orText name (orText connectionId target.connectionLabel)))

/-- What comes of a session on a target that is not recorded. -/
def openSession
    (access : ProvisioningAccess)
    (replies : GuacamoleReplies)
    (target : ResolvedTarget)
    (guacamole : Guacamole) : Option ClientOutcome :=
  if !access.bridgeEnabled || target.connectionId = "" then
    some .needsConfiguration
  else if access.username = "" || access.password = "" then
    some .needsConfiguration
  else if !replies.sessionToken then
    some .authFailed
  else if !replies.lookupsAnswered then
    some
      (.ready target.connectionId
        (orText target.connectionLabel target.connectionId))
  else
    lookupSession library agentId target guacamole

end Sessions

/-- What a client session is created with, besides the request. -/
structure ClientSessionService where
  library : ClaimsLibrary
  config : ProvisioningConfig := {}
  bridge : BridgeConfig := {}
  access : ProvisioningAccess
  replies : GuacamoleReplies := {}
  supply : IdentifierSupply
  timestamp : String

namespace ClientSessionService

variable
    (service : ClientSessionService)
    (agentId : String)
    (state : AgentState)
    (guacamole : Guacamole)

/-- The sessions on the machine, with their connections. -/
def userSessions : Option (List VmUserSession × Guacamole) :=
  listVmUserSessions service.library service.config agentId service.access
    true service.replies.listingToken state guacamole service.supply
    service.timestamp

/-- The sessions that a request is matched with; none, where listing them
raises. -/
def sessionInventory : List VmUserSession × Guacamole :=
  (service.userSessions agentId state guacamole).getD ([], guacamole)

/-- `create_guacamole_client_session`, of a session that is not recorded. -/
def createClientSession (request : SelectionRequest) :
    Option ClientOutcome := do
  let target ←
    resolveTarget service.library service.config service.bridge agentId state
  let openOn := fun target guacamole =>
    openSession service.library.toTextLibrary agentId service.access
      service.replies target guacamole
  if strip request.connectionId = "" && strip request.vmUsername = "" then
    let (reconciled, guacamole) :=
      reconcileProvisionedTarget service.library service.config agentId
        service.access service.replies.listingToken target guacamole
        service.supply service.timestamp
    openOn reconciled guacamole
  else
    let (sessions, guacamole) :=
      service.sessionInventory agentId state guacamole
    openOn
      (selectTarget service.library request
        (matchedSession service.library request sessions) target)
      guacamole

end ClientSessionService

end RpaPlatform.Agents
