import RpaPlatform.FindOrCreate
import RpaPlatform.GuacamoleTransfers

namespace RpaPlatform.Agents

open Tasks (Json)
open FindOrCreate (Action Inventory Item)

/-!
# Provisioning an agent's group and connection

Guacamole keeps the groups and the connections under identifiers of its own,
and returns what has been written to it.  Provisioning looks an item up under
the identifier in the mapping, or else under the candidates in the mapping,
and updates it unless it is as it should be; what is not found is created.
-/

/-! ### Guacamole -/

/-- An identifier that Guacamole gives. -/
abbrev Identifier :=
  { text : String // text ≠ "" ∧ strip text = text }

/-- The identifier that a text is, if it is one. -/
def identifier? (text : String) : Option Identifier :=
  if isIdentifier : text ≠ "" ∧ strip text = text then
    some ⟨text, isIdentifier⟩
  else
    none

/-- A connection, as Guacamole keeps it. -/
structure StoredConnection where
  fields : JsonObject := []
  parameters : JsonObject := []

/-- The groups and the connections. -/
structure Guacamole where
  groups : Inventory Identifier JsonObject := .empty
  connections : Inventory Identifier StoredConnection := .empty

/-- The identifiers that Guacamole gives next. -/
structure NextIdentifiers where
  group : Identifier
  connection : Identifier

/-- What a request is about. -/
inductive ResourceKind where
  | connectionGroups
  | connections
  deriving DecidableEq, Repr

/-- A request that changes Guacamole. -/
inductive WriteRequest where
  | put (kind : ResourceKind)
  | post (kind : ResourceKind)
  deriving DecidableEq, Repr

section Inventories

variable {Body : Type}

/-- The item under the identifier in a path; there may be none. -/
def getItem
    (inventory : Inventory Identifier Body)
    (identifier : String) : Option (Item Identifier Body) :=
  (identifier? identifier).bind inventory.find?

/-- `PUT`; there is nothing to change under another identifier. -/
def putItem
    (inventory : Inventory Identifier Body)
    (identifier : String)
    (body : Body) : Option (Inventory Identifier Body) :=
  (getItem inventory identifier).map fun item =>
    inventory.modify item.identifier
      (fun stored => { stored with body }) fun _ => rfl

/-- The answer that lists the items, with the fields of each. -/
def listing
    (fieldsOf : Body → JsonObject)
    (inventory : Inventory Identifier Body) : JsonObject :=
  inventory.rows.map fun item =>
    (item.identifier.val,
      .obj
        (Dictionary.set "identifier" (.str item.identifier.val)
          (fieldsOf item.body)))

end Inventories

/-! ### Looking up -/

/-- An item of a listing, as candidates are compared with it. -/
structure ListedItem where
  values : List String
  identifier : String
  name : String

section Lookups

variable (library : TextLibrary)

/-- An item of a listing, unless it has another parent. -/
def listedItem?
    (parentIdentifier : String)
    (entry : String × Json) : Option ListedItem :=
  let field := cleanField library (mappingFields entry.2)
  let cleanIdentifier := strip entry.1
  let itemIdentifier := orText (field "identifier") cleanIdentifier
  let itemName := field "name"
  if parentIdentifier ≠ "" && field "parentIdentifier" ≠ parentIdentifier
  then
    none
  else
    some
      { values :=
          [library.casefold itemIdentifier, library.casefold itemName,
            library.casefold cleanIdentifier]
        identifier := itemIdentifier
        name := itemName }

def normalizedCandidates (candidates : List String) : List String :=
  (candidates.filter fun candidate => strip candidate ≠ "").map
    fun candidate => library.casefold (strip candidate)

/--
`_resolve_connection_identifier`: the identifier and the name of the first item
that a candidate names.  Without a parent, it is
`_resolve_connection_group_identifier`.
-/
def resolveIdentifier
    (listed : JsonObject)
    (candidates : List String)
    (parentIdentifier : String) : String × String :=
  let items := listed.filterMap (listedItem? library parentIdentifier)
  let found :=
    (normalizedCandidates library candidates).findSome? fun candidate =>
      items.find? fun item => candidate ∈ item.values
  match found with
  | some item => (item.identifier, item.name)
  | none => ("", "")

/-- `_request_guacamole_connection_parameters`. -/
def requestParameters (decoded : JsonObject) : List (String × String) :=
  decoded.foldl
    (fun parameters field =>
      let key := strip field.1
      if key ≠ "" then
        Dictionary.set key (cleanString library field.2) parameters
      else
        parameters)
    []

/-- The candidates in a mapping; what is no text cannot be compared. -/
def candidatesOf (mapping : JsonObject) (key : String) : Option (List String) :=
  (listItems (getField mapping key)).bind fun items =>
    items.mapM fun
      | .str text => some text
      | .null => some ""
      | _ => none

end Lookups

/-! ### Upserts -/

/-- What upserts of groups and of connections differ in. -/
structure UpsertKind (Body Payload : Type) where
  kind : ResourceKind
  fieldsOf : Body → JsonObject
  /-- The parent that items are looked up in, if any. -/
  parentIdentifier : String
  /-- What is known of an item that there is not. -/
  blank : Body
  /-- The payload, given the name, the identifier and what there is. -/
  payload : String → String → Body → Payload
  /-- Whether there is what the payload asks for. -/
  payloadMatches : Payload → Body → Bool
  /-- What Guacamole keeps of a payload. -/
  stored : Payload → Body
  /-- The name that is reported. -/
  reportedName : String → Payload → String

/-- What an upsert did; the result is missing where it raised. -/
structure Upserted (Body : Type) where
  inventory : Inventory Identifier Body
  requests : List WriteRequest
  result : Option (Action × UpsertResult)

namespace UpsertKind

variable
    (library : TextLibrary)
    {Body Payload : Type}
    (upsertKind : UpsertKind Body Payload)

/-- Look candidates up among the items. -/
def resolve
    (inventory : Inventory Identifier Body)
    (candidates : List String) : String × String :=
  resolveIdentifier library (listing upsertKind.fieldsOf inventory)
    candidates upsertKind.parentIdentifier

/-- The result of an upsert. -/
def report
    (action : Action)
    (identifier name : String)
    (payload : Payload) : Option (Action × UpsertResult) :=
  some (action, { identifier, name := upsertKind.reportedName name payload })

/-- Create an item. -/
def create
    (inventory : Inventory Identifier Body)
    (unused : Identifier)
    (earlier : List WriteRequest)
    (name : String)
    (payload : Payload) : Upserted Body where
  inventory := inventory.replace ⟨unused, upsertKind.stored payload⟩
  requests := earlier ++ [.post upsertKind.kind]
  result := upsertKind.report .created unused.val name payload

/-- Look candidates up, and a name after them. -/
def resolveStale
    (inventory : Inventory Identifier Body)
    (candidates : List String)
    (name : String) : String × String :=
  upsertKind.resolve library inventory
    (uniqueStrings library ((candidates ++ [name]).map .str))

/-- Send the payload, unless there is what it asks for. -/
def send
    (inventory : Inventory Identifier Body)
    (unused : Identifier)
    (candidates : List String)
    (identifier name : String)
    (existing : Body) : Upserted Body :=
  let payload := upsertKind.payload name identifier existing
  let put := WriteRequest.put upsertKind.kind
  if identifier = "" then
    upsertKind.create inventory unused [] name payload
  else if upsertKind.payloadMatches payload existing then
    { inventory
      requests := []
      result := upsertKind.report .reused identifier name payload }
  else
    match putItem inventory identifier (upsertKind.stored payload) with
    | some written =>
      { inventory := written
        requests := [put]
        result := upsertKind.report .updated identifier name payload }
    | none =>
      let (resolved, resolvedName) :=
        upsertKind.resolveStale library inventory candidates name
      if resolved = "" then
        upsertKind.create inventory unused [put] name payload
      else
        match getItem inventory resolved with
        | none =>
          { inventory, requests := [put], result := none }
        | some item =>
          let name := orText resolvedName name
          if upsertKind.payloadMatches payload item.body then
            { inventory
              requests := [put]
              result :=
                upsertKind.report .reused resolved name payload }
          else
            match
                putItem inventory resolved (upsertKind.stored payload) with
            | some written =>
              { inventory := written
                requests := [put, put]
                result :=
                  upsertKind.report .updated resolved name payload }
            | none =>
              { inventory, requests := [put, put], result := none }

def nameOr (body : Body) (name : String) : String :=
  orText (cleanField library (upsertKind.fieldsOf body) "name") name

/--
Look an item up, under its identifier or else under the candidates; an
identifier that leads nowhere is forgotten.
-/
def upsert
    (inventory : Inventory Identifier Body)
    (unused : Identifier)
    (identifier name : String)
    (candidates : List String) : Upserted Body :=
  let send := upsertKind.send library inventory unused candidates
  let (identifier, name) :=
    if identifier = "" then
      let (resolved, resolvedName) :=
        upsertKind.resolve library inventory candidates
      (resolved, orText resolvedName name)
    else
      (identifier, name)
  if identifier = "" then
    send "" name upsertKind.blank
  else
    match getItem inventory identifier with
    | some item =>
      send identifier (upsertKind.nameOr library item.body name) item.body
    | none =>
      let (resolved, resolvedName) :=
        upsertKind.resolveStale library inventory candidates name
      if resolved = "" then
        send "" name upsertKind.blank
      else
        match getItem inventory resolved with
        | none =>
          { inventory, requests := [], result := none }
        | some item =>
          send resolved
            (upsertKind.nameOr library item.body (orText resolvedName name))
            item.body

end UpsertKind

/-! ### Groups -/

/-- What is sent to Guacamole of a group. -/
structure GroupPayload where
  name : String
  type : String
  parentIdentifier : String
  attributes : List (String × String)

section Provisioning

variable
    (library : TextLibrary)
    (config : ProvisioningConfig)

/-- `_build_guacamole_group_payload`. -/
def buildGroupPayload
    (mapping existing : JsonObject) : GroupPayload where
  name := cleanField library mapping "group_name"
  type := "ORGANIZATIONAL"
  parentIdentifier :=
    orText (cleanField library existing "parentIdentifier")
      config.groupParentIdentifier
  attributes :=
    normalizeStringDict library (mappingFields (getField existing "attributes"))

def groupPayloadMatches
    (payload : GroupPayload)
    (existing : JsonObject) : Bool :=
  let field := cleanField library existing
  decide (field "name" = strip payload.name) &&
    decide (field "type" = strip payload.type) &&
    decide (field "parentIdentifier" = strip payload.parentIdentifier) &&
    sameDict
      (normalizeStringDict library
        (mappingFields (getField existing "attributes")))
      (normalizeStringDict library (textFields payload.attributes))

/-- A group as it is sent. -/
def GroupPayload.toFields (payload : GroupPayload) : JsonObject :=
  [("name", .str payload.name), ("type", .str payload.type),
    ("parentIdentifier", .str payload.parentIdentifier),
    ("attributes", .obj (textFields payload.attributes))]

/-- How groups are upserted. -/
def groupKind (mapping : JsonObject) :
    UpsertKind JsonObject GroupPayload where
  kind := .connectionGroups
  fieldsOf := id
  parentIdentifier := ""
  blank := []
  payload := fun name identifier existing =>
    buildGroupPayload library config
      (Dictionary.set "group_identifier" (.str identifier)
        (Dictionary.set "group_name" (.str name) mapping))
      existing
  payloadMatches := groupPayloadMatches library
  stored := GroupPayload.toFields
  reportedName := fun name _ => name

/-- `_upsert_guacamole_group`. -/
def upsertGroup
    (groups : Inventory Identifier JsonObject)
    (unused : Identifier)
    (mapping : JsonObject) : Upserted JsonObject :=
  match candidatesOf mapping "group_candidates" with
  | none =>
    { inventory := groups, requests := [], result := none }
  | some candidates =>
    (groupKind library config mapping).upsert library groups unused
      (cleanField library mapping "group_identifier")
      (cleanField library mapping "group_name") candidates

/-! ### Connections -/

/-- A connection as Guacamole answers it. -/
def StoredConnection.answered
    (stored : StoredConnection) : ExistingConnection where
  fields := stored.fields
  parameters := requestParameters library stored.parameters

/-- A connection as it is sent. -/
def ConnectionPayload.toStored
    (payload : ConnectionPayload) : StoredConnection where
  fields :=
    [("name", .str payload.name),
      ("parentIdentifier", .str payload.parentIdentifier),
      ("protocol", .str payload.protocol),
      ("attributes", .obj (textFields payload.attributes))]
  parameters := textFields payload.parameters

/-- How the connections of an agent are upserted. -/
def connectionKind
    (agentId : String)
    (mapping : JsonObject)
    (hostname : String)
    (secrets : TemplateSecrets)
    (recordingOwner : Option RecordingOwner)
    (timestamp : String) :
    UpsertKind StoredConnection ConnectionPayload where
  kind := .connections
  fieldsOf := StoredConnection.fields
  parentIdentifier := cleanField library mapping "group_identifier"
  blank := {}
  payload := fun name identifier stored =>
    buildConnectionPayload library config agentId
      (Dictionary.set "connection_identifier" (.str identifier)
        (Dictionary.set "connection_name" (.str name) mapping))
      hostname secrets (stored.answered library) recordingOwner timestamp
  payloadMatches := fun payload stored =>
    payloadMatches library payload (stored.answered library)
  stored := ConnectionPayload.toStored
  reportedName := fun name payload => orText name payload.name

/-- `_upsert_guacamole_connection`. -/
def upsertConnection
    (connections : Inventory Identifier StoredConnection)
    (unused : Identifier)
    (agentId : String)
    (mapping : JsonObject)
    (hostname : String)
    (secrets : TemplateSecrets)
    (recordingOwner : Option RecordingOwner)
    (timestamp : String) : Upserted StoredConnection :=
  match candidatesOf mapping "connection_candidates" with
  | none =>
    { inventory := connections, requests := [], result := none }
  | some candidates =>
    (connectionKind library config agentId mapping hostname secrets
        recordingOwner timestamp).upsert
      library connections unused
      (cleanField library mapping "connection_identifier")
      (orText (cleanField library mapping "connection_name") (strip hostname))
      candidates

/-! ### Provisioning -/

/-- Whether provisioning is on, and the credentials for it. -/
structure ProvisioningAccess where
  autoProvision : Bool := true
  bridgeEnabled : Bool := true
  username : String
  password : String

/-- What provisioning did; the mapping is missing where it raised. -/
structure ProvisionOutcome where
  guacamole : Guacamole
  requests : List WriteRequest
  mapping : Option JsonObject

/-- `provision_guacamole_agent_target_with_diagnostics`. -/
def provision
    (access : ProvisioningAccess)
    (guacamole : Guacamole)
    (unused : NextIdentifiers)
    (agentId hostname : String)
    (mapping : JsonObject)
    (secrets : TemplateSecrets)
    (timestamp : String) : ProvisionOutcome :=
  if !access.autoProvision || !access.bridgeEnabled then
    { guacamole, requests := [], mapping := some mapping }
  else if access.username = "" || access.password = "" then
    { guacamole, requests := [], mapping := none }
  else
    let groups :=
      upsertGroup library config guacamole.groups unused.group mapping
    match groups.result with
    | none =>
      { guacamole := { guacamole with groups := groups.inventory }
        requests := groups.requests
        mapping := none }
    | some (_, group) =>
      let connections :=
        upsertConnection library config guacamole.connections
          unused.connection agentId
          (recordResult "group_identifier" "group_name" group mapping)
          hostname secrets none timestamp
      { guacamole :=
          { groups := groups.inventory
            connections := connections.inventory }
        requests := groups.requests ++ connections.requests
        mapping :=
          connections.result.bind fun upserted =>
            provisionedMapping library agentId hostname mapping
              (.upserted group upserted.2) }

end Provisioning

end RpaPlatform.Agents
