import RpaPlatform.PermissionLaws
import RpaPlatform.ProvisioningLaws
import RpaPlatform.RecordingHints

namespace RpaPlatform.Agents

open Tasks (Json)
open FindOrCreate (Action Inventory Item Scheme)

/-!
# Provisioning twice

A mapping that has been built is provisioned twice.  The second time nothing is
sent, provided that the group and the connection are found: where the first
time created one of them, its name or its identifier has to be among the
candidates.  A rendered name is not cleaned before it is chosen, so a group may
be created without a name.
-/

/-! ### Runs of an upsert -/

namespace UpsertKind

variable
    {library : TextLibrary}
    {Body Payload : Type}
    {upsertKind : UpsertKind Body Payload}
    {inventory : Inventory Identifier Body}

/-- An item that an upsert leaves is found by the next one. -/
def Recognized
    (library : TextLibrary)
    (upsertKind : UpsertKind Body Payload)
    (inventory : Inventory Identifier Body)
    (unused : Identifier)
    (given : Option Identifier)
    (name : String)
    (names : List String) : Prop :=
  Scheme.Recognizes inventory (upsertKind.scheme library name) given names
    unused

theorem nameOr_outcome
    {name : String}
    (settles : upsertKind.Settles library name)
    (isClean : strip name = name)
    (unused : Identifier)
    (given : Option Identifier)
    (names : List String) :
    upsertKind.nameOr library
        ((upsertKind.scheme library name).run inventory given names
          unused).item.body
        name =
      (((upsertKind.scheme library name).find inventory given names).map
          fun item => upsertKind.nameOr library item.body name).getD name := by
  cases found : (upsertKind.scheme library name).find inventory given names with
  | some item =>
    rw [Scheme.run_of_found found]
    by_cases settled : (upsertKind.scheme library name).settled item = true
    · rw [if_pos settled]
      rfl
    · rw [if_neg settled]
      exact nameOr_stored settles isClean _ _
  | none =>
    rw [Scheme.run_of_absent found]
    exact nameOr_created settles isClean _ _

variable
    {name : String}
    {unused : Identifier}
    {given : Option Identifier}
    {names : List String}

theorem runOf_again
    (settles : upsertKind.Settles library name)
    (isClean : strip name = name)
    (isUnused : inventory.find? unused = none)
    (recognized :
      upsertKind.Recognized library inventory unused given name names)
    (later : Identifier) :
    (upsertKind.runOf library
        (upsertKind.runOf library inventory unused given name names).inventory
        later given name names).requests =
      [] := by
  have again :=
    Scheme.run_run (settles.lawful isClean) isUnused recognized later
  exact
    congrArg (fun outcome => requestsOf upsertKind.kind outcome.action) again

theorem requests_ne_nil_of_not_recognized
    (isUnused : inventory.find? unused = none)
    (unrecognized :
      ¬ upsertKind.Recognized library inventory unused given name names)
    (later : Identifier) :
    (upsertKind.runOf library
        (upsertKind.runOf library inventory unused given name names).inventory
        later given name names).requests =
      [.post upsertKind.kind] := by
  have again := Scheme.action_run_run isUnused unrecognized later
  exact congrArg (requestsOf upsertKind.kind) again

theorem result_again
    (settles : upsertKind.Settles library name)
    (isClean : strip name = name)
    (reports : upsertKind.reportedName = fun text _ => text)
    (isUnused : inventory.find? unused = none)
    (recognized :
      upsertKind.Recognized library inventory unused given name names)
    (later : Identifier) :
    (upsertKind.runOf library
        (upsertKind.runOf library inventory unused given name names).inventory
        later given name names).result.map Prod.snd =
      (upsertKind.runOf library inventory unused given name
        names).result.map Prod.snd := by
  have again :=
    Scheme.run_run (settles.lawful isClean) isUnused recognized later
  have found :=
    Scheme.find_run (settles.lawful isClean) isUnused recognized
  have sameName :=
    @nameOr_outcome _ _ _ _ inventory _ settles isClean unused given names
  have reported :
      ∀ item : Option (Item Identifier Body),
        reportFor library upsertKind name item =
          (item.map fun item =>
            upsertKind.nameOr library item.body name).getD name := by
    intro item
    cases item with
    | none | some =>
      exact congrFun (congrFun reports _) _
  unfold runOf
  dsimp only
  rw [Option.map_some, Option.map_some, reported, reported, found,
    ← sameName, again]
  rfl

theorem identifier?_eq_some_iff
    {text : String}
    {identifier : Identifier} :
    identifier? text = some identifier ↔ text = identifier.val := by
  constructor
  · intro isIdentifier
    unfold identifier? at isIdentifier
    split at isIdentifier
    · exact congrArg Subtype.val (Option.some.inj isIdentifier)
    · cases isIdentifier
  · rintro rfl
    exact identifier?_val identifier

theorem namesOf_created
    (settles : upsertKind.Settles library name)
    (isClean : strip name = name)
    (unused : Identifier) :
    upsertKind.namesOf library
        ⟨unused, (upsertKind.scheme library name).created⟩ =
      library.casefold unused.val ::
        (if name = "" then [] else [library.casefold name]) := by
  have inside :
      upsertKind.inParent library
          ⟨unused, (upsertKind.scheme library name).created⟩ =
        true := by
    rcases settles.parent_stored name "" upsertKind.blank with
      noParent | sameParent
    · simp [inParent, noParent]
    · exact Bool.or_eq_true_iff.mpr (.inr (decide_eq_true sameParent))
  have sameName :
      upsertKind.nameOf library
          ⟨unused, (upsertKind.scheme library name).created⟩ =
        name :=
    settles.name_stored name ⟨isClean, id⟩ _ _
  unfold namesOf
  rw [if_pos inside, sameName]

/-- An item is recognized by what there is and by what is created. -/
theorem recognized_iff
    (folds : library.FoldsNonempty)
    (settles : upsertKind.Settles library name)
    (isClean : strip name = name)
    (unused : Identifier)
    (identifier : String)
    (candidates : List String) :
    upsertKind.Recognized library inventory unused (identifier? identifier)
        name (normalizedCandidates library candidates) ↔
      (getItem inventory identifier).isSome = true ∨
        (upsertKind.resolve library inventory candidates).1 ≠ "" ∨
          identifier = unused.val ∨
            library.casefold unused.val ∈
                normalizedCandidates library candidates ∨
              name ≠ "" ∧
                library.casefold name ∈
                  normalizedCandidates library candidates := by
  have isFound :
      ((upsertKind.scheme library name).find inventory
            (identifier? identifier)
            (normalizedCandidates library candidates)).isSome =
          true ↔
        (getItem inventory identifier).isSome = true ∨
          (upsertKind.resolve library inventory candidates).1 ≠ "" := by
    rw [resolve_eq folds candidates name]
    unfold Scheme.find getItem
    rw [Option.isSome_or, Bool.or_eq_true]
    refine or_congr_right ?_
    cases (upsertKind.scheme library name).resolve inventory
        (normalizedCandidates library candidates) with
    | none =>
      simp
    | some item =>
      simp [item.identifier.property.1]
  have isNamed :
      (∃ candidate ∈ normalizedCandidates library candidates,
          candidate ∈
            upsertKind.namesOf library
              ⟨unused, (upsertKind.scheme library name).created⟩) ↔
        library.casefold unused.val ∈
            normalizedCandidates library candidates ∨
          name ≠ "" ∧
            library.casefold name ∈
              normalizedCandidates library candidates := by
    rw [namesOf_created settles isClean]
    by_cases unnamed : name = ""
    · rw [if_pos unnamed]
      simp [unnamed]
    · rw [if_neg unnamed]
      simp [unnamed, and_or_left, exists_or]
  unfold Recognized Scheme.Recognizes
  rw [isFound, identifier?_eq_some_iff, or_assoc]
  exact or_congr_right (or_congr_right (or_congr_right isNamed))

end UpsertKind

/-! ### What is kept -/

/-- The candidates that are looked up; a name is one, where an identifier has
led nowhere. -/
def soughtCandidates
    (library : TextLibrary)
    (identifier name : String)
    (candidates : List String) : List String :=
  if identifier = "" then candidates
  else uniqueStrings library ((candidates ++ [name]).map .str)

section Kept

variable
    (library : TextLibrary)
    {Body : Type}
    (fieldsOf : Body → JsonObject)
    (inventory : Inventory Identifier Body)
    (parentIdentifier identifier name : String)
    (candidates : List String)
    (unused : Identifier)

/-- What is found or created is found afterwards. -/
def Kept : Prop :=
  (getItem inventory identifier).isSome = true ∨
    (resolveIdentifier library (listing fieldsOf inventory) candidates
        parentIdentifier).1 ≠ "" ∨
      identifier = unused.val ∨
        library.casefold unused.val ∈
            normalizedCandidates library candidates ∨
          name ≠ "" ∧
            library.casefold name ∈ normalizedCandidates library candidates

/-- The identifier of what is found or created. -/
def keptIdentifier : String :=
  if (getItem inventory identifier).isSome then
    identifier
  else
    orText
      (resolveIdentifier library (listing fieldsOf inventory) candidates
        parentIdentifier).1
      unused.val

end Kept

section Conditions

variable
    (library : TextLibrary)
    (mapping : JsonObject)

/-- The candidates for the group of a mapping. -/
def groupCandidates : List String :=
  soughtCandidates library (cleanField library mapping "group_identifier")
    (cleanField library mapping "group_name")
    ((candidatesOf mapping "group_candidates").getD [])

/-- The group of a mapping is found again. -/
def GroupKept
    (groups : Inventory Identifier JsonObject)
    (unused : Identifier) : Prop :=
  Kept library id groups "" (cleanField library mapping "group_identifier")
    (cleanField library mapping "group_name")
    (groupCandidates library mapping) unused

/-- The group that a mapping is provisioned in. -/
def groupIdentifier
    (groups : Inventory Identifier JsonObject)
    (unused : Identifier) : String :=
  keptIdentifier library id groups ""
    (cleanField library mapping "group_identifier")
    (groupCandidates library mapping) unused

def connectionName (hostname : String) : String :=
  orText (cleanField library mapping "connection_name") (strip hostname)

/-- The candidates for the connection of a mapping. -/
def connectionCandidates (hostname : String) : List String :=
  soughtCandidates library
    (cleanField library mapping "connection_identifier")
    (connectionName library mapping hostname)
    ((candidatesOf mapping "connection_candidates").getD [])

/-- The connection of a mapping is found again, in its group. -/
def ConnectionKept
    (hostname : String)
    (guacamole : Guacamole)
    (unused : NextIdentifiers) : Prop :=
  Kept library StoredConnection.fields guacamole.connections
    (groupIdentifier library mapping guacamole.groups unused.group)
    (cleanField library mapping "connection_identifier")
    (connectionName library mapping hostname)
    (connectionCandidates library mapping hostname) unused.connection

end Conditions

def ProvisioningAccess.active (access : ProvisioningAccess) : Bool :=
  access.autoProvision && access.bridgeEnabled &&
    decide (access.username ≠ "") && decide (access.password ≠ "")

/-- The templates of the connections do not use the time. -/
def TimestampFree
    (library : TextLibrary)
    (config : ProvisioningConfig) : Prop :=
  ∀ template ∈ [config.parameterTemplate, config.attributeTemplate],
    ∀ values first second,
      renderedDict library config
          (values ++ [("timestamp", first), ("date", first)]) template =
        renderedDict library config
          (values ++ [("timestamp", second), ("date", second)]) template

/-! ### Provisioning -/

namespace UpsertKind

variable
    {library : TextLibrary}
    {Body Payload : Type}
    {upsertKind : UpsertKind Body Payload}
    {inventory : Inventory Identifier Body}

theorem identifier_run
    (folds : library.FoldsNonempty)
    (name : String)
    (unused : Identifier)
    (identifier : String)
    (candidates : List String) :
    ((upsertKind.scheme library name).run inventory
        (identifier? identifier)
        (normalizedCandidates library candidates)
        unused).item.identifier.val =
      keptIdentifier library upsertKind.fieldsOf inventory
        upsertKind.parentIdentifier identifier candidates unused := by
  have resolved :=
    @resolve_eq _ _ _ upsertKind inventory folds candidates name
  unfold resolve at resolved
  unfold keptIdentifier
  rw [resolved]
  cases found :
      (upsertKind.scheme library name).find inventory
        (identifier? identifier)
        (normalizedCandidates library candidates) with
  | none =>
    have ⟨noneGiven, noneNamed⟩ := Option.or_eq_none_iff.mp found
    have notThere : getItem inventory identifier = none := noneGiven
    rw [Scheme.run_of_absent found, notThere, noneNamed]
    rfl
  | some item =>
    have isItem :
        ((upsertKind.scheme library name).run inventory
            (identifier? identifier)
            (normalizedCandidates library candidates)
            unused).item.identifier =
          item.identifier := by
      rw [Scheme.run_of_found found]
      split <;> rfl
    rw [isItem]
    rcases Option.or_eq_some_iff.mp found with isGiven | ⟨noneGiven, named⟩
    · have isThere : getItem inventory identifier = some item := isGiven
      rw [isThere, Option.isSome_some, if_pos rfl]
      exact (getItem_eq_some isThere).2
    · have notThere : getItem inventory identifier = none := noneGiven
      rw [notThere, named]
      exact (orText_of_ne item.identifier.property.1 _).symm

end UpsertKind

section Provisioning

variable
    {library : TextLibrary}
    {config : ProvisioningConfig}
    {mapping : JsonObject}
    {agentId hostname : String}
    {secrets : TemplateSecrets}

/-- The upsert of the group, as a run. -/
def groupRun
    (library : TextLibrary)
    (config : ProvisioningConfig)
    (mapping : JsonObject)
    (groups : Inventory Identifier JsonObject)
    (unused : Identifier) : Upserted JsonObject :=
  (groupKind library config mapping).runOf library groups unused
    (identifier? (cleanField library mapping "group_identifier"))
    (cleanField library mapping "group_name")
    (normalizedCandidates library (groupCandidates library mapping))

theorem upsertGroup_eq
    (folds : library.FoldsNonempty)
    (listed : (candidatesOf mapping "group_candidates").isSome = true)
    (groups : Inventory Identifier JsonObject)
    (unused : Identifier) :
    upsertGroup library config groups unused mapping =
      groupRun library config mapping groups unused := by
  obtain ⟨candidates, isListed⟩ := Option.isSome_iff_exists.mp listed
  unfold upsertGroup groupRun groupCandidates
  rw [isListed]
  exact UpsertKind.upsert_eq_runOf folds unused _ _ candidates

/-- The upsert of the connection, as a run. -/
def connectionRun
    (library : TextLibrary)
    (config : ProvisioningConfig)
    (agentId : String)
    (mapping : JsonObject)
    (hostname : String)
    (secrets : TemplateSecrets)
    (timestamp : String)
    (connections : Inventory Identifier StoredConnection)
    (unused : Identifier) : Upserted StoredConnection :=
  (connectionKind library config agentId mapping hostname secrets none
      timestamp).runOf
    library connections unused
    (identifier? (cleanField library mapping "connection_identifier"))
    (connectionName library mapping hostname)
    (normalizedCandidates library
      (connectionCandidates library mapping hostname))

theorem upsertConnection_eq
    (folds : library.FoldsNonempty)
    (listed : (candidatesOf mapping "connection_candidates").isSome = true)
    (connections : Inventory Identifier StoredConnection)
    (unused : Identifier)
    (timestamp : String) :
    upsertConnection library config connections unused agentId mapping
        hostname secrets none timestamp =
      connectionRun library config agentId mapping hostname secrets
        timestamp connections unused := by
  obtain ⟨candidates, isListed⟩ := Option.isSome_iff_exists.mp listed
  unfold upsertConnection connectionRun connectionCandidates
  rw [isListed]
  exact UpsertKind.upsert_eq_runOf folds unused _ _ candidates

/-- The mapping that the connection is upserted with. -/
def groupedMapping
    (group : UpsertResult)
    (mapping : JsonObject) : JsonObject :=
  recordResult "group_identifier" "group_name" group mapping

theorem getField_groupedMapping
    {key : String}
    (notIdentifier : key ≠ "group_identifier")
    (notName : key ≠ "group_name")
    (group : UpsertResult) :
    getField (groupedMapping group mapping) key = getField mapping key := by
  unfold groupedMapping getField fieldOr
  rw [lookup_recordResult notIdentifier notName]

theorem connectionName_groupedMapping (group : UpsertResult) :
    connectionName library (groupedMapping group mapping) hostname =
      connectionName library mapping hostname := by
  unfold connectionName cleanField
  rw [getField_groupedMapping (by decide) (by decide)]

theorem candidatesOf_groupedMapping (group : UpsertResult) :
    candidatesOf (groupedMapping group mapping) "connection_candidates" =
      candidatesOf mapping "connection_candidates" := by
  unfold candidatesOf
  rw [getField_groupedMapping (by decide) (by decide)]

theorem cleanField_groupedMapping (group : UpsertResult) :
    cleanField library (groupedMapping group mapping)
        "connection_identifier" =
      cleanField library mapping "connection_identifier" := by
  unfold cleanField
  rw [getField_groupedMapping (by decide) (by decide)]

theorem connectionCandidates_groupedMapping (group : UpsertResult) :
    connectionCandidates library (groupedMapping group mapping) hostname =
      connectionCandidates library mapping hostname := by
  unfold connectionCandidates
  rw [connectionName_groupedMapping, candidatesOf_groupedMapping,
    cleanField_groupedMapping]

theorem groupIdentifier_groupedMapping
    (group : UpsertResult)
    (isClean : strip group.identifier = group.identifier) :
    cleanField library (groupedMapping group mapping) "group_identifier" =
      group.identifier := by
  unfold groupedMapping recordResult
  dsimp only
  split
  · rw [cleanField_set_other (by decide), cleanField_set_self, isClean]
  · rw [cleanField_set_self, isClean]

def reported {Body : Type} (upserted : Upserted Body) : UpsertResult :=
  (upserted.result.map Prod.snd).getD { identifier := "", name := "" }

/-- The requests and the inventories of provisioning are those of two runs. -/
theorem provision_eq
    (folds : library.FoldsNonempty)
    {access : ProvisioningAccess}
    (active : access.active = true)
    (groupsListed : (candidatesOf mapping "group_candidates").isSome = true)
    (connectionsListed :
      (candidatesOf mapping "connection_candidates").isSome = true)
    (guacamole : Guacamole)
    (unused : NextIdentifiers)
    (timestamp : String) :
    let outcome :=
      provision library config access guacamole unused agentId hostname
        mapping secrets timestamp
    let groups :=
      groupRun library config mapping guacamole.groups unused.group
    let connections :=
      connectionRun library config agentId
        (groupedMapping (reported groups) mapping) hostname secrets
        timestamp guacamole.connections unused.connection
    outcome.guacamole =
        { groups := groups.inventory
          connections := connections.inventory } ∧
      outcome.requests = groups.requests ++ connections.requests := by
  unfold ProvisioningAccess.active at active
  simp only [Bool.and_eq_true, decide_eq_true_iff] at active
  obtain ⟨⟨⟨isOn, isEnabled⟩, named⟩, secret⟩ := active
  have isGroup := @upsertGroup_eq library config mapping folds groupsListed
  have isConnection : ∀ group : UpsertResult, _ :=
    fun group =>
      @upsertConnection_eq library config (groupedMapping group mapping)
        agentId hostname secrets folds
        (by rw [candidatesOf_groupedMapping]; exact connectionsListed)
  dsimp only
  unfold provision
  rw [isOn, isEnabled, isGroup]
  simp only [Bool.not_true, Bool.or_self, named, secret, decide_false]
  obtain ⟨action, hasResult⟩ :
      ∃ action,
        (groupRun library config mapping guacamole.groups
            unused.group).result =
          some
            (action,
              reported
                (groupRun library config mapping guacamole.groups
                  unused.group)) :=
    ⟨_, rfl⟩
  generalize
    groupRun library config mapping guacamole.groups unused.group =
      groups at hasResult
  have sent :=
    isConnection (reported groups) guacamole.connections unused.connection
      timestamp
  generalize reported groups = group at hasResult sent
  unfold groupedMapping at sent
  rw [if_neg Bool.false_ne_true, if_neg Bool.false_ne_true, hasResult]
  dsimp only
  rw [sent]
  exact ⟨rfl, rfl⟩

/-! ### The group, twice -/

section Groups

variable
    {groups : Inventory Identifier JsonObject}
    {unused : Identifier}

theorem groupKept_iff
    (folds : library.FoldsNonempty)
    (config : ProvisioningConfig)
    (groups : Inventory Identifier JsonObject)
    (unused : Identifier) :
    GroupKept library mapping groups unused ↔
      (groupKind library config mapping).Recognized library groups unused
        (identifier? (cleanField library mapping "group_identifier"))
        (cleanField library mapping "group_name")
        (normalizedCandidates library (groupCandidates library mapping)) :=
  (UpsertKind.recognized_iff folds (groupKind_settles _)
    (strip_cleanField mapping "group_name") unused _ _).symm

theorem identifier_groupRun
    (folds : library.FoldsNonempty)
    (config : ProvisioningConfig)
    (mapping : JsonObject)
    (groups : Inventory Identifier JsonObject)
    (unused : Identifier) :
    (reported (groupRun library config mapping groups unused)).identifier =
      groupIdentifier library mapping groups unused :=
  UpsertKind.identifier_run folds _ unused _ _

theorem strip_identifier_groupRun :
    strip
        (reported (groupRun library config mapping groups unused)).identifier =
      (reported
        (groupRun library config mapping groups unused)).identifier := by
  have isIdentifier :
      ∃ identifier : Identifier,
        (reported
            (groupRun library config mapping groups unused)).identifier =
          identifier.val :=
    ⟨_, rfl⟩
  obtain ⟨identifier, isValue⟩ := isIdentifier
  rw [isValue]
  exact identifier.property.2

theorem groupRun_again
    (folds : library.FoldsNonempty)
    (config : ProvisioningConfig)
    (isUnused : groups.find? unused = none)
    (kept : GroupKept library mapping groups unused)
    (later : Identifier) :
    (groupRun library config mapping
          (groupRun library config mapping groups unused).inventory
          later).requests =
        [] ∧
      reported
          (groupRun library config mapping
            (groupRun library config mapping groups unused).inventory
            later) =
        reported (groupRun library config mapping groups unused) := by
  have recognized := (groupKept_iff folds config groups unused).mp kept
  have settles :=
    @groupKind_settles library config mapping
      (cleanField library mapping "group_name")
  have isClean := @strip_cleanField library mapping "group_name"
  constructor
  · exact UpsertKind.runOf_again settles isClean isUnused recognized later
  · have again :=
      UpsertKind.result_again settles isClean rfl isUnused recognized later
    exact congrArg (fun result => Option.getD result _) again

theorem groupRun_not_kept
    (folds : library.FoldsNonempty)
    (config : ProvisioningConfig)
    (isUnused : groups.find? unused = none)
    (lost : ¬ GroupKept library mapping groups unused)
    (later : Identifier) :
    (groupRun library config mapping
        (groupRun library config mapping groups unused).inventory
        later).requests =
      [.post .connectionGroups] :=
  UpsertKind.requests_ne_nil_of_not_recognized isUnused
    (fun recognized => lost ((groupKept_iff folds config _ _).mpr recognized))
    later

end Groups

/-! ### The connection, twice -/

theorem valuesFor_eq (timestamp name : String) :
    valuesFor library config agentId mapping hostname secrets timestamp
        name =
      (valuesFor library config agentId mapping hostname secrets ""
          name).take 9 ++
        [("timestamp", timestamp), ("date", timestamp)] := by
  unfold valuesFor buildTemplateValues
  rfl

theorem connectionKind_congr
    (timestampFree : TimestampFree library config)
    (first second : String) :
    connectionKind library config agentId mapping hostname secrets none
        first =
      connectionKind library config agentId mapping hostname secrets none
        second := by
  have samePayload :
      (connectionKind library config agentId mapping hostname secrets none
          first).payload =
        (connectionKind library config agentId mapping hostname secrets none
          second).payload := by
    funext name identifier existing
    have rendered :
        ∀ template ∈ [config.parameterTemplate, config.attributeTemplate],
          renderedDict library config
              (valuesFor library config agentId mapping hostname secrets
                first name)
              template =
            renderedDict library config
              (valuesFor library config agentId mapping hostname secrets
                second name)
              template := by
      intro template member
      rw [valuesFor_eq first, valuesFor_eq second]
      exact timestampFree template member _ first second
    rw [connectionPayload_eq, connectionPayload_eq]
    unfold plainParameters connectionParameters
    rw [rendered _ (by simp), rendered _ (by simp)]
  have kinds :
      connectionKind library config agentId mapping hostname secrets none
          first =
        { connectionKind library config agentId mapping hostname secrets
            none second with
          payload :=
            (connectionKind library config agentId mapping hostname secrets
              none first).payload } :=
    rfl
  rw [kinds, samePayload]

theorem settles_connectionName (timestamp : String) :
    (connectionKind library config agentId mapping hostname secrets none
        timestamp).Settles library
      (connectionName library mapping hostname) :=
  connectionKind_settles _

theorem strip_connectionName :
    strip (connectionName library mapping hostname) =
      connectionName library mapping hostname :=
  strip_orText (strip_cleanField _ _) (strip_strip _)

section Connections

variable
    {guacamole : Guacamole}
    {unused : NextIdentifiers}
    {group : UpsertResult}

theorem connectionKept_iff
    (folds : library.FoldsNonempty)
    (isGroup :
      group.identifier =
        groupIdentifier library mapping guacamole.groups unused.group)
    (isClean : strip group.identifier = group.identifier)
    (config : ProvisioningConfig)
    (agentId hostname : String)
    (secrets : TemplateSecrets)
    (timestamp : String) :
    ConnectionKept library mapping hostname guacamole unused ↔
      (connectionKind library config agentId (groupedMapping group mapping)
            hostname secrets none timestamp).Recognized
        library guacamole.connections unused.connection
        (identifier?
          (cleanField library (groupedMapping group mapping)
            "connection_identifier"))
        (connectionName library (groupedMapping group mapping) hostname)
        (normalizedCandidates library
          (connectionCandidates library (groupedMapping group mapping)
            hostname)) := by
  refine
    Iff.trans ?_
      (UpsertKind.recognized_iff folds (settles_connectionName _)
        strip_connectionName unused.connection _ _).symm
  have parent :
      (connectionKind library config agentId (groupedMapping group mapping)
          hostname secrets none timestamp).parentIdentifier =
        groupIdentifier library mapping guacamole.groups unused.group :=
    (groupIdentifier_groupedMapping group isClean).trans isGroup
  unfold ConnectionKept Kept UpsertKind.resolve
  rw [parent, connectionName_groupedMapping, cleanField_groupedMapping,
    connectionCandidates_groupedMapping]
  rfl

variable
    {connections : Inventory Identifier StoredConnection}
    {identifier : Identifier}

theorem connectionRun_again
    (timestampFree : TimestampFree library config)
    (isUnused : connections.find? identifier = none)
    {first : String}
    (recognized :
      (connectionKind library config agentId mapping hostname secrets none
            first).Recognized
        library connections identifier
        (identifier? (cleanField library mapping "connection_identifier"))
        (connectionName library mapping hostname)
        (normalizedCandidates library
          (connectionCandidates library mapping hostname)))
    (second : String)
    (later : Identifier) :
    (connectionRun library config agentId mapping hostname secrets second
        (connectionRun library config agentId mapping hostname secrets
          first connections identifier).inventory
        later).requests =
      [] := by
  unfold connectionRun
  rw [connectionKind_congr timestampFree second first]
  exact
    UpsertKind.runOf_again (settles_connectionName _) strip_connectionName
      isUnused recognized later

theorem connectionRun_not_kept
    (timestampFree : TimestampFree library config)
    (isUnused : connections.find? identifier = none)
    {first : String}
    (unrecognized :
      ¬ (connectionKind library config agentId mapping hostname secrets none
            first).Recognized
        library connections identifier
        (identifier? (cleanField library mapping "connection_identifier"))
        (connectionName library mapping hostname)
        (normalizedCandidates library
          (connectionCandidates library mapping hostname)))
    (second : String)
    (later : Identifier) :
    (connectionRun library config agentId mapping hostname secrets second
        (connectionRun library config agentId mapping hostname secrets
          first connections identifier).inventory
        later).requests =
      [.post .connections] := by
  unfold connectionRun
  rw [connectionKind_congr timestampFree second first]
  exact UpsertKind.requests_ne_nil_of_not_recognized isUnused unrecognized later

end Connections

/-! ### Both, twice -/

/-- Where the requests of a mapping come from, and what they are sent with. -/
structure ProvisioningInput where
  access : ProvisioningAccess
  agentId : String
  hostname : String
  secrets : TemplateSecrets := {}

/-- A second run sends nothing, and a first run creates one item of a kind. -/
def ProvisionsOnce
    (library : TextLibrary)
    (config : ProvisioningConfig)
    (input : ProvisioningInput)
    (mapping : JsonObject)
    (guacamole : Guacamole)
    (unused later : NextIdentifiers)
    (firstTime secondTime : String) : Prop :=
  let provisionAt := fun guacamole unused timestamp =>
    provision library config input.access guacamole unused input.agentId
      input.hostname mapping input.secrets timestamp
  let first := provisionAt guacamole unused firstTime
  let second := provisionAt first.guacamole later secondTime
  second.requests = [] ∧ ∀ kind, first.requests.count (.post kind) ≤ 1

theorem count_post_le_one (group connection : Action) (kind : ResourceKind) :
    (UpsertKind.requestsOf .connectionGroups group ++
          UpsertKind.requestsOf .connections connection).count
        (.post kind) ≤
      1 := by
  cases group <;> cases connection <;> cases kind <;> decide

theorem provision_of_inactive
    {access : ProvisioningAccess}
    (inactive : access.active = false)
    (guacamole : Guacamole)
    (unused : NextIdentifiers)
    (timestamp : String) :
    (provision library config access guacamole unused agentId hostname
        mapping secrets timestamp).requests =
      [] := by
  unfold provision
  by_cases off : (!access.autoProvision || !access.bridgeEnabled) = true
  · rw [if_pos off]
  · rw [if_neg off]
    by_cases noAccess :
        (decide (access.username = "") || decide (access.password = "")) = true
    · rw [if_pos noAccess]
    · simp only [Bool.or_eq_true, Bool.not_eq_true', not_or,
        Bool.not_eq_false, decide_eq_true_iff] at off noAccess
      exfalso
      unfold ProvisioningAccess.active at inactive
      simp [off.1, off.2, noAccess.1, noAccess.2] at inactive

/-- A mapping is provisioned once, where what it needs is kept. -/
theorem provisionsOnce_iff
    (folds : library.FoldsNonempty)
    (timestampFree : TimestampFree library config)
    {input : ProvisioningInput}
    (groupsListed : (candidatesOf mapping "group_candidates").isSome = true)
    (connectionsListed :
      (candidatesOf mapping "connection_candidates").isSome = true)
    {guacamole : Guacamole}
    {unused : NextIdentifiers}
    (groupUnused : guacamole.groups.find? unused.group = none)
    (connectionUnused : guacamole.connections.find? unused.connection = none)
    (later : NextIdentifiers)
    (firstTime secondTime : String) :
    ProvisionsOnce library config input mapping guacamole unused later
        firstTime secondTime ↔
      (input.access.active = true →
        GroupKept library mapping guacamole.groups unused.group ∧
          ConnectionKept library mapping input.hostname guacamole unused) := by
  unfold ProvisionsOnce
  dsimp only
  by_cases active : input.access.active = true
  · obtain ⟨firstState, firstRequests⟩ :=
      provision_eq folds active groupsListed connectionsListed guacamole
        unused firstTime
    obtain ⟨-, secondRequests⟩ :=
      provision_eq folds active groupsListed connectionsListed
        { groups :=
            (groupRun library config mapping guacamole.groups
              unused.group).inventory
          connections :=
            (connectionRun library config input.agentId
              (groupedMapping
                (reported
                  (groupRun library config mapping guacamole.groups
                    unused.group))
                mapping)
              input.hostname input.secrets firstTime guacamole.connections
              unused.connection).inventory }
        later secondTime
    have identifier :=
      identifier_groupRun folds config mapping guacamole.groups unused.group
    have connectionKept :=
      connectionKept_iff folds identifier strip_identifier_groupRun config
        input.agentId input.hostname input.secrets firstTime
    rw [firstState, firstRequests, secondRequests]
    constructor
    · rintro ⟨noRequests, -⟩ -
      obtain ⟨noGroup, noConnection⟩ := List.append_eq_nil_iff.mp noRequests
      have groupKept :
          GroupKept library mapping guacamole.groups unused.group := by
        by_contra lost
        rw [groupRun_not_kept folds config groupUnused lost] at noGroup
        cases noGroup
      obtain ⟨-, sameGroup⟩ :=
        groupRun_again folds config groupUnused groupKept later.group
      refine ⟨groupKept, ?_⟩
      by_contra lost
      have created :=
        connectionRun_not_kept timestampFree connectionUnused
          (fun recognized => lost (connectionKept.mpr recognized))
          secondTime later.connection
      rw [sameGroup, created] at noConnection
      cases noConnection
    · intro kept
      obtain ⟨groupKept, isKept⟩ := kept active
      obtain ⟨noGroup, sameGroup⟩ :=
        groupRun_again folds config groupUnused groupKept later.group
      refine ⟨?_, ?_⟩
      · rw [noGroup, sameGroup, List.nil_append]
        exact
          connectionRun_again timestampFree connectionUnused
            (connectionKept.mp isKept) secondTime later.connection
      · exact count_post_le_one _ _
  · have inactive : input.access.active = false :=
      Bool.not_eq_true _ ▸ active
    rw [provision_of_inactive inactive, provision_of_inactive inactive]
    simp [active]

/-! ### Mappings that are built -/

theorem candidatesOf_texts
    {key : String}
    {values : List String}
    (found : mapping.lookup key = some (texts values)) :
    candidatesOf mapping key = some values := by
  have listed : listItems (texts values) = some (values.map .str) := by
    cases values <;> rfl
  unfold candidatesOf getField fieldOr
  rw [found, Option.getD_some, listed, Option.bind_some]
  clear found listed
  induction values with
  | nil =>
    rfl
  | cons value rest inductionHypothesis =>
    rw [List.map_cons, List.mapM_cons, inductionHypothesis]
    rfl

theorem casefold_mem_normalized
    (folds : library.FoldsNonempty)
    {values : List Json}
    {name : String}
    (nonempty : name ≠ "")
    (member : name ∈ values.map (cleanString library)) :
    library.casefold name ∈
      normalizedCandidates library (uniqueStrings library values) := by
  have folded :
      library.casefold name ∈
        (uniqueStrings library values).map library.casefold :=
    (casefold_mem_dropRepeated List.not_mem_nil _).mpr
      ⟨name, member, nonempty, rfl⟩
  obtain ⟨candidate, isCandidate, sameFold⟩ := List.mem_map.mp folded
  obtain ⟨value, -, isValue⟩ :=
    List.mem_map.mp (mem_of_mem_dropRepeated isCandidate)
  have isClean : strip candidate = candidate := by
    rw [← isValue]
    exact strip_cleanString library value
  have isText : candidate ≠ "" := by
    rintro rfl
    exact nonempty (folds name sameFold.symm)
  refine List.mem_map.mpr ⟨candidate, ?_, ?_⟩
  · refine List.mem_filter.mpr ⟨isCandidate, decide_eq_true ?_⟩
    rw [isClean]
    exact isText
  · rw [isClean]
    exact sameFold

theorem kept_of_name
    (folds : library.FoldsNonempty)
    {values : List Json}
    {name : String}
    (isClean : strip name = name)
    (nonempty : name ≠ "")
    {identifier : String}
    (member : name ∈ values.map (cleanString library))
    {Body : Type}
    (fieldsOf : Body → JsonObject)
    (inventory : Inventory Identifier Body)
    (parentIdentifier : String)
    (unused : Identifier) :
    Kept library fieldsOf inventory parentIdentifier identifier name
      (soughtCandidates library identifier name (uniqueStrings library values))
      unused := by
  refine .inr (.inr (.inr (.inr ⟨nonempty, ?_⟩)))
  unfold soughtCandidates
  by_cases noIdentifier : identifier = ""
  · rw [if_pos noIdentifier]
    exact casefold_mem_normalized folds nonempty member
  · rw [if_neg noIdentifier]
    refine casefold_mem_normalized folds nonempty ?_
    refine List.mem_map.mpr ⟨.str name, ?_, isClean⟩
    exact
      List.mem_map_of_mem
        (List.mem_append_right _ (List.mem_singleton_self name))

section Built

variable (request : MappingRequest)

theorem groupCandidates_built :
    ∃ values,
      candidatesOf
            (buildAgentGuacamoleMapping library config.templates request)
            "group_candidates" =
          some (uniqueStrings library values) ∧
        cleanField library
            (buildAgentGuacamoleMapping library config.templates request)
            "group_name" ∈
          values.map (cleanString library) := by
  refine ⟨_, candidatesOf_texts rfl, ?_⟩
  rw [cleanField_of_lookup rfl]
  exact List.mem_map.mpr ⟨_, List.mem_cons_self, rfl⟩

theorem connectionCandidates_built :
    ∃ values,
      candidatesOf
            (buildAgentGuacamoleMapping library config.templates request)
            "connection_candidates" =
          some (uniqueStrings library values) ∧
        cleanField library
            (buildAgentGuacamoleMapping library config.templates request)
            "connection_name" ∈
          values.map (cleanString library) := by
  refine ⟨_, candidatesOf_texts rfl, ?_⟩
  rw [cleanField_of_lookup rfl]
  exact
    List.mem_map.mpr ⟨_, List.mem_cons_of_mem _ List.mem_cons_self, rfl⟩

theorem groupKept_of_name
    (folds : library.FoldsNonempty)
    (isNamed :
      cleanField library
          (buildAgentGuacamoleMapping library config.templates request)
          "group_name" ≠
        "")
    (groups : Inventory Identifier JsonObject)
    (unused : Identifier) :
    GroupKept library
      (buildAgentGuacamoleMapping library config.templates request) groups
      unused := by
  obtain ⟨values, listed, member⟩ :=
    @groupCandidates_built library config request
  unfold GroupKept groupCandidates
  rw [listed]
  exact
    kept_of_name folds (strip_cleanField _ _) isNamed member id groups "" unused

theorem connectionKept_of_name
    (folds : library.FoldsNonempty)
    (isNamed :
      cleanField library
          (buildAgentGuacamoleMapping library config.templates request)
          "connection_name" ≠
        "")
    (hostname : String)
    (guacamole : Guacamole)
    (unused : NextIdentifiers) :
    ConnectionKept library
      (buildAgentGuacamoleMapping library config.templates request) hostname
      guacamole unused := by
  obtain ⟨values, listed, member⟩ :=
    @connectionCandidates_built library config request
  have isName :
      connectionName library
          (buildAgentGuacamoleMapping library config.templates request)
          hostname =
        cleanField library
          (buildAgentGuacamoleMapping library config.templates request)
          "connection_name" :=
    orText_of_ne isNamed _
  unfold ConnectionKept connectionCandidates
  rw [listed, isName]
  exact
    kept_of_name folds (strip_cleanField _ _) isNamed member
      StoredConnection.fields guacamole.connections _ unused.connection

/--
A mapping that is built is provisioned once exactly where its group and its
connection are kept.
-/
theorem built_provisionsOnce_iff
    (folds : library.FoldsNonempty)
    (timestampFree : TimestampFree library config)
    {input : ProvisioningInput}
    {guacamole : Guacamole}
    {unused : NextIdentifiers}
    (groupUnused : guacamole.groups.find? unused.group = none)
    (connectionUnused : guacamole.connections.find? unused.connection = none)
    (later : NextIdentifiers)
    (firstTime secondTime : String) :
    ProvisionsOnce library config input
        (buildAgentGuacamoleMapping library config.templates request)
        guacamole unused later firstTime secondTime ↔
      (input.access.active = true →
        GroupKept library
            (buildAgentGuacamoleMapping library config.templates request)
            guacamole.groups unused.group ∧
          ConnectionKept library
            (buildAgentGuacamoleMapping library config.templates request)
            input.hostname guacamole unused) := by
  obtain ⟨groups, groupsListed, -⟩ :=
    @groupCandidates_built library config request
  obtain ⟨connections, connectionsListed, -⟩ :=
    @connectionCandidates_built library config request
  exact
    provisionsOnce_iff folds timestampFree
      (Option.isSome_iff_exists.mpr ⟨_, groupsListed⟩)
      (Option.isSome_iff_exists.mpr ⟨_, connectionsListed⟩) groupUnused
      connectionUnused later firstTime secondTime

end Built

end Provisioning

/-! ### A group without a name -/

theorem foldsNonempty_ascii : asciiTextLibrary.FoldsNonempty := by
  intro text sameFold
  have noCharacters : text.toList.map Char.toLower = [] :=
    String.ofList_injective sameFold
  exact String.toList_eq_nil_iff.mp (List.map_eq_nil_iff.mp noCharacters)

def groupsNamedBy (template : String) : ProvisioningConfig where
  templates := { groupName := template, formatMap := formatPlain }

theorem timestampFree_groupsNamedBy (template : String) :
    TimestampFree asciiTextLibrary (groupsNamedBy template) := by
  intro template member values first second
  have isEmpty : template = [] := by
    simpa [groupsNamedBy] using member
  rw [isEmpty]
  rfl

def unusedAgent : MappingRequest where
  agentId := "vm-7"
  hostname := "host-7"

def unusedAgentInput : ProvisioningInput where
  access := { username := "admin", password := "secret" }
  agentId := "vm-7"
  hostname := "host-7"

def firstIdentifiers : NextIdentifiers where
  group := ⟨"1", by decide +kernel⟩
  connection := ⟨"1", by decide +kernel⟩

def laterIdentifiers : NextIdentifiers where
  group := ⟨"2", by decide +kernel⟩
  connection := ⟨"2", by decide +kernel⟩

/-- A group that is named after the host is created once. -/
theorem unusedAgent_provisionsOnce :
    ProvisionsOnce asciiTextLibrary (groupsNamedBy "{hostname}")
      unusedAgentInput
      (buildAgentGuacamoleMapping asciiTextLibrary
        (groupsNamedBy "{hostname}").templates unusedAgent)
      {} firstIdentifiers laterIdentifiers "1700000000" "1700000060" := by
  refine
    (built_provisionsOnce_iff unusedAgent foldsNonempty_ascii
      (timestampFree_groupsNamedBy "{hostname}") rfl rfl laterIdentifiers
      "1700000000" "1700000060").mpr fun _ => ?_
  exact
    ⟨groupKept_of_name unusedAgent foldsNonempty_ascii (by decide +kernel)
        _ _,
      connectionKept_of_name unusedAgent foldsNonempty_ascii
        (by decide +kernel) _ _ _⟩

/-- Every mapping that is built is provisioned once. -/
def ProvisioningIdempotent : Prop :=
  ∀ (library : TextLibrary)
    (config : ProvisioningConfig)
    (request : MappingRequest)
    (input : ProvisioningInput)
    (guacamole : Guacamole)
    (unused later : NextIdentifiers)
    (firstTime secondTime : String),
    library.FoldsNonempty →
    TimestampFree library config →
    guacamole.groups.find? unused.group = none →
    guacamole.connections.find? unused.connection = none →
    ProvisionsOnce library config input
      (buildAgentGuacamoleMapping library config.templates request)
      guacamole unused later firstTime secondTime

/-- A group whose name is a rendered blank is created twice. -/
theorem not_provisioningIdempotent : ¬ ProvisioningIdempotent := by
  intro idempotent
  have ⟨noRequests, _⟩ :=
    idempotent asciiTextLibrary (groupsNamedBy "{username} {domain}")
      unusedAgent unusedAgentInput {} firstIdentifiers laterIdentifiers
      "1700000000" "1700000060" foldsNonempty_ascii
      (timestampFree_groupsNamedBy "{username} {domain}") rfl rfl
  revert noRequests
  decide +kernel

end RpaPlatform.Agents
